import Mathlib
import TagScript.Proofs.Programs

/-!
# References to objects

What the accounts say about whole runs of sources. After any number of runs each count is exact: an
object counts the handles to it that are stored. Two further promises need care on the side of the
program. No stored handle is left of an object that is gone, unless a method reads its receiver
after that has been reclaimed. No object is left that nothing refers to, unless a program repeats a
parameter, returns another object from a constructor, or recovers from a failed use of an object
that only the failing expression held.
-/

namespace TagScript

open State Eval

namespace Machine

/-- The machines that sources lead to, run or declared, whether they succeed or fail, and however
many steps a run may take. A reset leads back to the first one. -/
inductive Reachable : Machine → Prop
  | fresh : Reachable {}
  | run {machine later : Machine} {source : String} {steps : Nat} {result : Except Failure Unit}
    (earlier : Reachable machine) (ran : machine.runSource? source steps = some (result, later)) :
    Reachable later
  | declare {machine later : Machine} {source : String} {result : Except Failure Unit}
    (earlier : Reachable machine) (ran : machine.declareSource? source = some (result, later)) :
    Reachable later
  | takeOutput {machine : Machine} (earlier : Reachable machine) : Reachable machine.takeOutput.2

theorem Reachable.rests {machine : Machine} (reachable : machine.Reachable) :
    machine.state.Rests ⟨False, False⟩ := by
  induction reachable with
  | fresh => exact .initial
  | @run machine later source steps result earlier ran ih =>
    rw [← watchedRun?_true] at ran
    exact (rests_of_watchedRun? ⟨False.elim, False.elim⟩ ih False.elim ran).1
  | @declare machine later source result earlier ran ih =>
    unfold declareSource? afterParsing at ran
    split at ran
    · cases ran
      exact ih
    · next program read =>
      obtain ⟨⟨inner, later⟩, ended, ⟨⟩⟩ := Option.map_eq_some_iff.1 ran
      exact rests_declare (Program.isProper_ofSource read) False.elim _ _ _ ih ended
  | takeOutput earlier ih => exact ih

end Machine

/-- After any runs of sources, successful or not, every live object counts exactly the handles to it
that are stored, in variables, in attributes and at any depth inside stored arrays. -/
theorem references_eq_occurrences {machine : Machine} (reachable : machine.Reachable)
    {handle : Handle} {object : Instance} (live : machine.state.heap.get? handle = some object) :
    object.references = machine.state.storage.occurrences handle := by
  have counted : machine.state.heap.references? handle = some object.references := by
    rw [Heap.references?, live, Option.map_some]
  exact (reachable.rests.counts handle).counted counted

/-- Stores an object in a variable, in its own attribute and in an array, and fails. -/
def Script.sharing : String :=
  "<? class C \x7b public $o; \x7d $a = new C(); $a->o = $a; $b[0][1] = $a; $b[2] = $a; f();"

/-- Overwrites a cell of the array and copies it. -/
def Script.copying : String :=
  "<? $b[0] = 0; $c = $b;"

/-- Two runs on one machine, the first of which fails. The object is left with four references: from
a variable, from its attribute and from two copies of an array. -/
theorem references_eq_occurrences_of_sharing : ∃ failure first result second,
    Machine.runSource? {} Script.sharing = some (.error failure, first) ∧
    first.runSource? Script.copying = some (result, second) ∧
    second.state.heap.get? 0 = some ⟨0, "C", 4⟩ ∧ second.state.storage.occurrences 0 = 4 := by
  have ends : ((Machine.runSource? {} Script.sharing).bind fun one =>
      (one.2.runSource? Script.copying).map fun two => (one.1.toOption, two.2.state.heap.get? 0)) =
        some (none, some ⟨0, "C", 4⟩) := by cbv
  obtain ⟨⟨failed, first⟩, ran, rest⟩ := Option.bind_eq_some_iff.1 ends
  obtain ⟨⟨result, second⟩, ran', shown⟩ := Option.map_eq_some_iff.1 rest
  obtain ⟨isError, live⟩ := Prod.mk.inj shown
  cases failed with
  | ok value => cases isError
  | error failure =>
    have reachable : second.Reachable := (Machine.Reachable.fresh.run ran).run ran'
    exact ⟨failure, first, result, second, ran, ran', live,
      (references_eq_occurrences reachable live).symm⟩

/-- A handle that is stored after a run leads to a live object, unless a method has read its
receiver when that was gone already. -/
theorem isSome_of_stored {source : String} {steps : Nat} {result : Except Failure Unit}
    {later : Machine}
    (attends : Machine.watchedRun? attentive {} source steps = Machine.runSource? {} source steps)
    (ran : Machine.runSource? {} source steps = some (result, later)) {place : Binding}
    {value : Value}
    (stored : later.state.storage.get? place = some value) {handle : Handle}
    (inside : handle ∈ value.handles) : (later.state.heap.get? handle).isSome := by
  rw [← attends] at ran
  have trusts : Care.Trusts ⟨True, False⟩ attentive := ⟨fun _ => id, False.elim⟩
  have rests := (Machine.rests_of_watchedRun? trusts .initial False.elim ran).1
  have present : 0 < later.state.storage.occurrences handle :=
    Nat.lt_of_lt_of_le (Value.mem_handles.1 inside) (Storage.occurrences_le stored handle)
  have live := (rests.counts handle).alive trivial (Nat.add_pos_left present _)
  rwa [Heap.references?, Option.isSome_map] at live

/-- Keeps what a method returns in an array, and overwrites the variable that held the object. -/
def Script.keeping : String :=
  "<? class C \x7b function me() \x7b return $this; \x7d \x7d " ++
    "$a = new C(); $b[0][1] = $a->me(); $a = 0;"

/-- A method may return its receiver to be stored. -/
theorem isSome_of_stored_in_keeping : ∃ result later cells,
    Machine.watchedRun? attentive {} Script.keeping = Machine.runSource? {} Script.keeping ∧
    Machine.runSource? {} Script.keeping = some (result, later) ∧
    later.state.storage.get? ⟨.array, ".global#b"⟩ = some (.array cells) ∧
    0 ∈ (Value.array cells).handles ∧ (later.state.heap.get? 0).isSome := by
  have attends : Machine.watchedRun? attentive {} Script.keeping =
      Machine.runSource? {} Script.keeping := by
    cbv
  have ends : (Machine.runSource? {} Script.keeping).map
      (fun ran => ran.2.state.storage.get? ⟨.array, ".global#b"⟩) =
        some (some (.array [("0", .array [("1", .object 0)])])) := by cbv
  obtain ⟨⟨result, later⟩, ran, stored⟩ := Option.map_eq_some_iff.1 ends
  have inside : 0 ∈ (Value.array [("0", .array [("1", .object 0)])]).handles := by decide
  exact ⟨result, later, _, attends, ran, stored, inside,
    isSome_of_stored attends ran stored inside⟩

/-- Drops the last reference to the receiver of a call in an argument of that call. -/
def Script.dropping : String :=
  "<? class H \x7b public $o; \x7d " ++
    "class C \x7b function m($x) \x7b return $this; \x7d \x7d " ++
    "function drop() \x7b $h->o = 0; return 1; \x7d " ++
    "$h = new H(); $h->o = new C(); $x = $h->o->m(drop());"

/-- The receiver of a call is not counted while the arguments are evaluated, so it can be gone when
the method starts. What the method then stores leads nowhere. -/
theorem dangling_after_dropping : ∃ later,
    Machine.runSource? {} Script.dropping = some (.ok (), later) ∧
    later.state.storage.get? ⟨.object, ".global#x"⟩ = some (.object 1) ∧
    later.state.heap.get? 1 = none := by
  have ends : (Machine.runSource? {} Script.dropping).map (fun ran =>
      (ran.1, ran.2.state.storage.get? ⟨.object, ".global#x"⟩, ran.2.state.heap.get? 1)) =
        some (.ok (), some (.object 1), none) := by cbv
  obtain ⟨⟨result, later⟩, ran, shown⟩ := Option.map_eq_some_iff.1 ends
  simp only [Prod.mk.injEq] at shown
  obtain ⟨rfl, stored, gone⟩ := shown
  exact ⟨later, ran, stored, gone⟩

/-- Every object that is live after a run that succeeds has a reference, provided that no parameter
is repeated, that constructors return no other object, and that a recovered fault leaves no object
behind. -/
theorem references_pos {source : String} {steps : Nat} {later : Machine}
    (distinct : ∀ program, Program.ofSource source = .ok program → program.DistinctParams)
    (tidies : Machine.watchedRun? tidying {} source steps = Machine.runSource? {} source steps)
    (ran : Machine.runSource? {} source steps = some (.ok (), later)) {handle : Handle}
    {object : Instance} (live : later.state.heap.get? handle = some object) :
    0 < object.references := by
  rw [← tidies] at ran
  have trusts : Care.Trusts ⟨False, True⟩ tidying := ⟨False.elim, fun _ => id⟩
  have rests := (Machine.rests_of_watchedRun? trusts .initial (fun _ => distinct) ran).2 rfl
  refine Nat.pos_of_ne_zero fun unreferenced => ?_
  have none : later.state.heap.references? handle = some 0 := by
    rw [Heap.references?, live, Option.map_some, unreferenced]
  exact Nat.lt_irrefl 0 ((rests.counts handle).tidy trivial none)

/-- Calls a method in an assignment that has to start over, and another one on an object that
nothing stores. -/
def Script.recovering : String :=
  "<? class C \x7b function m($a) \x7b return $a; \x7d \x7d " ++
    "$c = new C(); $x = $c->m($x); (new C())->m(1);"

/-- Of two objects the one that is stored is left. -/
theorem references_pos_in_recovering : ∃ later object,
    (∀ program, Program.ofSource Script.recovering = .ok program → program.DistinctParams) ∧
    Machine.watchedRun? tidying {} Script.recovering = Machine.runSource? {} Script.recovering ∧
    Machine.runSource? {} Script.recovering = some (.ok (), later) ∧
    later.state.heap.get? 0 = some object ∧ 0 < object.references := by
  have tidies : Machine.watchedRun? tidying {} Script.recovering =
      Machine.runSource? {} Script.recovering := by cbv
  have distinct : (Program.ofSource Script.recovering).toOption.all
      (fun program => decide program.DistinctParams) = true := by cbv
  have ends : (Machine.runSource? {} Script.recovering).map (fun ran =>
      (ran.1, ran.2.state.heap.get? 0, ran.2.state.heap.get? 1)) =
        some (.ok (), some ⟨0, "C", 1⟩, none) := by cbv
  obtain ⟨⟨result, later⟩, ran, shown⟩ := Option.map_eq_some_iff.1 ends
  simp only [Prod.mk.injEq] at shown
  obtain ⟨rfl, live, -⟩ := shown
  have distinct (program : Program) (read : Program.ofSource Script.recovering = .ok program) :
      program.DistinctParams := by simpa [read, Except.toOption] using distinct
  exact ⟨later, _, distinct, tidies, ran, live, references_pos distinct tidies ran live⟩

/-- A run that succeeds leaves an object that nothing refers to. -/
def LeavesBehind (source : String) (handle : Handle) : Prop :=
  ∃ later object, Machine.runSource? {} source = some (.ok (), later) ∧
    later.state.heap.get? handle = some object ∧ object.references = 0

theorem leavesBehind_of_run {source : String} {handle : Handle} (object : Instance)
    (ends : (Machine.runSource? {} source).map
      (fun ran => (ran.1, ran.2.state.heap.get? handle)) = some (.ok (), some object))
    (unreferenced : object.references = 0) : LeavesBehind source handle := by
  obtain ⟨⟨result, later⟩, ran, shown⟩ := Option.map_eq_some_iff.1 ends
  simp only [Prod.mk.injEq] at shown
  obtain ⟨rfl, live⟩ := shown
  exact ⟨later, object, ran, live, unreferenced⟩

/-- Passes an object for a parameter whose name is repeated. -/
def Script.displacing : String :=
  "<? class C \x7b\x7d function f($a, $a) \x7b\x7d f(new C(), 1);"

/-- Returns another object from a constructor. -/
def Script.replacing : String :=
  "<? class D \x7b\x7d class C \x7b function __construct() \x7b return new D(); \x7d \x7d " ++
    "$c = new C();"

/-- Calls a method of a new object in an assignment that has to start over. -/
def Script.restarting : String :=
  "<? class C \x7b function m($a) \x7b return $a; \x7d \x7d $x = (new C())->m($x);"

/-- Three ways to leave an object behind. The argument that another one displaces is not let go, nor
is what a constructor returns, and the object whose use failed is made anew. -/
theorem leavesBehind_in_three_ways :
    LeavesBehind Script.displacing 0 ∧ LeavesBehind Script.replacing 1 ∧
      LeavesBehind Script.restarting 0 :=
  ⟨leavesBehind_of_run ⟨0, "C", 0⟩ (by cbv) rfl, leavesBehind_of_run ⟨1, "D", 0⟩ (by cbv) rfl,
    leavesBehind_of_run ⟨0, "C", 0⟩ (by cbv) rfl⟩

end TagScript
