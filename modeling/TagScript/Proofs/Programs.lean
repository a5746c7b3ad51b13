import TagScript.Proofs.Parsing
import TagScript.Proofs.Watched

/-!
# Programs keep the accounts

Between two programs nothing is in transit, and a machine is at rest: every count is the number of
stored handles. Declaring functions and classes leaves it so, and the body of a program leads from
rest to rest.
-/

namespace TagScript

open State Eval

/-- No function or method of a program has two parameters of one name. -/
structure Program.DistinctParams (program : Program) : Prop where
  function : ∀ decl ∈ program.functions, decl.params.Nodup
  method : ∀ decl ∈ program.classes, ∀ method ∈ decl.methods, method.function.params.Nodup

instance (program : Program) : Decidable program.DistinctParams :=
  decidable_of_iff ((∀ decl ∈ program.functions, decl.params.Nodup) ∧
      ∀ decl ∈ program.classes, ∀ method ∈ decl.methods, method.function.params.Nodup)
    ⟨fun both => ⟨both.1, both.2⟩, fun distinct => ⟨distinct.function, distinct.method⟩⟩

/-- A state between two programs. -/
structure State.Rests (care : Care) (state : State) : Prop where
  declared : Declared state.functions state.classes
  distinct : care.tidy → DistinctParams state.functions state.classes
  frame : state.frame = {}
  keyed : state.WellKeyed []
  counts : state.Counts care {}

namespace State.Rests

variable {care : Care} {state : State}

/-- The declarations that a program finds. -/
def regime (rests : state.Rests care) : Regime :=
  { care with
    functions := state.functions
    classes := state.classes
    declared := rests.declared
    distinct := rests.distinct }

theorem balanced (rests : state.Rests care) : rests.regime.Balanced {} state where
  functions := rfl
  classes := rfl
  frame := rests.frame
  keyed := rests.keyed
  counts := rests.counts

theorem of_balanced {R : Regime} (balanced : R.Balanced {} state) : state.Rests R.toCare where
  declared := balanced.functions ▸ balanced.classes ▸ R.declared
  distinct := balanced.functions ▸ balanced.classes ▸ R.distinct
  frame := balanced.frame
  keyed := balanced.keyed
  counts := balanced.counts

theorem initial : State.Rests care {} where
  declared := ⟨fun found => (by cases found), fun found => (by cases found)⟩
  distinct _ := ⟨fun found => (by cases found), fun found => (by cases found)⟩
  frame := rfl
  keyed := WellKeyed.initial
  counts handle := by
    have unused : ({} : State).heap.references? handle = none := rfl
    rw [unused, Storage.occurrences_empty]
    constructor <;> simp

/-- Nothing but the declarations changes. -/
theorem declare (rests : state.Rests care) {functions : Table FunctionDecl}
    {classes : Table ClassDecl} (declared : Declared functions classes)
    (distinct : care.tidy → DistinctParams functions classes) :
    { state with functions, classes }.Rests care :=
  ⟨declared, distinct, rests.frame, rests.keyed.congr rfl rfl, rests.counts⟩

theorem declareFunction (rests : state.Rests care) {decl : FunctionDecl} (proper : decl.IsProper)
    (distinct : care.tidy → decl.params.Nodup) {later : State}
    (declares : state.declareFunction decl = .ok later) : later.Rests care := by
  rw [eq_of_declareFunction declares]
  refine rests.declare ⟨?_, rests.declared.className⟩
    fun tidy => ⟨?_, (rests.distinct tidy).method⟩
  · exact Table.forall_insert ⟨rfl, proper⟩ fun _ _ => rests.declared.function
  · exact Table.forall_insert (P := fun _ (other : FunctionDecl) => other.params.Nodup)
      (distinct tidy) fun _ _ => (rests.distinct tidy).function

theorem declareClass (rests : state.Rests care) {decl : ClassDecl} (proper : decl.IsProper)
    (distinct : care.tidy → ∀ method ∈ decl.methods, method.function.params.Nodup) {later : State}
    (declares : state.declareClass decl = .ok later) : later.Rests care := by
  rw [eq_of_declareClass declares]
  refine rests.declare ⟨rests.declared.function, ?_⟩
    fun tidy => ⟨(rests.distinct tidy).function, ?_⟩
  · exact Table.forall_insert ⟨rfl, proper⟩ fun _ _ => rests.declared.className
  · exact Table.forall_insert
      (P := fun _ (other : ClassDecl) => ∀ method ∈ other.methods, method.function.params.Nodup)
      (distinct tidy) fun _ _ => (rests.distinct tidy).method

theorem weaken (rests : state.Rests care) {care' : Care} (alive : care'.alive → care.alive)
    (tidy : care'.tidy → care.tidy) : state.Rests care' :=
  ⟨rests.declared, fun given => rests.distinct (tidy given), rests.frame, rests.keyed,
    fun handle => (rests.counts handle).weaken alive tidy⟩

end State.Rests

/-- Care that says nothing of objects left behind. -/
def Care.untidy (care : Care) : Care :=
  { care with tidy := False }

namespace Eval

variable {care : Care}

theorem meets_forM {α : Type} {before : State → Prop} {items : List α} {body : α → Eval Unit}
    (each : ∀ item ∈ items, Meets before (body item) fun _ => before) :
    Meets before (items.forM body) fun _ => before := by
  induction items with
  | nil => exact meets_pure fun _ => id
  | cons item items ih =>
    rw [List.forall_mem_cons] at each
    exact each.1.bind (fun _ => ih each.2) fun _ _ => id

theorem meets_attempt {holds : State → Prop} {change : State → Except Fault State}
    (keeps : ∀ {state later : State}, holds state → change state = .ok later → holds later) :
    Meets holds (attempt change) fun _ => holds := by
  have examined : Meets holds (examine change) fun result state =>
      holds state ∧ ∀ later, result = .ok later → holds later :=
    meets_examine fun state given => ⟨given, fun _ => keeps given⟩
  exact examined.bind (fun later => meets_update fun _ given => given.2 later rfl)
    fun _ _ => And.left

/-- What every single declaration keeps is kept by all of them. -/
theorem meets_declare {holds : State → Prop} {functions : List FunctionDecl}
    {classes : List ClassDecl}
    (declareFunction : ∀ decl ∈ functions, ∀ {state later : State}, holds state →
      state.declareFunction decl = .ok later → holds later)
    (declareClass : ∀ decl ∈ classes, ∀ {state later : State}, holds state →
      state.declareClass decl = .ok later → holds later) :
    Meets holds (declare functions classes) fun _ => holds := by
  have first := meets_forM fun decl inside => meets_attempt (declareFunction decl inside)
  have second := meets_forM fun decl inside => meets_attempt (declareClass decl inside)
  exact first.bind (fun _ => second) fun _ _ => id

theorem rests_declare {program : Program} (proper : program.IsProper)
    (distinct : care.tidy → program.DistinctParams) :
    Meets (State.Rests care) (declare program.functions program.classes)
      fun _ => State.Rests care :=
  meets_declare
    (fun decl inside _ _ rests => rests.declareFunction (proper.functions decl inside)
      fun tidy => (distinct tidy).function decl inside)
    fun decl inside _ _ rests => rests.declareClass (proper.classes decl inside)
      fun tidy => (distinct tidy).method decl inside

/-- Declares what a program declares and runs its body in the given way. -/
def programWith (run : Node → Eval Flow) (program : Program) : Eval Unit := do
  declare program.functions program.classes
  match ← statement run program.body with
  | .normal _ => return
  | .returned value => update (·.discard value)

/-- What lets a discipline take over once everything is declared holds at the end of a program in
the form that the discipline gives it. -/
theorem meets_programWith {holds ends : State → Prop} {run : Node → Eval Flow} {program : Program}
    (declares : Meets holds (declare program.functions program.classes) fun _ => holds)
    (disciplined : ∀ state, holds state → ∃ D : Discipline, D.Runs run ∧ D.ready state ∧
      ∀ later, D.ready later → ends later) :
    Meets holds (programWith run program) fun _ => ends := by
  refine declares.bind (fun _ => ?_) fun _ state given => ?_
  · intro machine result later given ran
    obtain ⟨D, runs, ready, ends⟩ := disciplined _ given
    have within {body : Eval Unit} (allows : D.Allows [] body fun _ => {})
        (ran : body.outcome? machine = some (result, later)) : D.ready later.state :=
      (allows machine result later ready (fun _ => List.not_mem_nil.elim) ran).1.1
    refine ends _ (within (Discipline.allows_iff.1 ?_) ran)
    refine (Coupling.statement (Discipline.runs_iff.2 runs) program.body).bind fun flow _ => ?_
    cases flow with
    | normal value => exact Coupling.allows_return
    | returned value => exact Coupling.allows_discard value
  · obtain ⟨D, -, ready, ends⟩ := disciplined state given
    exact ends state ready

/-- No function that a program declares has the name of the global scope. -/
theorem get?_globalScope_of_declared {functions : Table FunctionDecl} {classes : Table ClassDecl}
    (declared : Declared functions classes) : functions.get? globalScope = none := by
  cases found : functions.get? globalScope with
  | none => rfl
  | some decl =>
    obtain ⟨named, proper⟩ := declared.function found
    have word : IsWord globalScope := named ▸ proper.name
    exact absurd (show '.' ∈ globalScope.toList by decide) (word.not_mem (by decide))

/-- A program leads from rest to rest. It may leave objects behind only where its body fails. -/
theorem rests_programWith {approves : Watch} (trusts : care.Trusts approves) (steps : Nat)
    {program : Program} (proper : program.IsProper)
    (distinct : care.tidy → program.DistinctParams) :
    Meets (State.Rests care) (programWith (watched approves steps) program) fun result state =>
      state.Rests care.untidy ∧ (result = .ok () → state.Rests care) := by
  refine (rests_declare proper distinct).bind (fun _ => ?_) fun _ _ rests =>
    ⟨rests.weaken id False.elim, fun _ => rests⟩
  intro machine result later rests ran
  have runs : rests.regime.Runs (watched approves steps) := Regime.runs_watched trusts steps
  obtain ⟨nodes, isSequence, statements⟩ := proper.body
  have isStatement : program.body.IsStatement := isSequence ▸ .sequence statements
  have body : Meets (rests.regime.Balanced {}) (do
      match ← statement (watched approves steps) program.body with
      | .normal _ => return
      | .returned value => update (·.discard value) : Eval Unit)
      (rests.regime.Ends {} fun _ => rests.regime.Balanced {}) := by
    refine Regime.bind (Regime.statement runs isStatement) fun flow => ?_
    cases flow with
    | normal value => exact Regime.yield fun _ given => given.settled rfl
    | returned value =>
      exact (Regime.discardProduced value).strengthen fun _ given => given.leaves
  have ended := body _ _ _ rests.balanced ran
  cases result with
  | ok value =>
    have settled : later.state.Rests care := State.Rests.of_balanced ended
    exact ⟨settled.weaken id False.elim, fun _ => settled⟩
  | error fault =>
    exact ⟨(State.Rests.of_balanced ended).weaken id False.elim, fun failed => by cases failed⟩

end Eval

namespace Machine

/-- Runs a source under a watch. -/
def watchedRun? (approves : Watch) (machine : Machine) (source : String)
    (steps : Nat := stepLimit) : Option (Except Failure Unit × Machine) :=
  machine.afterParsing source (Eval.programWith (Eval.watched approves steps))

/-- Under a watch that approves of everything a source runs as it always does. -/
theorem watchedRun?_true (machine : Machine) (source : String) (steps : Nat) :
    machine.watchedRun? (fun _ _ _ _ _ => true) source steps =
      machine.runSource? source steps := by
  unfold watchedRun? runSource?
  rw [watched_true]
  rfl

/-- Running a source leads from rest to rest. -/
theorem rests_of_watchedRun? {care : Care} {approves : Watch} (trusts : care.Trusts approves)
    {machine later : Machine} {source : String} {steps : Nat} {result : Except Failure Unit}
    (rests : machine.state.Rests care)
    (distinct : care.tidy → ∀ program, Program.ofSource source = .ok program →
      program.DistinctParams)
    (ran : machine.watchedRun? approves source steps = some (result, later)) :
    later.state.Rests care.untidy ∧ (result = .ok () → later.state.Rests care) := by
  unfold watchedRun? afterParsing at ran
  split at ran
  · cases ran
    exact ⟨rests.weaken id False.elim, fun _ => rests⟩
  · next program read =>
    obtain ⟨⟨inner, later⟩, ended, ⟨⟩⟩ := Option.map_eq_some_iff.1 ran
    have proper := Program.isProper_ofSource read
    obtain ⟨untidy, tidy⟩ := rests_programWith trusts steps proper
      (fun tidy => distinct tidy program read) _ _ _ rests ended
    refine ⟨untidy, fun succeeded => tidy ?_⟩
    cases inner with
    | ok value => rfl
    | error fault => cases succeeded

end Machine

end TagScript
