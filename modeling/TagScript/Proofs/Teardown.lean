import TagScript.Proofs.Programs
import TagScript.Proofs.Visibility

/-!
# No attribute outlives its object

After a run of a source no attribute is left of an object that is gone, provided that no assignment
to a member leaves one: an assignment may be to a name that only a method has, or to an object that
is reclaimed while the assignment is under way. Initial values need no such care. They are constant,
so setting them reclaims nothing but what a variable of the same name as the slot may have held, and
nothing refers to the new object yet.
-/

namespace TagScript

open State Eval

namespace Eval

section Instantiate

variable {functions : Table FunctionDecl} {classes : Table ClassDecl} {exempt : String → Prop}
  {run : Node → Eval Flow}
  (constants : ∀ node : Node, node.isConstant →
    Harmless (run node) fun flow => flow.value.IsScalar)
include constants

/-- A new object gets attributes that belong to it. -/
theorem tended_setAttributes {decl : ClassDecl} (found : classes.get? decl.name = some decl)
    {handle : Handle} {members : List AttributeDecl}
    (declared : ∀ member ∈ members, member ∈ decl.attributes)
    (constant : ∀ member ∈ members, ∀ node, member.init = some node → node.isConstant) :
    Meets (fun state => state.Tended functions classes exempt ∧ state.IsNew decl handle)
      (setAttributes run handle members)
      fun _ state => state.Tended functions classes exempt ∧ state.IsNew decl handle := by
  induction members with
  | nil => exact meets_pure fun _ => id
  | cons member members ih =>
    rw [List.forall_mem_cons] at declared constant
    have initial : Meets
        (fun state => state.Tended functions classes exempt ∧ state.IsNew decl handle)
        (initialValue run member) fun result state =>
          (state.Tended functions classes exempt ∧ state.IsNew decl handle) ∧
            ∀ value, result = .ok value → value.handles = [] := by
      intro machine result later given ran
      obtain ⟨rfl, value, rfl, content, rfl⟩ :=
        Harmless.initialValue constants constant.1 machine result later ran
      refine ⟨given, fun value ended => ?_⟩
      cases ended
      rfl
    refine initial.bind (fun value => ?_) fun _ _ => And.left
    have declares : (decl.attribute? member.name).isSome :=
      ClassDecl.isSome_attribute?.2 ⟨member, declared.1, rfl⟩
    have written : Meets (fun state =>
          (state.Tended functions classes exempt ∧ state.IsNew decl handle) ∧ value.handles = [])
        (update (·.assignAttribute handle member.name value)) fun _ state =>
          state.Tended functions classes exempt ∧ state.IsNew decl handle :=
      meets_update fun state given => given.1.1.setInitial given.1.2 found declares given.2
    exact (written.bind (fun _ => ih declared.2 constant.2) fun _ _ => id).strengthen
      fun _ given => ⟨given.1, given.2 value rfl⟩

/-- Making an object of a declared class respects ownership. -/
theorem allows_instantiate {named : functions.get? globalScope = none} {decl : ClassDecl}
    (found : classes.get? decl.name = some decl) :
    (ownership functions classes named exempt).Allows [] (instantiate run decl)
      fun handle => { handles := [handle] } := by
  intro machine result later ready _ ran
  unfold instantiate at ran
  split at ran
  · cases ran
    exact ⟨⟨ready, Nat.le_refl _⟩, nofun⟩
  · next unconstant =>
    have constant : ∀ member ∈ decl.attributes, ∀ node, member.init = some node →
        node.isConstant := by
      intro member inside node given
      have none := List.find?_eq_none.1 unconstant member inside
      simpa [given] using none
    obtain ⟨fault, failed, rfl⟩ | ⟨handle, middle, ended, rest⟩ := outcome_of_bind ran
    · cases failed
    · cases ended
      have made : Meets (fun state => state.Tended functions classes exempt ∧
            state.IsNew decl machine.state.heap.next)
          (do
            setAttributes run machine.state.heap.next decl.attributes
            return machine.state.heap.next)
          fun result state => (state.Tended functions classes exempt ∧
            state.IsNew decl machine.state.heap.next) ∧
            ∀ handle, result = .ok handle → handle = machine.state.heap.next := by
        refine (tended_setAttributes constants found (fun _ => id) constant).bind
          (fun _ => meets_pure fun _ given => ⟨given, fun handle ended => ?_⟩)
          fun _ _ given => ⟨given, nofun⟩
        cases ended
        rfl
      obtain ⟨⟨tended, new⟩, given⟩ := made _ _ _ ready.allocate rest
      refine ⟨⟨tended, Nat.le_of_lt new.lt_next⟩, fun handle ok => ⟨trivial, ?_⟩⟩
      rw [given handle ok]
      exact fun other inside => List.mem_singleton.1 inside ▸ new.lt_next

end Instantiate

section Assign

variable {run : Node → Eval Flow} {functions : Table FunctionDecl} {classes : Table ClassDecl}
  {named : functions.get? globalScope = none} {exempt : String → Prop}
  (runs : (ownership functions classes named exempt).Runs run)
include runs

theorem allows_aim (node : Node) (member : Name) :
    (ownership functions classes named exempt).Allows [] (aim run node member) fun _ => {} := by
  have runs := Discipline.runs_iff.2 runs
  refine Discipline.allows_iff.1 ?_
  refine (Coupling.target runs node _).bind fun handle _ => ?_
  exact (Coupling.visibleAttribute runs handle member).bind fun _ _ => Coupling.allows_return

/-- An attribute may be written while its slot is exempt. -/
theorem allows_storeMember {handle : Handle} {name : String}
    (free : exempt (attributeSlot handle name)) (expression : Node) :
    (ownership functions classes named exempt).Allows [] (storeMember run handle name expression)
      fun value => { handles := value.handles } := by
  have runs := Discipline.runs_iff.2 runs
  refine Discipline.allows_iff.1 ?_
  refine (Coupling.evaluateFor runs name ?_ expression).bind fun value _ => ?_
  · rintro state _ ⟨rfl, ready⟩
    exact Discipline.Admits.moves (ready.assignAttribute (.inl free) fun _ => List.not_mem_nil.elim)
  refine (Coupling.allows_update ?_).next fun _ => ?_
  · rintro state _ ⟨rfl, ready⟩ known
    exact Discipline.Admits.moves (ready.assignAttribute (.inl free) fun other inside =>
      known other (List.mem_append_left _ inside))
  refine (Coupling.dropTarget handle value).next fun _ => ?_
  exact Coupling.allows_pure trivial fun _ => List.mem_append_left _

end Assign

end Eval

/-- Watches that after an assignment to a member the slot is free, or belongs to its object. -/
def tending : Watch
  | run, .memberAssign target member _, machine, _, later =>
    match (aim run target member).outcome? machine with
    | some (.ok (handle, name), _) =>
      decide (later.state.HasSlot handle name → later.state.Owns handle name)
    | _ => true
  | _, _, _, _, _ => true

namespace Eval

variable {functions : Table FunctionDecl} {classes : Table ClassDecl}
  {named : functions.get? globalScope = none}

/-- An assignment to a member respects ownership if the watch approves of it. The slot that it
writes is exempt until then. -/
theorem tended_assignMember {run : Node → Eval Flow}
    (runs : ∀ exempt, (ownership functions classes named exempt).Runs run)
    {exempt : String → Prop} {node : Node} {member : Name} {expression : Node}
    {machine later : Machine} {result : Except Fault Flow}
    (ready : machine.state.Tended functions classes exempt)
    (ran : (step run (.memberAssign node member expression)).outcome? machine =
      some (result, later))
    (approved : tending run (.memberAssign node member expression) machine result later) :
    (ownership functions classes named exempt).Admits machine.state later.state ∧
      ∀ flow, result = .ok flow → ∀ handle ∈ flow.value.handles,
        handle < later.state.heap.next := by
  rw [step_memberAssign] at ran
  obtain ⟨fault, failed, rfl⟩ | ⟨⟨handle, name⟩, middle, aimed, rest⟩ := outcome_of_bind ran
  · exact ⟨(allows_aim (runs exempt) node member _ _ _ ready (fun _ => List.not_mem_nil.elim)
      failed).1, nofun⟩
  · obtain ⟨⟨ready', grown⟩, -⟩ := allows_aim (runs exempt) node member _ _ _ ready
      (fun _ => List.not_mem_nil.elim) aimed
    have stored : (ownership functions classes named
          fun slot => exempt slot ∨ slot = attributeSlot handle name).Allows []
        (do return Flow.normal (← storeMember run handle name expression))
        fun flow => { handles := flow.value.handles } :=
      Discipline.allows_iff.1 (Discipline.allows_iff.2
        (allows_storeMember (runs _) (.inr rfl) expression)).normal
    obtain ⟨⟨written, grown'⟩, known⟩ := stored _ _ _ (ready'.mono fun _ => .inl)
      (fun _ => List.not_mem_nil.elim) rest
    simp only [tending, aimed, decide_eq_true_eq] at approved
    exact ⟨⟨written.settle approved, Nat.le_trans grown grown'⟩, fun flow ok => (known flow ok).2⟩

/-- A watched run respects ownership, however many nested steps it may take. -/
theorem runs_tending
    (keyed : ∀ {name decl}, classes.get? name = some decl → decl.name = name) (steps : Nat)
    (exempt : String → Prop) :
    (ownership functions classes named exempt).Runs (watched tending steps) := by
  -- While a member is assigned to, one slot more is exempt in the runs below.
  induction steps generalizing exempt with
  | zero => exact fun _ => Discipline.allows_cutOff
  | succ steps ih =>
    intro node machine result later ready known ran
    obtain ⟨ran, approved⟩ := outcome_of_only ran
    by_cases assigns : ∃ target member expression, node = .memberAssign target member expression
    · obtain ⟨target, member, expression, rfl⟩ := assigns
      obtain ⟨admits, given⟩ := tended_assignMember ih ready ran approved
      exact ⟨admits, fun flow ok => ⟨trivial, given flow ok⟩⟩
    · have instantiates {decl : ClassDecl} {className : String}
          (found : classes.get? className = some decl) :
          (ownership functions classes named exempt).coupling.Allows []
            (instantiate (watched tending steps) decl) fun handle => { handles := [handle] } :=
        Discipline.allows_iff.2
          (allows_instantiate (harmless_watched tending steps) (keyed found ▸ found))
      have stepped := Coupling.step (Discipline.runs_iff.2 (ih exempt)) instantiates
        fun target member expression same => absurd ⟨target, member, expression, same⟩ assigns
      exact Discipline.allows_iff.1 stepped machine result later ready known ran

end Eval

/-- Nothing but declarations has been made. -/
def State.Blank (state : State) : Prop :=
  ∃ functions classes, state = { functions, classes }

namespace State.Blank

variable {state : State} (blank : state.Blank)
include blank

theorem declareFunction {decl : FunctionDecl} {later : State}
    (declares : state.declareFunction decl = .ok later) : later.Blank := by
  obtain ⟨functions, classes, rfl⟩ := blank
  exact ⟨_, _, eq_of_declareFunction declares⟩

theorem declareClass {decl : ClassDecl} {later : State}
    (declares : state.declareClass decl = .ok later) : later.Blank := by
  obtain ⟨functions, classes, rfl⟩ := blank
  exact ⟨_, _, eq_of_declareClass declares⟩

theorem tended (exempt : String → Prop) :
    state.Tended state.functions state.classes exempt := by
  obtain ⟨functions, classes, rfl⟩ := blank
  refine ⟨rfl, rfl, fun has => ?_, fun reaches => ?_⟩
  · cases has
  · obtain stores | receives := reaches
    · exact absurd stores (Nat.lt_irrefl 0)
    · cases receives

end State.Blank

namespace Eval

/-- The run of a program on a new machine ends with slots that belong to live objects. -/
theorem owns_of_programWith (steps : Nat) {program : Program} (proper : program.IsProper) :
    Meets (fun state => state.Rests ⟨False, False⟩ ∧ state.Blank)
      (programWith (watched tending steps) program)
      fun _ state => ∀ {handle name}, state.HasSlot handle name → state.Owns handle name := by
  have declared : Meets (fun state => state.Rests ⟨False, False⟩ ∧ state.Blank)
      (declare program.functions program.classes)
      fun _ state => state.Rests ⟨False, False⟩ ∧ state.Blank :=
    meets_declare
      (fun decl inside _ _ given declares =>
        ⟨given.1.declareFunction (proper.functions decl inside) False.elim declares,
          given.2.declareFunction declares⟩)
      fun decl inside _ _ given declares =>
        ⟨given.1.declareClass (proper.classes decl inside) False.elim declares,
          given.2.declareClass declares⟩
  apply meets_programWith declared
  rintro state ⟨rests, blank⟩
  have named := get?_globalScope_of_declared rests.declared
  refine ⟨ownership state.functions state.classes named fun _ => False,
    runs_tending (fun found => (rests.declared.className found).1) steps _, blank.tended _, ?_⟩
  intro later tended handle name has
  exact (tended.owned has).resolve_left id

end Eval

/-- After a run on a new machine, successful or not, no attribute is left of an object that is gone,
provided that no assignment to a member leaves one. -/
theorem isSome_of_hasSlot {source : String} {steps : Nat} {result : Except Failure Unit}
    {later : Machine}
    (tends : Machine.watchedRun? tending {} source steps = Machine.runSource? {} source steps)
    (ran : Machine.runSource? {} source steps = some (result, later)) {handle : Handle}
    {name : String} (has : later.state.HasSlot handle name) :
    (later.state.heap.get? handle).isSome := by
  rw [← tends] at ran
  unfold Machine.watchedRun? Machine.afterParsing at ran
  split at ran
  · cases ran
    cases has
  · next program read =>
    obtain ⟨⟨inner, later⟩, ended, ⟨⟩⟩ := Option.map_eq_some_iff.1 ran
    have owns := owns_of_programWith steps (Program.isProper_ofSource read) _ _ _
      ⟨.initial, ∅, ∅, rfl⟩ ended has
    obtain ⟨object, -, live, -⟩ := owns_iff.1 owns
    rw [live]
    rfl

/-- Writes an attribute in a method, and replaces the object. -/
def Script.renewing : String :=
  "<? class P \x7b public $q = 1; function set($v) \x7b $this->q = $v; \x7d \x7d " ++
    "$p = new P(); $p->set(2); $p = new P();"

/-- Of two objects the second one is left, with its attribute. -/
theorem isSome_of_hasSlot_in_renewing : ∃ result later,
    Machine.watchedRun? tending {} Script.renewing = Machine.runSource? {} Script.renewing ∧
    Machine.runSource? {} Script.renewing = some (result, later) ∧
    later.state.HasSlot 1 "q" ∧ (later.state.heap.get? 1).isSome := by
  have tends : Machine.watchedRun? tending {} Script.renewing =
      Machine.runSource? {} Script.renewing := by
    cbv
  have ends : (Machine.runSource? {} Script.renewing).map (fun ran =>
      (ran.2.state.bindingIn? globalScope (attributeSlot 1 "q")).map Binding.key) =
        some (some "1::q") := by cbv
  obtain ⟨⟨result, later⟩, ran, bound⟩ := Option.map_eq_some_iff.1 ends
  have has : later.state.HasSlot 1 "q" := bound
  exact ⟨result, later, tends, ran, has, isSome_of_hasSlot tends ran has⟩

/-- A run that succeeds leaves an attribute of an object that is gone. -/
def Litters (source : String) (handle : Handle) (name : String) : Prop :=
  ∃ later, Machine.runSource? {} source = some (.ok (), later) ∧
    later.state.HasSlot handle name ∧ later.state.heap.get? handle = none

theorem litters_of_run {source : String} {handle : Handle} {name : String}
    (ends : (Machine.runSource? {} source).map (fun ran => (ran.1,
      decide (ran.2.state.HasSlot handle name), ran.2.state.heap.get? handle)) =
        some (.ok (), true, none)) : Litters source handle name := by
  obtain ⟨⟨result, later⟩, ran, shown⟩ := Option.map_eq_some_iff.1 ends
  simp only [Prod.mk.injEq, decide_eq_true_eq] at shown
  obtain ⟨rfl, has, gone⟩ := shown
  exact ⟨later, ran, has, gone⟩

/-- Drops the last reference to an object in the value for one of its attributes. -/
def Script.outliving : String :=
  "<? class H \x7b public $o; \x7d class C \x7b public $a; \x7d " ++
    "function drop() \x7b $h->o = 0; return 1; \x7d " ++
    "$h = new H(); $h->o = new C(); $h->o->a = drop();"

/-- Replaces the only reference to an object, which is its own attribute. -/
def Script.unlooping : String :=
  "<? class C \x7b public $me; \x7d " ++
    "function loop() \x7b $t = new C(); $t->me = $t; return $t; \x7d loop()->me = 1;"

/-- Two ways to leave a declared attribute behind. An object may be gone when its attribute is
written, because of the value that is written or because of the value that is overwritten. -/
theorem litters_in_two_ways :
    Litters Script.outliving 1 "a" ∧ Litters Script.unlooping 0 "me" :=
  ⟨litters_of_run (by cbv), litters_of_run (by cbv)⟩

end TagScript
