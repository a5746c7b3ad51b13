import TagScript.Proofs.Separation
import TagScript.Proofs.Tolerance

/-!
# Variables and attributes

Attributes are bound in the global scope, each under the name of its slot, and a script can compute
any text as the name of a variable. So variables and attributes are no separate namespaces: code of
the global scope that computes the name of a slot reads and writes the attribute, whatever its
visibility is (`writes_private_attribute`). This is the only way in which assigning to a variable
changes an attribute of an object that stays (`assign_keeps_attributes`). It does not depend on what
is assigned, as long as evaluating that does nothing else; so the law is stated for constant
expressions, of which literals are the simplest.
-/

namespace TagScript

open State Eval

namespace State

variable {state : State}

/-- An attribute reads as the value that its slot leads to. -/
theorem readAttribute_eq (state : State) (handle : Handle) (name : String) :
    state.readAttribute handle name =
      (state.valueIn? globalScope (attributeSlot handle name)).elim
        (.error (.variableNotFound name)) .ok := by
  unfold readAttribute valueIn?
  cases (state.bindingIn? globalScope (attributeSlot handle name)).bind state.storage.get? <;> rfl

/-- A slot of an object that is left cannot have been lost. -/
theorem not_lost_of_isSome {before after : State} {handle : Handle}
    (left : (after.heap.get? handle).isSome) (name : String) :
    ¬ Lost before after globalScope (attributeSlot handle name) := by
  rintro ⟨-, other, member, named, -, gone⟩
  rw [← (attributeSlot_inj named).1] at gone
  rw [gone] at left
  contradiction

/-- Assigning to a variable changes an attribute of an object that stays only if the variable is the
slot of the attribute. -/
theorem readAttribute_assign (keyed : state.WellKeyed []) (plain : Plain state.frame.scope)
    (target : String) (value : Value) {handle : Handle}
    (left : ((state.assign target value none).heap.get? handle).isSome) (name : String) :
    (state.assign target value none).readAttribute handle name =
      if state.frame.scope = globalScope ∧ target = attributeSlot handle name then .ok value
      else state.readAttribute handle name := by
  split
  · next hit =>
    have held : (state.assign target value none).valueIn? state.frame.scope target = some value :=
      valueIn?_bind state _ target _ value
    rw [hit.1, hit.2] at held
    rw [readAttribute_eq, hit.2, held]
    rfl
  · next missed =>
    have untouched : ¬ atName state.frame.scope target globalScope (attributeSlot handle name) :=
      fun same => missed ⟨same.1.symm, same.2.symm⟩
    have kept := (Sweeps.assign keyed target value none plain).valueIn? untouched
      (not_lost_of_isSome left name)
    rw [readAttribute_eq, kept.2, readAttribute_eq]

end State

namespace Eval

/-- A constant expression does not read the name that it is assigned to. -/
theorem Harmless.evaluateFor {run : Node → Eval Flow} {expression : Node}
    (harmless : Harmless (run expression) fun flow => flow.value.IsScalar) (name : String)
    (start : State → State) :
    Harmless (Eval.evaluateFor run name start expression) Value.IsScalar := by
  intro machine result later ran
  rcases outcome_of_tryCatch ran with ⟨value, ended, rfl⟩ | ⟨fault, middle, failed, -⟩
  · exact harmless.evaluate _ _ _ ended
  · rcases (harmless.evaluate _ _ _ failed).2 with ⟨value, impossible, -⟩
    contradiction

/-- A name can be assigned to if it stands for a variable. -/
theorem outcome_of_assignable {name target : String} {machine later : Machine}
    (ran : (assignable name).outcome? machine = some (.ok target, later)) :
    machine.state.link name = .ok target ∧ later = machine := by
  rcases outcome_of_bind ran with ⟨fault, -, impossible⟩ | ⟨linked, middle, examined, checked⟩
  · contradiction
  · rw [outcome?_examine] at examined
    rcases Prod.mk.inj (Option.some.inj examined) with ⟨found, rfl⟩
    split at checked
    · cases checked
    · cases checked
      exact ⟨found, rfl⟩

/-- A successful assignment of a constant expression writes its value to one variable and does
nothing else. -/
theorem outcome_of_assign {run : Node → Eval Flow} {name : String} {expression : Node}
    (harmless : Harmless (run expression) fun flow => flow.value.IsScalar)
    {machine later : Machine} {flow : Flow}
    (ran : (step run (.assign name expression)).outcome? machine = some (.ok flow, later)) :
    ∃ target, machine.state.link name = .ok target ∧
      later.state = machine.state.assign target flow.value none := by
  rcases outcome_of_bind ran with ⟨fault, -, impossible⟩ | ⟨value, middle, assigned, ended⟩
  · contradiction
  cases ended
  rcases outcome_of_bind assigned with ⟨fault, -, impossible⟩ | ⟨target, start, aimed, rest⟩
  · contradiction
  rcases outcome_of_assignable aimed with ⟨linked, rfl⟩
  rcases outcome_of_bind rest with ⟨fault, -, impossible⟩ | ⟨value', evaluated, ran', written⟩
  · contradiction
  rcases harmless.evaluateFor _ _ _ _ _ ran' with ⟨rfl, -⟩
  rcases outcome_of_bind written with ⟨fault, -, impossible⟩ | ⟨_, stored, updated, ended⟩
  · contradiction
  cases updated
  cases ended
  exact ⟨target, linked, rfl⟩

end Eval

/-- A step that does not assign a constant expression to a variable, or that changes no attribute of
an object which stays, but for the one whose slot is the variable. -/
def KeepsAttributes (node : Node) (before : Machine) (result : Except Fault Flow)
    (after : Machine) : Prop :=
  ∀ name expression flow, node = .assign name expression → expression.isConstant →
    result = .ok flow → ∃ target, before.state.link name = .ok target ∧
      ∀ handle, (after.state.heap.get? handle).isSome → ∀ member,
        after.state.readAttribute handle member =
          if before.state.frame.scope = globalScope ∧ target = attributeSlot handle member then
            .ok flow.value
          else before.state.readAttribute handle member

theorem keepsAttributes_of_step {run : Node → Eval Flow}
    (harmless : ∀ node : Node, node.isConstant →
      Harmless (run node) fun flow => flow.value.IsScalar)
    {node : Node} {machine later : Machine} {result : Except Fault Flow}
    (keyed : machine.state.WellKeyed []) (plain : Plain machine.state.frame.scope)
    (ran : (step run node).outcome? machine = some (result, later)) :
    KeepsAttributes node machine result later := by
  rintro name expression flow rfl constant rfl
  rcases outcome_of_assign (harmless expression constant) ran with ⟨target, linked, assigned⟩
  refine ⟨target, linked, ?_⟩
  rw [assigned]
  intro handle left member
  exact readAttribute_assign keyed plain target flow.value left member

/-- No step that assigns a constant expression to a variable changes an attribute of an object which
stays, unless it runs in the global scope and the variable is called like the slot of the attribute.
This holds of all steps from well-keyed states. It holds of all steps that occur while a source
runs, however deeply nested, on any machine that sources lead to: a watch that objects to other
steps only lets the source run to the same end. -/
theorem assign_keeps_attributes (machine : Machine) (source : String) (steps : Nat) :
    (∀ node result later, machine.state.WellKeyed [] → Plain machine.state.frame.scope →
      (exec steps node).outcome? machine = some (result, later) →
      KeepsAttributes node machine result later) ∧
    (machine.Reachable → ∀ approves : Watch,
      (∀ run node before result after, KeepsAttributes node before result after →
        approves run node before result after) →
      machine.watchedRun? approves source steps = machine.runSource? source steps) := by
  constructor
  · intro node result later keyed plain ran
    cases steps with
    | zero => contradiction
    | succ steps =>
      apply keepsAttributes_of_step _ keyed plain ran
      intro node constant
      rw [← watched_true]
      exact harmless_watched _ steps node constant
  · intro reachable approves lenient
    apply Machine.watchedRun?_of_tolerant _ reachable
    intro inner node machine result later keyed plain ran
    apply lenient
    exact keepsAttributes_of_step (harmless_watched approves inner) keyed plain ran

/-- Objects if code of a function changes what the first object's attribute of this name shows, by
assigning a constant expression to a variable. -/
def guarding (member : String) : Watch := fun _ node before result after =>
  match node, result with
  | .assign _ expression, .ok _ =>
    !expression.isConstant || before.state.frame.scope == globalScope ||
      (after.state.heap.get? 0).isNone ||
      (after.state.readAttribute 0 member).toOption.map Value.toText ==
        (before.state.readAttribute 0 member).toOption.map Value.toText
  | _, _ => true

theorem guarding_of_keepsAttributes (member : String) (run : Node → Eval Flow) {node : Node}
    {before after : Machine} {result : Except Fault Flow}
    (keeps : KeepsAttributes node before result after) :
    guarding member run node before result after := by
  unfold guarding
  split
  · next name expression flow =>
    by_cases constant : expression.isConstant
    · rcases keeps name expression flow rfl constant rfl with ⟨target, -, kept⟩
      cases live : (after.state.heap.get? 0).isSome with
      | false => simp_all
      | true =>
        by_cases inside : before.state.frame.scope = globalScope
        · simp [inside]
        · rw [kept 0 live member, if_neg fun hit => inside hit.1]
          simp
    · simp [constant]
  · rfl

/-- Computes the name of a slot in a function and assigns to that. -/
def Script.meddling : String :=
  "<? class C \x7b private $a = 1; \x7d function f() \x7b $n = '0::a'; $$n = 4; \x7d " ++
    "$o = new C(); f();"

/-- A variable of the global scope with the name of a slot is the attribute. All other attributes of
the object are as before. In a function the same name is a variable of its own, and the attribute is
guarded all the time. -/
theorem assign_keeps_attributes_of_holding :
    (∃ later, (exec 2 (.assign "0::a" (.integer 5))).outcome? { state := State.holding } =
        some (.ok (.normal (.int 5)), later) ∧
      later.state.readAttribute 0 "a" = .ok (.int 5) ∧
      ∀ member, member ≠ "a" →
        later.state.readAttribute 0 member = State.holding.readAttribute 0 member) ∧
    Machine.watchedRun? (guarding "a") {} Script.meddling =
      Machine.runSource? {} Script.meddling := by
  constructor
  · have ends : ((exec 2 (.assign "0::a" (.integer 5))).outcome? { state := State.holding }).map
        (fun ran => (ran.1, (ran.2.state.heap.get? 0).isSome)) =
          some (.ok (.normal (.int 5)), true) := by cbv
    rcases Option.map_eq_some_iff.1 ends with ⟨⟨result, later⟩, ran, shown⟩
    rcases Prod.mk.inj shown with ⟨rfl, live⟩
    have frame : State.holding.frame = {} := frame_assign State.newborn "o" (.object 0) none
    have plain : Plain State.holding.frame.scope := by
      rw [frame]
      decide
    rcases (assign_keeps_attributes { state := State.holding } "" 2).1 _ _ later
      State.sound_holding.keyed plain ran "0::a" (.integer 5) _ rfl rfl rfl with
      ⟨target, linked, kept⟩
    have direct : IsDirect "0::a" := by decide
    obtain rfl : "0::a" = target := Except.ok.inj ((link_of_isDirect direct _).symm.trans linked)
    have slot : "0::a" = attributeSlot 0 "a" := by decide
    refine ⟨later, ran, ?_, ?_⟩
    · rw [kept 0 live, if_pos ⟨by rw [frame], slot⟩]
      rfl
    · intro member differs
      rw [kept 0 live, if_neg]
      rintro ⟨-, same⟩
      exact differs (attributeSlot_inj (same.symm.trans slot)).2
  · exact (assign_keeps_attributes {} Script.meddling stepLimit).2 .fresh (guarding "a")
      fun run _ _ _ _ => guarding_of_keepsAttributes "a" run

/-- Makes an object with a private attribute, and computes the name of its slot. -/
def Script.naming : String :=
  "<? class C \x7b private $a = 1; \x7d $o = new C(); $n = '0::a';"

/-- A variable variable gives access to a private attribute of an object that is live before and
after. -/
theorem writes_private_attribute : ∃ machine later flow,
    machine.Reachable ∧
    (exec 2 (.assign "$n" (.integer 5))).outcome? machine = some (.ok flow, later) ∧
    machine.state.classOf? 0 = some "C" ∧ later.state.classOf? 0 = some "C" ∧
    (machine.state.classes.get? "C").bind (·.visibility? "a") = some .owner ∧
    machine.state.readAttribute 0 "a" = .ok (.int 1) ∧
    later.state.readAttribute 0 "a" = .ok (.int 5) := by
  have ends : ((Machine.runSource? {} Script.naming).bind fun ran =>
      ((exec 2 (.assign "$n" (.integer 5))).outcome? ran.2).map fun next =>
        (next.1.toOption.isSome, ran.2.state.classOf? 0, next.2.state.classOf? 0,
          (ran.2.state.classes.get? "C").bind (·.visibility? "a"),
          ran.2.state.readAttribute 0 "a", next.2.state.readAttribute 0 "a")) =
      some (true, some "C", some "C", some .owner, .ok (.int 1), .ok (.int 5)) := by cbv
  rcases Option.bind_eq_some_iff.1 ends with ⟨⟨result, machine⟩, ran, rest⟩
  rcases Option.map_eq_some_iff.1 rest with ⟨⟨outcome, later⟩, ran', shown⟩
  simp only [Prod.mk.injEq] at shown
  rcases shown with ⟨succeeds, shown⟩
  cases outcome with
  | error fault => contradiction
  | ok flow => exact ⟨machine, later, flow, .run .fresh ran, ran', shown⟩

end TagScript
