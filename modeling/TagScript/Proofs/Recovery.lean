import TagScript.Machine.Run
import TagScript.Proofs.Visibility

/-!
# Failing assignments

An assignment to a variable or an attribute fails only if evaluating its expression fails, and then
it writes nothing (`assignment_fails_iff`): the machine is as that evaluation left it. There is one
exception. If the expression fails for want of the target's name while the target cannot be read,
the target is given the value zero and the expression is evaluated once more; if that fails too, the
machine is as the second evaluation left it.

A missing name is recognised by its spelling alone. The theorem is about expressions that miss the
name of the target only if the target cannot be read. Expressions of literals, variables and
operators are of that kind for every variable (`Node.IsFormula.missing`).
-/

namespace TagScript

open State

/-- What an assignment writes: a variable of the running activation or an attribute of an object. -/
inductive Target
  | var (name : String)
  | member (handle : Handle) (name : String)

namespace Target

/-- The name that the target goes by. -/
def name : Target → String
  | var name | member _ name => name

/-- The value of the target. -/
def read (state : State) : Target → Except Fault Value
  | var name => state.readNamed name none
  | member handle name => state.readAttribute handle name

/-- Gives the target a value. -/
def write (value : Value) (state : State) : Target → State
  | var name => state.assign name value none
  | member handle name => state.assignAttribute handle name value

/-- Gives the target a value and lets go of an object that nothing else refers to. -/
def settle (value : Value) (state : State) : Target → State
  | var name => state.assign name value none
  | member handle name =>
    (((state.assignAttribute handle name value).retain value).discardHandle handle).disown value

end Target

namespace Eval

/-- Running the node on the machine comes to assigning the expression to the target. The machine is
then `ready`: the object and the name that the target depends on have been evaluated. -/
inductive Aims (run : Node → Eval Flow) (machine : Machine) (expression : Node) :
    Node → Target → Machine → Prop
  | var {spelled name : String} (linked : machine.state.link spelled = .ok name)
    (free : name ≠ receiverName) :
    Aims run machine expression (.assign spelled expression) (.var name) machine
  | member {node : Node} {called : Name} {handle : Handle} {name : String} {decl : ClassDecl}
    {middle ready : Machine}
    (found : (target run node fun _ => .attributeTargetNotObject).outcome? machine =
      some (.ok handle, middle))
    (named : (memberName run called).outcome? middle = some (.ok name, ready))
    (live : (ready.state.classOf? handle).bind ready.state.classes.get? = some decl)
    (visible : decl.checkVisible ready.state.frame.className name = .ok ()) :
    Aims run machine expression (.memberAssign node called expression) (.member handle name)
      ready

variable {run : Node → Eval Flow} {node expression : Node} {aimed : Target} {fault : Fault}
  {machine ready final : Machine}

/-- Once the target is known, the expression is evaluated for it and its value is written. -/
theorem Aims.outcome?_step (aims : Aims run machine expression node aimed ready) :
    (step run node).outcome? machine =
      (evaluateFor run aimed.name (aimed.write (.int 0)) expression >>= fun value =>
        update (aimed.settle value) >>= fun _ => pure (Flow.normal value)).outcome? ready := by
  cases aims with
  | var linked free =>
    simp only [step, assign, assignable, bind_assoc, outcome?_bind, outcome?_examine, linked,
      Option.bind_some, if_neg free, outcome?_pure]
    rfl
  | member found named live visible =>
    have aimed := outcome?_aim found named live
    rw [visible] at aimed
    rw [step_memberAssign, outcome?_bind, aimed]
    simp only [storeMember, dropTarget, bind_assoc]
    rfl

/-- An expression that is evaluated for a name fails if it fails for another reason than the missing
name, or if it fails again after the name has been given a value. -/
theorem outcome?_evaluateFor_error_iff {name : String} {start : State → State} :
    (evaluateFor run name start expression).outcome? machine = some (.error fault, final) ↔
      (fault ≠ .variableNotFound name ∧
        (evaluate run expression).outcome? machine = some (.error fault, final)) ∨
      ∃ left, (evaluate run expression).outcome? machine =
          some (.error (.variableNotFound name), left) ∧
        (evaluate run expression).outcome? { left with state := start left.state } =
          some (.error fault, final) := by
  rw [evaluateFor, outcome?_tryCatch]
  rcases (evaluate run expression).outcome? machine with _ | ⟨first | value, left⟩
  · simp
  · by_cases missing : first = .variableNotFound name
    · subst missing
      have other : fault ≠ .variableNotFound name →
          some (Except.error (.variableNotFound name), left) ≠
            some ((.error fault : Except Fault Value), final) := by
        rintro differs ⟨⟩
        exact differs rfl
      simp only [Option.bind_some, if_true, outcome?_bind, outcome?_update]
      constructor
      · intro again
        exact Or.inr ⟨left, rfl, again⟩
      · rintro (⟨differs, once⟩ | ⟨_, ⟨⟩, again⟩)
        · exact absurd once (other differs)
        · exact again
    · simp only [Option.bind_some, if_neg missing, outcome?_throw]
      constructor
      · rintro ⟨⟩
        exact Or.inl ⟨missing, rfl⟩
      · rintro (⟨-, once⟩ | ⟨_, ⟨⟩, -⟩)
        · exact once
        · exact absurd rfl missing
  · simp

/-- Only the expression can fail. -/
theorem Aims.outcome?_step_error_iff (aims : Aims run machine expression node aimed ready) :
    (step run node).outcome? machine = some (.error fault, final) ↔
      (evaluateFor run aimed.name (aimed.write (.int 0)) expression).outcome? ready =
        some (.error fault, final) := by
  rw [aims.outcome?_step, outcome?_bind]
  rcases (evaluateFor run aimed.name (aimed.write (.int 0)) expression).outcome? ready
    with _ | ⟨fault | value, left⟩
  · simp
  · simp
  · simp only [Option.bind_some, outcome?_bind, outcome?_update, outcome?_pure]
    simp

end Eval

open Eval

/-! ## Formulas -/

/-- An expression of literals, variables and operators. -/
inductive Node.IsFormula : Node → Prop
  | var (name : String) : IsFormula (.var name)
  | text (content : String) : IsFormula (.text content)
  | integer (n : Int64) : IsFormula (.integer n)
  | float (x : Float) : IsFormula (.float x)
  | negate {operand : Node} (part : operand.IsFormula) : IsFormula (.negate operand)
  | compare (op : Comparison) {left right : Node} (one : left.IsFormula) (two : right.IsFormula) :
    IsFormula (.compare op left right)
  | arithmetic (op : Arithmetic) {left right : Node} (one : left.IsFormula)
    (two : right.IsFormula) : IsFormula (.arithmetic op left right)
  | concat {left right : Node} (one : left.IsFormula) (two : right.IsFormula) :
    IsFormula (.concat left right)

/-- If the fault is that a variable is missing, then it is missing in the state. -/
def Blames (name : String) {α : Type} (result : Except Fault α) (state : State) : Prop :=
  result = .error (.variableNotFound name) →
    state.readNamed name none = .error (.variableNotFound name)

section Blames

variable {name : String} {state : State} {α β : Type}

theorem blames_ok (value : α) : Blames name (.ok value) state :=
  nofun

theorem blames_readNamed (spelled : String) : Blames name (state.readNamed spelled none) state := by
  intro fails
  have same : spelled = name := by
    unfold State.readNamed State.readNamed.stored at fails
    split at fails
    · split at fails
      · cases fails
      · split at fails
        · cases fails
        · cases fails
          rfl
    · split at fails
      · cases fails
      · cases fails
        rfl
  rw [← same]
  rw [← same] at fails
  exact fails

theorem Blames.bind {x : Except Fault α} {next : α → Except Fault β} (first : Blames name x state)
    (later : ∀ a, Blames name (next a) state) : Blames name (x >>= next) state := by
  cases x with
  | error fault =>
    intro fails
    apply first
    cases fails
    rfl
  | ok a => exact later a

theorem blames_link (spelled : List Char) : Blames name (state.linkCharacters spelled) state := by
  fun_induction State.linkCharacters with
  | case1 inner ih =>
    apply ih.bind
    intro inner
    apply (blames_readNamed inner).bind
    intro value
    cases value <;> nofun
  | case2 spelled => exact blames_ok _

theorem blames_resolve (spelled : String) : Blames name (state.resolve spelled none) state :=
  (blames_link spelled.toList).bind blames_readNamed

theorem IsComputed.blames {result : Except Fault Value} (computed : IsComputed result) :
    Blames name result state := by
  cases computed <;> nofun

end Blames

/-- A computation that fails because a variable is missing only if it is missing. -/
def Eval.Fair (name : String) {α : Type} (x : Eval α) : Prop :=
  Meets (fun _ => True) x (Blames name)

namespace Eval.Fair

variable {name : String} {α β : Type} {run : Node → Eval Flow}

theorem pure (value : α) : Fair name (pure value : Eval α) :=
  meets_pure fun _ _ => blames_ok value

theorem bind {x : Eval α} {next : α → Eval β} (first : Fair name x)
    (later : ∀ a, Fair name (next a)) : Fair name (x >>= next) := by
  refine Meets.bind first ?_ ?_
  · intro a
    exact (later a).strengthen fun _ _ => trivial
  · intro fault state blames fails
    apply blames
    cases fails
    rfl

theorem consume {node : Node} (runs : Fair name (run node)) : Fair name (consume run node) := by
  have evaluated : Fair name (evaluate run node) := runs.bind fun flow => pure flow.value
  apply evaluated.bind
  intro value
  have discarded : Fair name (update (·.discard value)) := meets_update fun _ _ => blames_ok ()
  exact discarded.bind fun _ => pure value

theorem operands {left right : Node} (one : Fair name (run left)) (two : Fair name (run right)) :
    Fair name (operands run left right) := by
  apply one.consume.bind
  intro first
  apply two.consume.bind
  intro second
  exact pure (first, second)

theorem computed {result : Except Fault Value} (computed : IsComputed result) :
    Fair name (Eval.ofExcept result >>= fun value => Pure.pure (Flow.normal value)) := by
  have checked : Fair name (Eval.ofExcept result) := meets_ofExcept fun _ _ => computed.blames
  exact checked.bind fun value => pure (Flow.normal value)

end Eval.Fair

/-- A formula fails because a variable is missing only if it is missing. -/
theorem Node.IsFormula.fair {node : Node} (formula : node.IsFormula) (name : String)
    (steps : Nat) : Fair name (exec steps node) := by
  induction steps generalizing node with
  | zero => exact meets_cutOff
  | succ steps ih =>
    cases formula with
    | var spelled =>
      have read : Fair name (examine (·.resolve spelled none)) :=
        meets_examine fun _ _ => blames_resolve spelled
      exact read.bind fun value => .pure (Flow.normal value)
    | text | integer | float => exact .pure _
    | negate part =>
      exact (ih part).consume.bind fun value => .computed (.negate value)
    | compare op one two =>
      exact (Fair.operands (ih one) (ih two)).bind fun values =>
        .computed (.comparison op values.1 values.2)
    | arithmetic op one two =>
      exact (Fair.operands (ih one) (ih two)).bind fun values =>
        .computed (.arithmetic op values.1 values.2)
    | concat one two =>
      exact (Fair.operands (ih one) (ih two)).bind fun values =>
        .pure (Flow.normal (values.1.concatenate values.2))

/-- The value of a formula cannot be missed for a variable that exists. -/
theorem Node.IsFormula.missing {node : Node} (formula : node.IsFormula) {name : String}
    {steps : Nat} {machine left : Machine}
    (fails : (evaluate (exec steps) node).outcome? machine =
      some (.error (.variableNotFound name), left)) :
    (Target.var name).read left.state = .error (.variableNotFound name) := by
  have fair : Fair name (evaluate (exec steps) node) :=
    (formula.fair name steps).bind fun flow => .pure flow.value
  exact fair machine _ left trivial fails rfl

/-! ## Assignments -/

/-- An assignment fails in one of two ways. Evaluating its expression fails, for another reason than
the target's name, and that is all that happens. Or it fails for want of that name while the target
cannot be read, and fails again after the target has been given the value zero.

The hypothesis `owned` is there because only the name is compared. If the expression misses a
variable that merely shares the name of the target, say the local of a function that it calls, then
a target that exists is overwritten by zero in the same way. -/
theorem assignment_fails_iff {steps : Nat} {node expression : Node} {aimed : Target}
    {machine ready final : Machine} {fault : Fault}
    (aims : Aims (exec steps) machine expression node aimed ready)
    (owned : ∀ left, (evaluate (exec steps) expression).outcome? ready =
        some (.error (.variableNotFound aimed.name), left) →
      aimed.read left.state = .error (.variableNotFound aimed.name)) :
    (exec (steps + 1) node).outcome? machine = some (.error fault, final) ↔
      (fault ≠ .variableNotFound aimed.name ∧
        (evaluate (exec steps) expression).outcome? ready = some (.error fault, final)) ∨
      ∃ left, (evaluate (exec steps) expression).outcome? ready =
          some (.error (.variableNotFound aimed.name), left) ∧
        aimed.read left.state = .error (.variableNotFound aimed.name) ∧
        (evaluate (exec steps) expression).outcome?
            { left with state := aimed.write (.int 0) left.state } =
          some (.error fault, final) := by
  rw [exec, aims.outcome?_step_error_iff, outcome?_evaluateFor_error_iff]
  constructor
  · rintro (once | ⟨left, first, again⟩)
    · exact Or.inl once
    · exact Or.inr ⟨left, first, owned left first, again⟩
  · rintro (once | ⟨left, first, -, again⟩)
    · exact Or.inl once
    · exact Or.inr ⟨left, first, again⟩

/-- The sum of two variables. -/
def xPlusY : Node :=
  .arithmetic .add (.var "x") (.var "y")

/-- A class with one attribute, which everyone may use. -/
def box : ClassDecl where
  visibility := .anyone
  name := "Box"
  attributes := [⟨.anyone, "a", none⟩]
  methods := []

/-- An object of the class in a variable. -/
def besideBox : Machine where
  state := { classes := (∅ : Table ClassDecl).insert "Box" box,
             heap := (∅ : Heap).allocate "Box" : State }.assign "o" (.object 0) none

/-- The assignment `$x = $x + $y` fails again after `$x` has been given a value; `$o->a = $y` just
fails. -/
theorem assignment_fails_iff_in_two_ways :
    (exec 4 (.assign "x" xPlusY)).outcome? {} =
        some (.error (.variableNotFound "y"),
          { state := ({} : State).assign "x" (.int 0) none }) ∧
      (exec 2 (.memberAssign (.var "o") (.written "a") (.var "y"))).outcome? besideBox =
        some (.error (.variableNotFound "y"), besideBox) := by
  constructor
  · have formula : xPlusY.IsFormula := .arithmetic .add (.var "x") (.var "y")
    have aims : Aims (exec 3) {} xPlusY (.assign "x" xPlusY) (.var "x") {} := .var rfl (by decide)
    apply (assignment_fails_iff aims fun _ => formula.missing).2
    right
    exact ⟨{}, rfl, rfl, rfl⟩
  · have found : (target (exec 1) (.var "o") fun _ => .attributeTargetNotObject).outcome?
        besideBox = some (.ok 0, besideBox) := rfl
    have fails : (evaluate (exec 1) (.var "y")).outcome? besideBox =
        some (.error (.variableNotFound "y"), besideBox) := rfl
    have aims : Aims (exec 1) besideBox (.var "y")
        (.memberAssign (.var "o") (.written "a") (.var "y")) (.member 0 "a") besideBox :=
      .member found rfl rfl rfl
    apply (assignment_fails_iff aims fun left missed => ?_).2
    · left
      exact ⟨by decide, fails⟩
    · simp [fails, Target.name] at missed

/-- Assigns the sum of a variable that it creates and one that does not exist. -/
def Script.halfway : String :=
  "<? $x = $x + $y;"

/-- A failing assignment can leave more behind than evaluating its expression: the expression leaves
the variable missing, the assignment leaves it zero. -/
theorem halfway_leaves_zero :
    ((evaluate (exec 3) xPlusY).outcome? {}).map (fun ran => ran.2.state.readNamed "x" none) =
        some (.error (.variableNotFound "x")) ∧
      ((Machine.runSource? {} Script.halfway).map fun ran =>
          (ran.1, ran.2.state.readNamed "x" none)) =
        some (.error (.run (.variableNotFound "y")), .ok (.int 0)) := by
  constructor
  · rfl
  · cbv

end TagScript
