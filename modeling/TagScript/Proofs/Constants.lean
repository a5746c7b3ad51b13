import TagScript.Machine.Step
import TagScript.Proofs.Contracts

/-!
# Constant expressions

Initial values of attributes are constant expressions: literals, and operators applied to constant
expressions. Operators fail on arrays and objects only, and yield scalars. So a constant expression
that is evaluated at all has a scalar as its value, whatever the machine is, and leaves the machine
as it was.
-/

namespace TagScript

/-- A value without parts and without identity. -/
def Value.IsScalar (value : Value) : Prop :=
  ∃ content, value = .scalar content

section Operators

variable (left right operand : Scalar)

theorem Comparison.apply_scalar (op : Comparison) :
    ∃ value, op.apply (.scalar left) (.scalar right) = .ok value ∧ value.IsScalar := by
  cases op with
  | equal | notEqual => exact ⟨_, rfl, _, rfl⟩
  | greater | less | greaterEqual | lessEqual =>
    cases left <;> cases right <;> exact ⟨_, rfl, _, rfl⟩

theorem Arithmetic.apply_scalar (op : Arithmetic) :
    ∃ value, op.apply (.scalar left) (.scalar right) = .ok value ∧ value.IsScalar := by
  cases op <;> cases left <;> cases right <;> exact ⟨_, rfl, _, rfl⟩

theorem Value.negate_scalar :
    ∃ value, (Value.scalar operand).negate = .ok value ∧ value.IsScalar := by
  cases operand <;> exact ⟨_, rfl, _, rfl⟩

end Operators

namespace Eval

/-- If the computation ends, then with a result as described, and the machine is as it was. -/
def Harmless {α : Type} (x : Eval α) (yields : α → Prop) : Prop :=
  ∀ machine result later, x.outcome? machine = some (result, later) →
    later = machine ∧ ∃ value, result = .ok value ∧ yields value

namespace Harmless

variable {α β : Type} {yields : α → Prop} {yields' : β → Prop}

theorem pure {value : α} (holds : yields value) : Harmless (pure value : Eval α) yields := by
  intro machine result later ran
  cases ran
  exact ⟨rfl, value, rfl, holds⟩

theorem ofExcept {outcome : Except Fault α}
    (succeeds : ∃ value, outcome = .ok value ∧ yields value) :
    Harmless (Eval.ofExcept outcome) yields := by
  rcases succeeds with ⟨value, rfl, holds⟩
  exact pure holds

theorem bind {x : Eval α} {next : α → Eval β} (first : Harmless x yields)
    (second : ∀ value, yields value → Harmless (next value) yields') :
    Harmless (x >>= next) yields' := by
  intro machine result later ran
  rcases outcome_of_bind ran with ⟨fault, failed, -⟩ | ⟨value, middle, ended, rest⟩
  · rcases (first _ _ _ failed).2 with ⟨value, impossible, -⟩
    cases impossible
  · rcases first _ _ _ ended with ⟨rfl, value', same, holds⟩
    cases same
    exact second value holds _ _ _ rest

section Parts

variable {run : Node → Eval Flow}

theorem evaluate {node : Node} (harmless : Harmless (run node) fun flow => flow.value.IsScalar) :
    Harmless (Eval.evaluate run node) Value.IsScalar :=
  harmless.bind fun _ scalar => pure scalar

/-- A scalar that is used up leaves nothing to reclaim. -/
theorem consume {node : Node} (harmless : Harmless (run node) fun flow => flow.value.IsScalar) :
    Harmless (Eval.consume run node) Value.IsScalar := by
  apply harmless.evaluate.bind
  rintro _ ⟨content, rfl⟩
  have discarded : Harmless (update (·.discard (.scalar content))) fun _ => True := by
    intro machine result later ran
    cases ran
    exact ⟨rfl, (), rfl, trivial⟩
  exact discarded.bind fun _ _ => pure ⟨content, rfl⟩

theorem operands {left right : Node}
    (first : Harmless (run left) fun flow => flow.value.IsScalar)
    (second : Harmless (run right) fun flow => flow.value.IsScalar) :
    Harmless (Eval.operands run left right) fun pair => pair.1.IsScalar ∧ pair.2.IsScalar :=
  first.consume.bind fun _ scalar => second.consume.bind fun _ scalar' => pure ⟨scalar, scalar'⟩

/-- The value that an operator yields is the value of the node. -/
theorem normal {x : Eval Value} (harmless : Harmless x Value.IsScalar) :
    Harmless (do return Flow.normal (← x)) fun flow => flow.value.IsScalar :=
  harmless.bind fun _ scalar => pure scalar

theorem step
    (runs : ∀ node : Node, node.isConstant → Harmless (run node) fun flow => flow.value.IsScalar)
    {node : Node} (constant : node.isConstant) :
    Harmless (Eval.step run node) fun flow => flow.value.IsScalar := by
  -- Of all kinds of nodes only literals and operators are constant.
  cases node <;> simp only [Node.isConstant, Bool.and_eq_true, Bool.false_eq_true] at constant
  case text content => exact pure ⟨_, rfl⟩
  case integer n => exact pure ⟨_, rfl⟩
  case float x => exact pure ⟨_, rfl⟩
  case compare op left right =>
    apply (operands (runs _ constant.1) (runs _ constant.2)).bind
    rintro ⟨_, _⟩ ⟨⟨a, rfl⟩, ⟨b, rfl⟩⟩
    exact (ofExcept (op.apply_scalar a b)).normal
  case arithmetic op left right =>
    apply (operands (runs _ constant.1) (runs _ constant.2)).bind
    rintro ⟨_, _⟩ ⟨⟨a, rfl⟩, ⟨b, rfl⟩⟩
    exact (ofExcept (op.apply_scalar a b)).normal
  case negate operand =>
    apply (runs _ constant).consume.bind
    rintro _ ⟨content, rfl⟩
    exact (ofExcept (Value.negate_scalar content)).normal
  case concat left right =>
    apply (operands (runs _ constant.1) (runs _ constant.2)).bind
    intro pair _
    exact pure ⟨_, rfl⟩

/-- Without an initial value an attribute is empty, which is a scalar too. -/
theorem initialValue
    (runs : ∀ node : Node, node.isConstant → Harmless (run node) fun flow => flow.value.IsScalar)
    {member : AttributeDecl} (constant : ∀ node, member.init = some node → node.isConstant) :
    Harmless (Eval.initialValue run member) Value.IsScalar := by
  cases given : member.init with
  | none =>
    simp only [Eval.initialValue, given]
    exact pure ⟨_, rfl⟩
  | some node =>
    simp only [Eval.initialValue, given]
    exact (runs node (constant node given)).evaluate

end Parts

end Harmless

end Eval

end TagScript
