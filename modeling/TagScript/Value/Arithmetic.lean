import TagScript.Fault
import TagScript.Operator

/-!
# Operators on values

Addition and ordering read operands as declared numbers, which stay integers where they can. The
other arithmetic operators read decimals and produce texts. Comparisons produce the texts `1` and
`0`.
-/

namespace TagScript

/-- A number as addition and ordering see it. -/
inductive Number
  | int (n : Int64)
  | float (x : Float)

/-- The number as a floating point number. -/
def Number.toFloat : Number → Float
  | int n => n.toFloat
  | float x => x

namespace Value

/-- The number that addition and ordering take a value for: texts count as their leading integer.
The symbol of the operator appears in the fault. -/
def declaredNumber (symbol : String) : Value → Except Fault Number
  | scalar (.int n) => .ok (.int n)
  | scalar (.float x) => .ok (.float x)
  | scalar (.text content) => .ok (.int (integerPrefix content))
  | other => .error (.unsupportedOperand symbol other.kind)

/-- The number that the other arithmetic operators take a value for. -/
def looseNumber (symbol : String) : Value → Except Fault Float
  | scalar (.int n) => .ok n.toFloat
  | scalar (.float x) => .ok x
  | scalar (.text content) => .ok (numberPrefix content)
  | other => .error (.unsupportedOperand symbol other.kind)

/-- The text under which an array keeps a value's cell. -/
def key : Value → Except Fault String
  | scalar s => .ok s.toText
  | other => .error (.illegalKey other.kind)

/-- The name that a computed variable, class or attribute name stands for. -/
def name : Value → Except Fault String
  | scalar s => .ok s.toText
  | other => .error (.variableNameNotText other.kind)

end Value

namespace Comparison

/-- Whether an ordering comparison holds between two numbers. No ordering holds of a number that is
not one, and equality is not decided on numbers. -/
def holds (op : Comparison) : Number → Number → Bool
  | .int m, .int n =>
    match op with
    | greater => n < m
    | less => m < n
    | greaterEqual => n ≤ m
    | lessEqual => m ≤ n
    | equal | notEqual => false
  | a, b =>
    match op with
    | greater => b.toFloat < a.toFloat
    | less => a.toFloat < b.toFloat
    | greaterEqual => b.toFloat ≤ a.toFloat
    | lessEqual => a.toFloat ≤ b.toFloat
    | equal | notEqual => false

/-- The result of a comparison. -/
def apply (op : Comparison) (left right : Value) : Except Fault Value :=
  match op with
  | equal => .ok (.bool (left.same right))
  | notEqual => .ok (.bool !left.same right)
  | _ => do
    let a ← left.declaredNumber op.symbol
    let b ← right.declaredNumber op.symbol
    return .bool (op.holds a b)

end Comparison

/-- The sum of two numbers. Integers stay integers unless the sum does not fit. -/
def Number.add : Number → Number → Scalar
  | .int m, .int n =>
    match int64? (m.toInt + n.toInt) with
    | some sum => .int sum
    | none => .float (m.toFloat + n.toFloat)
  | a, b => .float (a.toFloat + b.toFloat)

namespace Arithmetic

/-- The result of an arithmetic operation. Division by zero gives an infinity or no number. -/
def apply (op : Arithmetic) (left right : Value) : Except Fault Value :=
  match op with
  | add => do
    let a ← left.declaredNumber op.symbol
    let b ← right.declaredNumber op.symbol
    return .scalar (a.add b)
  | subtract => onFloats (· - ·)
  | divide => onFloats (· / ·)
  | multiply => onFloats (· * ·)
where
  /-- Computes on decimals; the result is the text of the number. -/
  onFloats (f : Float → Float → Float) : Except Fault Value := do
    let a ← left.looseNumber op.symbol
    let b ← right.looseNumber op.symbol
    return .text (numberText (f a b))

end Arithmetic

namespace Value

/-- The negated number of a value, as a text. -/
def negate (value : Value) : Except Fault Value := do
  let x ← value.looseNumber Arithmetic.subtract.symbol
  return .text (numberText (-x))

/-- The texts of two values, one after the other. -/
def concatenate (left right : Value) : Value :=
  .text (left.toText ++ right.toText)

end Value

end TagScript
