import TagScript.Decimal.Literal
import TagScript.Program
import TagScript.Program.Reader
import TagScript.Value.Number

/-!
# Reading expressions

From loosest to tightest the levels are: comparison and concatenation, addition, multiplication,
negation, member access, and primary expressions. Binary levels associate to the left. Every nested
expression and every negation uses up one level of the nesting that is still allowed, and the
recursion is on that number.
-/

namespace TagScript

open Reader

/-- An operator between two expressions. -/
inductive BinaryOperator
  | compare (op : Comparison)
  | concat
  | arithmetic (op : Arithmetic)
  deriving DecidableEq, Repr

namespace BinaryOperator

/-- The node for two operands. -/
def node : BinaryOperator → Node → Node → Node
  | compare op => .compare op
  | concat => .concat
  | arithmetic op => .arithmetic op

/-- The operators of the loosest level. -/
def comparison? : TokenKind → Option BinaryOperator
  | .equal => some (compare .equal)
  | .notEqual => some (compare .notEqual)
  | .less => some (compare .less)
  | .lessEqual => some (compare .lessEqual)
  | .greater => some (compare .greater)
  | .greaterEqual => some (compare .greaterEqual)
  | .dot => some concat
  | _ => none

/-- The operators of the middle level. -/
def additive? : TokenKind → Option BinaryOperator
  | .plus => some (arithmetic .add)
  | .minus => some (arithmetic .subtract)
  | _ => none

/-- The operators of the tightest level. -/
def multiplicative? : TokenKind → Option BinaryOperator
  | .star => some (arithmetic .multiply)
  | .slash => some (arithmetic .divide)
  | _ => none

end BinaryOperator

/-- One access to a member of an object. -/
inductive Access
  | call (method : Name) (args : List Node)
  | fetch (member : Name)

/-- The node for an access to a target. -/
def Access.node (target : Node) : Access → Node
  | call method args => .methodCall target method args
  | fetch member => .memberFetch target member

namespace Expression

variable {m : Type → Type} [Monad m]

/-- Operands with operators of one level between them. -/
def chain (operator? : TokenKind → Option BinaryOperator) (operand : Reading m Node) :
    Reading m Node := do
  let first ← operand
  let others ← many fun kind => (operator? kind).map fun op => do
    let _ ← advance
    return (op, ← operand)
  return others.foldl (fun left (op, right) => op.node left right) first

/-- The three binary levels above an operand. -/
def binary (operand : Reading m Node) : Reading m Node :=
  chain BinaryOperator.comparison?
    (chain BinaryOperator.additive? (chain BinaryOperator.multiplicative? operand))

/-- A word that stands for a value. -/
def constant? (word : String) : Option Node :=
  match word.map Char.toLower with
  | "true" => some (.integer 1)
  | "false" | "null" => some (.text "")
  | _ => none

variable [MonadExceptOf (Located ParseFault) m]

/-- Subscripts, each an expression in brackets. -/
def subscripts (expression : Reading m Node) : Reading m Index := do
  let keys ← many fun kind =>
    if kind = .leftBracket then some do
      let _ ← advance
      let key ← expression
      let _ ← expect .rightBracket
      return key
    else none
  return .ofKeys keys

/-- What follows `new`: a class and optional arguments. -/
def newObject (expression : Reading m Node) : Reading m Node := do
  let token ← peek
  let name ← match token.kind with
    | .identifier => pure (Name.written token.value)
    | .variableName => pure (Name.computed (.var token.value))
    | _ => failHere .expectedClassName
  let _ ← advance
  let args ← if (← peekKind) = .leftParen then parenthesized expression else pure []
  return .new name args

/-- What starts with a variable: the variable itself, a subscripted one, or a call of the function
that it names. -/
def fromVariable (expression : Reading m Node) (name : String) : Reading m Node := do
  match ← peekKind with
  | .leftBracket => return .arrayFetch name (← subscripts expression)
  | .leftParen => return .call (.computed (.var name)) (← parenthesized expression)
  | _ => return .var name

/-- What starts with a word: a call or a constant. -/
def fromWord (expression : Reading m Node) (token : Token) : Reading m Node := do
  if (← peekKind) = .leftParen then
    return .call (.written token.value) (← parenthesized expression)
  else
    match constant? token.value with
    | some node => return node
    | none => failAt token (.undefinedConstant token.value)

/-- An expression without operators. -/
def primary (expression : Reading m Node) : Reading m Node := do
  let token ← peek
  match token.kind with
  | .variableName => advance *> fromVariable expression token.value
  | .identifier => advance *> fromWord expression token
  | .string => advance *> pure (.text token.value)
  | .integer =>
    let _ ← advance
    match integerLiteral? token.value.toList with
    | some n => return .integer n
    | none => failAt token (.integerOutOfRange token.value)
  | .float =>
    let _ ← advance
    match Decimal.number? token.value.toList with
    | some x => return .float x
    | none => failAt token (.invalidFloat token.value)
  | .leftParen =>
    let _ ← advance
    let node ← expression
    let _ ← expect .rightParen
    return node
  | .kwNew => advance *> newObject expression
  | _ => failHere .unexpected

/-- A member name after an arrow: a variable holds it, any other word, keywords included, is it.
What is a word is told by its kind; the text of a scanned token would tell the same. -/
def memberName? (token : Token) : Option Name :=
  match token.kind with
  | .variableName => some (.computed (.var token.value))
  | .identifier => some (.written token.value)
  | kind => if kind.isKeyword then some (.written token.value) else none

/-- An arrow, a member, and arguments if the member is called. -/
def access (expression : Reading m Node) : Reading m Access := do
  let _ ← advance
  match memberName? (← peek) with
  | none => failHere .expectedMemberName
  | some member =>
    let _ ← advance
    if (← peekKind) = .leftParen then return .call member (← parenthesized expression)
    else return .fetch member

/-- A primary expression with accesses to members after it. -/
def withAccesses (expression : Reading m Node) : Reading m Node := do
  let target ← primary expression
  let accesses ← many fun kind => if kind = .arrow then some (access expression) else none
  return accesses.foldl Access.node target

/-- An operand, given the reader for one after a minus sign and the one for a nested expression. -/
def operandWith (negated expression : Reading m Node) : Reading m Node := do
  if (← peekKind) = .minus then
    let _ ← advance
    return .negate (← negated)
  else withAccesses expression

/-- An operand with room for so many nested expressions and negations. -/
def operand (room : Nat) : Reader Node := fun tokens =>
  match room with
  | 0 => operandWith tooDeep tooDeep tokens
  | room + 1 => operandWith (operand room) (binary (operand room)) tokens

end Expression

/-- An expression with room for so many nested expressions and negations, itself included. -/
def Node.readExpression (room : Nat) : Reader Node :=
  match room with
  | 0 => tooDeep
  | room + 1 => Expression.binary (Expression.operand room)

end TagScript
