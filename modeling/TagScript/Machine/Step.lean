import TagScript.Machine.Invocation

/-!
# Running nodes

`Eval.step` says how a node is run in terms of how its parts are run. `Eval.exec` closes that circle
for a number of nested steps, and cuts off what would need more.
-/

namespace TagScript.Eval

/-- The variable that an assignment aims at. The receiver cannot be assigned. -/
def assignable (name : String) : Eval String := do
  let name ← examine (·.link name)
  if name = receiverName then throw .receiverAssigned else return name

/-- Assigns to a variable. -/
def assign (run : Node → Eval Flow) (name : String) (expression : Node) : Eval Value := do
  let name ← assignable name
  let value ← evaluateFor run name (·.assign name (.int 0) none) expression
  update (·.assign name value none)
  return value

/-- Assigns to a cell of an array variable. -/
def assignCell (run : Node → Eval Flow) (name : String) (index : Index) (expression : Node) :
    Eval Value := do
  let name ← assignable name
  let path ← keys run index.keys
  let value ← evaluate run expression
  update (·.assignPath name path value none)
  return value

/-- Both operands of an operator, from left to right. -/
def operands (run : Node → Eval Flow) (left right : Node) : Eval (Value × Value) := do
  let first ← consume run left
  let second ← consume run right
  return (first, second)

/-- Whether a condition holds. -/
def test (run : Node → Eval Flow) (condition : Node) : Eval Bool :=
  return (← consume run condition).isTruthy

/-- Runs a node, given how to run its parts. -/
def step (run : Node → Eval Flow) (node : Node) : Eval Flow := do
  match node with
  | .var name => return .normal (← examine (·.resolve name none))
  | .text content => return .normal (.text content)
  | .integer n => return .normal (.int n)
  | .float x => return .normal (.float x)
  | .sequence nodes => block run nodes
  | .ifThen condition thenBranch =>
    if ← test run condition then statement run thenBranch else return .normal .empty
  | .ifElse condition thenBranch elseBranch =>
    if ← test run condition then statement run thenBranch else statement run elseBranch
  | .whileDo condition body =>
    if ← test run condition then
      match ← statement run body with
      | .returned value => return .returned value
      | .normal _ => run (.whileDo condition body)
    else return .normal .empty
  | .doWhile body condition =>
    match ← statement run body with
    | .returned value => return .returned value
    | .normal _ =>
      if ← test run condition then run (.doWhile body condition) else return .normal .empty
  | .exit none => return .returned .empty
  | .exit (some expression) => return .returned (← evaluate run expression)
  | .echo expression =>
    let value ← evaluate run expression
    write value.toText
    update (·.discard value)
    return .normal .empty
  | .assign name expression => return .normal (← assign run name expression)
  | .arrayAssign name index expression =>
    return .normal (← assignCell run name index expression)
  | .arrayFetch name index =>
    let path ← keys run index.keys
    return .normal (← examine (·.readPath name path none))
  | .call function args => return .normal (← callFunction run function args)
  | .new className args => return .normal (← newObject run className args)
  | .methodCall target method args => return .normal (← callMethod run target method args)
  | .memberFetch target member => return .normal (← fetchMember run target member)
  | .memberAssign target member expression =>
    return .normal (← assignMember run target member expression)
  | .compare op left right =>
    let (first, second) ← operands run left right
    return .normal (← ofExcept (op.apply first second))
  | .arithmetic op left right =>
    let (first, second) ← operands run left right
    return .normal (← ofExcept (op.apply first second))
  | .negate operand =>
    let value ← consume run operand
    return .normal (← ofExcept value.negate)
  | .concat left right =>
    let (first, second) ← operands run left right
    return .normal (first.concatenate second)

/-- Runs a node for at most this many nested steps. -/
def exec (steps : Nat) (node : Node) : Eval Flow :=
  match steps with
  | 0 => cutOff
  | steps + 1 => step (exec steps) node

end TagScript.Eval
