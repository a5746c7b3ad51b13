import TagScript.Machine
import TagScript.State.Variables

/-!
# Evaluating parts of a node

How the parts of a node are run, given how a node is run. An object that an expression produced and
nobody stored is reclaimed as soon as its value has been used.
-/

namespace TagScript.Eval

variable (run : Node → Eval Flow)

/-- The value of a node. -/
def evaluate (node : Node) : Eval Value :=
  return (← run node).value

/-- The value of an operand that is used up. -/
def consume (node : Node) : Eval Value := do
  let value ← evaluate run node
  update (·.discard value)
  return value

/-- Runs a node as a statement, whose value nobody uses. -/
def statement (node : Node) : Eval Flow := do
  let flow ← run node
  match flow with
  | .normal value => update (·.discard value)
  | .returned _ => pure ()
  return flow

/-- Runs statements in order until one returns. -/
def block : List Node → Eval Flow
  | [] => return .normal .empty
  | node :: nodes => do
    match ← statement run node with
    | .returned value => return .returned value
    | .normal _ => block nodes

/-- The values of arguments from left to right. Each is held from here on; if one fails, those before
it are let go. -/
def arguments (held : List Value) : List Node → Eval (List Value)
  | [] => return held
  | node :: nodes => do
    let value ← onFault (evaluate run node) (held.foldl State.releaseValue)
    update (·.retain value)
    arguments (held ++ [value]) nodes

/-- The keys that subscripts evaluate to. -/
def keys : List Node → Eval (List String)
  | [] => return []
  | node :: nodes => do
    let value ← evaluate run node
    let key ← ofExcept value.key
    return key :: (← keys nodes)

/-- The name of a function or method. A computed one has to be a text. -/
def callableName : Name → Eval String
  | .written name => return name
  | .computed node => do
    match ← evaluate run node with
    | .scalar (.text name) => return name
    | other => throw (.functionNameNotText other.kind)

/-- The name of a class or attribute. A computed one may be any scalar. -/
def memberName : Name → Eval String
  | .written name => return name
  | .computed node => do
    let value ← evaluate run node
    ofExcept value.name

/-- The value of an expression that is to be assigned under a name. If the expression reads that
name before it exists, it is given the value zero and the expression is evaluated once more. -/
def evaluateFor (name : String) (start : State → State) (node : Node) : Eval Value :=
  tryCatch (evaluate run node) fun fault => do
    if fault = .variableNotFound name then
      update start
      evaluate run node
    else throw fault

end TagScript.Eval
