import TagScript.Value

/-!
# Faults

A fault ends the run of a script. Each one names its cause; `Fault.message` is the only place that
words it.
-/

namespace TagScript

/-- The cause of a failed run. -/
inductive Fault
  /-- A variable, or an attribute, has no value. -/
  | variableNotFound (name : String)
  /-- A computed variable, class or attribute name is an array or an object. -/
  | variableNameNotText (found : Kind)
  /-- A subscript is applied to something that is no array. -/
  | notAnArray (name : String)
  /-- An array key is an array or an object. -/
  | illegalKey (found : Kind)
  | classNotFound (name : String)
  | classRedeclared (name : String)
  | functionNotFound (name : String)
  | methodNotFound (className name : String)
  /-- A call passes fewer arguments than there are parameters. -/
  | tooFewArguments (function : String) (expected found : Nat)
  | functionRedeclared (name : String)
  /-- A computed function or method name is not a text. -/
  | functionNameNotText (found : Kind)
  /-- A method is called on something that is no object; no kind is known of a missing receiver. -/
  | callTargetNotObject (found : Option Kind)
  /-- An attribute is accessed on something that is no object. -/
  | attributeTargetNotObject
  /-- A member is private to another class, or not declared. -/
  | memberNotVisible (member : String)
  | initializerNotConstant (member className : String)
  /-- An assignment aims at the receiver variable. -/
  | receiverAssigned
  /-- A protected member is accessed from outside its class. -/
  | protectedAccess (invoker className member : String)
  | unsupportedOperand (symbol : String) (found : Kind)
  deriving DecidableEq, Repr

namespace Fault

/-- The wording of a fault. -/
def message : Fault → String
  | variableNotFound name => s!"Variable not found: {name}"
  | variableNameNotText found => s!"Variable name must be string. Found: {found.name}"
  | notAnArray name => s!"The variable is not an array: {name}"
  | illegalKey found => s!"Illegal array key type: {found.name}"
  | classNotFound name => s!"No class definition found: {name}"
  | classRedeclared name => s!"Cannot redeclare class {name}"
  | functionNotFound name => s!"Function not found: {name}"
  | methodNotFound className name => s!"Call to undefined method {className}::{name}()"
  | tooFewArguments function expected found =>
    s!"Function {function}( ) expecting {expected} arguments, but only found {found}."
  | functionRedeclared name => s!"Cannot redeclare {name}"
  | functionNameNotText found => s!"Function name must be string. Found: {found.name}"
  | callTargetNotObject found =>
    let word := (found.map Kind.name).getD "Unknown"
    s!"The target of an invocation must be an object. Found: {word}"
  | attributeTargetNotObject => "The target of the variable access was not an object."
  | memberNotVisible member => s!"Call to a restricted member: {member}"
  | initializerNotConstant member className =>
    "Initialization value for attributes must be constant expressions. " ++
      s!"A non-constant expression was used for \"{member}\" in \"{className}\""
  | receiverAssigned => "Cannot redeclare $this"
  | protectedAccess invoker className member =>
    s!"Inheritance not yet supported: cannot access protected {className}::{member} from {invoker}"
  | unsupportedOperand symbol found => s!"Unsupported operand type {found.name} for '{symbol}'"

end Fault

end TagScript
