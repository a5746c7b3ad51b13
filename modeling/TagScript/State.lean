import TagScript.Fault
import TagScript.Heap
import TagScript.Program
import TagScript.Storage

/-!
# The state of a run

Variables are names bound in scopes; a binding leads to a stored value. Every function, and every
method of a class, has one scope, which only the activation now running fills. Top-level variables
and the attributes of all objects share the global scope.
-/

namespace TagScript

/-- The scope of top-level variables and of attributes. -/
def globalScope : String := ".global"

/-- The variable that stands for the receiver of a method. -/
def receiverName : String := "this"

/-- The activation now running. -/
structure Frame where
  scope : String := globalScope
  /-- The class of the method, if a method is running. -/
  className : Option String := none
  /-- The receiver, if a method is running. -/
  receiver : Option Handle := none
  /-- How many arguments have been bound. -/
  passed : Nat := 0
  deriving DecidableEq, Repr

/-- Everything that running a program changes, apart from its output. -/
structure State where
  scopes : Table (Table Binding) := ∅
  storage : Storage := ∅
  heap : Heap := ∅
  functions : Table FunctionDecl := ∅
  classes : Table ClassDecl := ∅
  frame : Frame := {}

/-- The name under which the global scope keeps an attribute of an object. -/
def attributeSlot (handle : Handle) (name : String) : String :=
  s!"{handle}::{name}"

/-- The storage key of a variable. -/
def variableKey (scope name : String) : String :=
  s!"{scope}#{name}"

namespace State

/-- The state before anything has run. -/
def initial : State := {}

/-- The bindings of a scope; an unknown scope has none. -/
def bindings (state : State) (scope : String) : Table Binding :=
  (state.scopes.get? scope).getD ∅

/-- Where a name is bound in exactly this scope. -/
def bindingIn? (state : State) (scope name : String) : Option Binding :=
  (state.bindings scope).get? name

/-- Where a name is bound, in this scope or else in the global one. The scope is that of the running
activation unless one is given. -/
def binding? (state : State) (name : String) (scope : Option String) : Option Binding :=
  state.bindingIn? (scope.getD state.frame.scope) name <|> state.bindingIn? globalScope name

/-- Binds a name in a scope to a value stored under a key. -/
def setBinding (state : State) (scope name key : String) (value : Value) : State :=
  { state with
    storage := state.storage.insert key value
    scopes := state.scopes.insert scope ((state.bindings scope).insert name ⟨value.slot, key⟩) }

/-- Removes the binding of a name in exactly this scope, with the value it leads to. -/
def take (state : State) (scope name : String) : Option Value × State :=
  match state.bindingIn? scope name with
  | none => (none, state)
  | some place =>
    (state.storage.get? place,
      { state with
        storage := state.storage.erase place
        scopes := state.scopes.insert scope ((state.bindings scope).erase name) })

/-- Removes the bindings of names in a scope. The first result lists the values, in that order. -/
def takeAll (state : State) (scope : String) : List String → List Value × State
  | [] => ([], state)
  | name :: names =>
    let (value, state) := state.take scope name
    let (values, state) := state.takeAll scope names
    (value.toList ++ values, state)

theorem heap_take (state : State) (scope name : String) :
    (state.take scope name).2.heap = state.heap := by
  unfold take
  split <;> rfl

theorem heap_takeAll (state : State) (scope : String) (names : List String) :
    (state.takeAll scope names).2.heap = state.heap := by
  induction names generalizing state with
  | nil => rfl
  | cons name names ih => exact (ih _).trans (heap_take state scope name)

/-- Declares a function whose name is new. -/
def declareFunction (state : State) (decl : FunctionDecl) : Except Fault State :=
  if state.functions.contains decl.name then .error (.functionRedeclared decl.name)
  else .ok { state with functions := state.functions.insert decl.name decl }

/-- The first name that occurs a second time. -/
def firstRepeated? (seen : List String) : List String → Option String
  | [] => none
  | name :: names => if name ∈ seen then some name else firstRepeated? (name :: seen) names

/-- Declares a class whose name is new and whose methods have different names. -/
def declareClass (state : State) (decl : ClassDecl) : Except Fault State :=
  if state.classes.contains decl.name then .error (.classRedeclared decl.name)
  else
    match firstRepeated? [] (decl.methods.map fun method => method.function.name) with
    | some name => .error (.functionRedeclared s!"{decl.name}::{name}")
    | none => .ok { state with classes := state.classes.insert decl.name decl }

/-- Makes another activation the running one. -/
def enter (state : State) (frame : Frame) : State :=
  { state with frame }

/-- The class of a live object. -/
def classOf? (state : State) (handle : Handle) : Option String :=
  (state.heap.get? handle).map Instance.className

end State

end TagScript
