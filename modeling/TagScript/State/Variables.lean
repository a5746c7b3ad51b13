import TagScript.State.Release
import TagScript.Value.Arithmetic
import TagScript.Value.Cells

/-!
# Reading and writing variables

A name that begins with a dollar sign stands for the name that the rest of it holds. Every write
counts the references of the new value before those of the old one are dropped, so writing a
variable's own value back never reclaims what it holds.
-/

namespace TagScript.State

/-- The value of a variable whose name is known. In a method the receiver has a name of its own. -/
def readNamed (state : State) (name : String) (scope : Option String) : Except Fault Value :=
  match state.frame.receiver with
  | some handle => if name = receiverName then .ok (.object handle) else stored
  | none => stored
where
  /-- The value that the binding of the name leads to. -/
  stored : Except Fault Value :=
    match (state.binding? name scope).bind state.storage.get? with
    | some value => .ok value
    | none => .error (.variableNotFound name)

/-- The name that a list of characters stands for. -/
def linkCharacters (state : State) : List Char → Except Fault String
  | '$' :: inner => do
    let name ← state.linkCharacters inner
    (← state.readNamed name none).name
  | characters => .ok (.ofList characters)

/-- The variable that a name stands for: itself, or what the variable after the dollar sign holds. -/
def link (state : State) (name : String) : Except Fault String :=
  state.linkCharacters name.toList

/-- The value of a variable. -/
def resolve (state : State) (name : String) (scope : Option String) : Except Fault Value := do
  state.readNamed (← state.link name) scope

/-- Unbinds a name in exactly this scope and drops the references of its value. -/
def unlink (state : State) (scope name : String) : State :=
  match state.take scope name with
  | (none, state) => state
  | (some value, state) => state.releaseValue value

/-- Binds a name to a value, dropping what it was bound to. -/
def bind (state : State) (scope name key : String) (value : Value) : State :=
  ((state.retain value).unlink scope name).setBinding scope name key value

/-- Gives a variable a value. -/
def assign (state : State) (name : String) (value : Value) (scope : Option String) : State :=
  let scope := scope.getD state.frame.scope
  state.bind scope name (variableKey scope name) value

/-- Gives an attribute of an object a value. -/
def assignAttribute (state : State) (handle : Handle) (name : String) (value : Value) : State :=
  let slot := attributeSlot handle name
  state.bind globalScope slot slot value

/-- The value of an attribute of an object. -/
def readAttribute (state : State) (handle : Handle) (name : String) : Except Fault Value :=
  match (state.bindingIn? globalScope (attributeSlot handle name)).bind state.storage.get? with
  | some value => .ok value
  | none => .error (.variableNotFound name)

/-- Makes sure that a variable is bound to an array, an empty one if it held anything else. The
first result is the key of the array. -/
def openArray (state : State) (scope name : String) : String × State :=
  match state.bindingIn? scope name with
  | some ⟨.array, key⟩ => (key, state)
  | _ =>
    let key := variableKey scope name
    (key, (state.unlink scope name).setBinding scope name key (.array []))

/-- Writes a value into the array stored under a key. The first result lists the handles of what
was displaced. -/
def writeCells (state : State) (key : String) (path : List String) (value : Value) :
    List Handle × State :=
  match state.storage.arrays.get? key with
  | none => ([], state)
  | some cells =>
    let (cells, displaced) := Cells.write cells path value
    (displaced.flatMap Value.handles,
      { state with storage := state.storage.insert key (.array cells) })

/-- Writes a value into the array that a variable is bound to, at the end of a path. -/
def assignPath (state : State) (name : String) (path : List String) (value : Value)
    (scope : Option String) : State :=
  let scope := scope.getD state.frame.scope
  let (key, state) := (state.retain value).openArray scope name
  let (handles, state) := state.writeCells key path value
  state.release handles

/-- The value at the end of a path in the array that a variable is bound to. -/
def readPath (state : State) (name : String) (path : List String) (scope : Option String) :
    Except Fault Value := do
  let name ← state.link name
  match state.binding? name scope with
  | none => .error (.variableNotFound name)
  | some ⟨.array, key⟩ =>
    match state.storage.arrays.get? key with
    | none => .error (.variableNotFound name)
    | some cells => Cells.read name [] cells path
  | some _ => .error (.notAnArray name)

end TagScript.State
