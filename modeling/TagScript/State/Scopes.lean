import TagScript.State.Release

/-!
# Activations

A call starts with an empty scope and leaves none behind. If the same function is already running,
its scope is taken out of the state for the duration of the call and put back unchanged.
-/

namespace TagScript

/-- The bindings and values of a scope that has been taken out of the state. -/
structure Suspended where
  name : String
  bindings : Table Binding
  values : List (Binding × Value)

namespace State

/-- Takes a scope out of the state, if it exists. -/
def suspend (state : State) (name : String) : Option Suspended × State :=
  match state.scopes.get? name with
  | none => (none, state)
  | some bindings =>
    let (values, storage) := state.storage.takeAll bindings.values
    (some ⟨name, bindings, values⟩, { state with scopes := state.scopes.erase name, storage })

/-- Puts a scope back. -/
def resume (state : State) (suspended : Suspended) : State :=
  { state with
    storage := suspended.values.foldl
      (fun storage (place, value) => storage.insert place.key value) state.storage
    scopes := state.scopes.insert suspended.name suspended.bindings }

/-- Clears places one after another, dropping the references of the value at each. -/
def clear (state : State) : List Binding → State
  | [] => state
  | place :: places =>
    match state.storage.get? place with
    | none => state.clear places
    | some value =>
      ({ state with storage := state.storage.erase place }.releaseValue value).clear places

/-- Removes a scope with everything bound in it. -/
def drop (state : State) (name : String) : State :=
  match state.scopes.get? name with
  | none => state
  | some bindings => { state with scopes := state.scopes.erase name }.clear bindings.values

end State

end TagScript
