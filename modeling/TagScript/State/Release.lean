import TagScript.State

/-!
# Counting references

An object counts the stored values that hold its handle. When the last of them goes, the object is
reclaimed: its attributes are unbound, which may release further objects. `State.release` follows
that cascade; it ends because every object is reclaimed at most once.
-/

namespace TagScript.State

/-- Counts one reference more for each handle in a value. -/
def retain (state : State) (value : Value) : State :=
  { state with heap := state.heap.retainAll value.handles }

/-- Counts one reference less for each handle in a value, and reclaims nothing. This hands a value
back to an expression that has yet to store it. -/
def disown (state : State) (value : Value) : State :=
  { state with heap := state.heap.decrementAll value.handles }

/-- The slots of the attributes that the class of an object declares. -/
def attributeSlots (state : State) (handle : Handle) (className : String) : List String :=
  match state.classes.get? className with
  | some decl => decl.attributes.map fun member => attributeSlot handle member.name
  | none => []

/-- Removes an object and unbinds its attributes. The first result lists the handles that they
held. -/
def reclaim (state : State) (handle : Handle) (className : String) : List Handle × State :=
  let slots := state.attributeSlots handle className
  let (values, state) := { state with heap := state.heap.remove handle }.takeAll globalScope slots
  (values.flatMap Value.handles, state)

theorem heap_reclaim (state : State) (handle : Handle) (className : String) :
    (state.reclaim handle className).2.heap = state.heap.remove handle :=
  heap_takeAll _ _ _

/-- Drops one reference for each handle. Objects without a reference left are reclaimed, and the
handles that their attributes held are dropped next. -/
def release (state : State) (handles : List Handle) : State :=
  match handles with
  | [] => state
  | handle :: handles =>
    let counted := { state with heap := state.heap.decrement handle }
    match _found : counted.heap.get? handle with
    | none => release counted handles
    | some object =>
      if object.references = 0 then
        let reclaimed := counted.reclaim handle object.className
        release reclaimed.2 (reclaimed.1 ++ handles)
      else release counted handles
termination_by (state.heap.live, handles.length)
decreasing_by
  all_goals
    have same : (state.heap.decrement handle).live = state.heap.live :=
      Heap.live_modify state.heap handle _
  · simp only [same]
    exact Prod.Lex.right _ (by simp)
  · have fewer := Heap.live_remove _found
    refine Prod.Lex.left _ _ ?_
    simp only [counted, heap_reclaim] at fewer ⊢
    omega
  · simp only [same]
    exact Prod.Lex.right _ (by simp)

/-- Drops the references that a value holds. -/
def releaseValue (state : State) (value : Value) : State :=
  state.release value.handles

/-- Reclaims an object that nothing refers to. -/
def discardHandle (state : State) (handle : Handle) : State :=
  match state.heap.get? handle with
  | none => state
  | some object =>
    if object.references = 0 then
      let (handles, state) := state.reclaim handle object.className
      state.release handles
    else state

/-- Reclaims the objects in a value that nothing refers to. -/
def discard (state : State) (value : Value) : State :=
  value.handles.foldl discardHandle state

end TagScript.State
