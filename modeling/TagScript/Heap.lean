import TagScript.Value

/-!
# The heap

Objects live in the heap under their handles. A handle is the number of objects allocated before, so
it is never given out twice, and a handle to an object that is gone finds nothing.
-/

namespace TagScript

/-- An object: the handle it was given, its class, and how many stored values hold its handle. -/
structure Instance where
  handle : Handle
  className : String
  references : Nat
  deriving DecidableEq, Repr

/-- Objects by handle. A place stays empty after its object is gone. -/
structure Heap where
  slots : Array (Option Instance) := #[]
  deriving DecidableEq, Repr

namespace Heap

/-- The heap in which nothing was ever allocated. -/
def empty : Heap := {}

instance : EmptyCollection Heap := ⟨empty⟩

/-- The live object of a handle. -/
def get? (heap : Heap) (handle : Handle) : Option Instance :=
  heap.slots[handle]?.join

/-- The reference count of a live object. -/
def references? (heap : Heap) (handle : Handle) : Option Nat :=
  (heap.get? handle).map Instance.references

/-- The number of live objects. -/
def live (heap : Heap) : Nat :=
  heap.slots.countP Option.isSome

/-- The live objects with their handles, oldest first. -/
def objects (heap : Heap) : List (Handle × Instance) :=
  heap.slots.toList.zipIdx.filterMap fun (slot, handle) => slot.map (handle, ·)

/-- The handle that the next allocation gives out. -/
def next (heap : Heap) : Handle :=
  heap.slots.size

/-- Adds an object that nothing refers to yet. Its handle is `next`. -/
def allocate (heap : Heap) (className : String) : Heap :=
  ⟨heap.slots.push (some ⟨heap.next, className, 0⟩)⟩

/-- Changes a live object. -/
def modify (heap : Heap) (handle : Handle) (change : Instance → Instance) : Heap :=
  ⟨heap.slots.modify handle (Option.map change)⟩

/-- Counts one reference more. -/
def retain (heap : Heap) (handle : Handle) : Heap :=
  heap.modify handle fun object => { object with references := object.references + 1 }

/-- Counts one reference less, never below zero. -/
def decrement (heap : Heap) (handle : Handle) : Heap :=
  heap.modify handle fun object => { object with references := object.references - 1 }

/-- Removes an object. -/
def remove (heap : Heap) (handle : Handle) : Heap :=
  ⟨heap.slots.modify handle fun _ => none⟩

/-- Counts one reference more for each handle. -/
def retainAll (heap : Heap) (handles : List Handle) : Heap :=
  handles.foldl retain heap

/-- Counts one reference less for each handle and removes nothing. -/
def decrementAll (heap : Heap) (handles : List Handle) : Heap :=
  handles.foldl decrement heap

/-- Changing an object leaves the others as they were. -/
theorem get?_modify (heap : Heap) (handle other : Handle) (change : Instance → Instance) :
    (heap.modify handle change).get? other =
      if handle = other then (heap.get? other).map change else heap.get? other := by
  simp only [get?, modify, Array.getElem?_modify]
  split
  · cases heap.slots[other]? <;> rfl
  · rfl

/-- Removing an object leaves the others as they were. -/
theorem get?_remove (heap : Heap) (handle other : Handle) :
    (heap.remove handle).get? other = if handle = other then none else heap.get? other := by
  simp only [get?, remove, Array.getElem?_modify]
  split
  · cases heap.slots[other]? <;> rfl
  · rfl

/-- A new object is found under the next handle, and the others as they were. -/
theorem get?_allocate (heap : Heap) (className : String) (other : Handle) :
    (heap.allocate className).get? other =
      if other = heap.next then some ⟨heap.next, className, 0⟩ else heap.get? other := by
  simp only [get?, allocate, next, Array.getElem?_push]
  by_cases last : other = heap.slots.size <;> simp [last]

/-- Heaps that have given out the same handles and have the same live objects are equal. -/
theorem ext_get? {first second : Heap} (next : first.next = second.next)
    (same : ∀ handle, first.get? handle = second.get? handle) : first = second := by
  obtain ⟨slots⟩ := first
  obtain ⟨slots'⟩ := second
  have size : slots.size = slots'.size := next
  suffices slots = slots' by rw [this]
  apply Array.ext size
  intro handle inside inside'
  have found := same handle
  simpa [get?, inside, inside'] using found

private theorem countP_modify_map (slots : List (Option Instance)) (i : Nat)
    (change : Instance → Instance) :
    (slots.modify i (Option.map change)).countP Option.isSome = slots.countP Option.isSome := by
  induction slots generalizing i with
  | nil => simp
  | cons slot rest ih =>
    cases i with
    | zero => simp [List.countP_cons]
    | succ i => simp [List.countP_cons, ih]

private theorem countP_modify_none (slots : List (Option Instance)) (i : Nat) (object : Instance)
    (found : slots[i]? = some (some object)) :
    (slots.modify i fun _ => none).countP Option.isSome + 1 = slots.countP Option.isSome := by
  induction slots generalizing i with
  | nil => simp at found
  | cons slot rest ih =>
    cases i with
    | zero => simp_all
    | succ i =>
      have := ih i (by simpa using found)
      simp only [List.modify_succ_cons, List.countP_cons]
      omega

/-- Changing an object keeps the number of live ones. -/
theorem live_modify (heap : Heap) (handle : Handle) (change : Instance → Instance) :
    (heap.modify handle change).live = heap.live := by
  simp only [live, modify, ← Array.countP_toList, Array.toList_modify]
  exact countP_modify_map heap.slots.toList handle change

/-- Removing a live object leaves one less. -/
theorem live_remove {heap : Heap} {handle : Handle} {object : Instance}
    (found : heap.get? handle = some object) : (heap.remove handle).live + 1 = heap.live := by
  simp only [live, remove, ← Array.countP_toList, Array.toList_modify]
  refine countP_modify_none heap.slots.toList handle object ?_
  simpa [get?, Option.join_eq_some_iff] using found

end Heap

end TagScript
