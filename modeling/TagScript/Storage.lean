import TagScript.Table
import TagScript.Value

/-!
# Storage

Values are stored under textual keys, in one of three stores: scalars, arrays, and handles of
objects. A binding says where the value of a variable is.
-/

namespace TagScript

/-- Which of the three stores a value is in. -/
inductive Slot
  | scalar
  | array
  | object
  deriving DecidableEq, Repr

/-- The store for a value. -/
def Value.slot : Value → Slot
  | scalar _ => .scalar
  | array _ => .array
  | object _ => .object

/-- The place of a value. -/
structure Binding where
  slot : Slot
  key : String
  deriving DecidableEq, Repr

/-- The three stores. -/
structure Storage where
  scalars : Table Scalar := ∅
  arrays : Table Cells := ∅
  handles : Table Handle := ∅

namespace Storage

instance : EmptyCollection Storage := ⟨{}⟩

/-- Stores a value under a key, in the store for its kind. -/
def insert (storage : Storage) (key : String) : Value → Storage
  | .scalar content => { storage with scalars := storage.scalars.insert key content }
  | .array cells => { storage with arrays := storage.arrays.insert key cells }
  | .object handle => { storage with handles := storage.handles.insert key handle }

/-- The value at a place. -/
def get? (storage : Storage) (place : Binding) : Option Value :=
  match place.slot with
  | .scalar => (storage.scalars.get? place.key).map .scalar
  | .array => (storage.arrays.get? place.key).map .array
  | .object => (storage.handles.get? place.key).map .object

/-- Clears a place. -/
def erase (storage : Storage) (place : Binding) : Storage :=
  match place.slot with
  | .scalar => { storage with scalars := storage.scalars.erase place.key }
  | .array => { storage with arrays := storage.arrays.erase place.key }
  | .object => { storage with handles := storage.handles.erase place.key }

/-- The number of stored values. -/
def size (storage : Storage) : Nat :=
  storage.scalars.size + storage.arrays.size + storage.handles.size

/-- Clears the places one after another. The first result lists each place that held a value, with
that value. -/
def takeAll (storage : Storage) : List Binding → List (Binding × Value) × Storage
  | [] => ([], storage)
  | place :: places =>
    let (taken, rest) := takeAll (storage.erase place) places
    match storage.get? place with
    | some value => ((place, value) :: taken, rest)
    | none => (taken, rest)

/-- Storing a value changes one place. -/
theorem get?_insert (storage : Storage) (key : String) (value : Value) (place : Binding) :
    (storage.insert key value).get? place =
      if place = ⟨value.slot, key⟩ then some value else storage.get? place := by
  obtain ⟨slot, other⟩ := place
  cases value <;> cases slot <;>
    simp [insert, get?, Value.slot, Table.get?_insert, eq_comm] <;> split <;> simp_all

/-- Clearing a place leaves the others as they were. -/
theorem get?_erase (storage : Storage) (place other : Binding) :
    (storage.erase place).get? other = if other = place then none else storage.get? other := by
  obtain ⟨slot, key⟩ := place
  obtain ⟨slot', key'⟩ := other
  cases slot <;> cases slot' <;>
    simp [erase, get?, Table.get?_erase, eq_comm] <;> split <;> simp_all

/-- Stores with the same values at all places are equal. -/
theorem ext_get? {first second : Storage} (same : ∀ place, first.get? place = second.get? place) :
    first = second := by
  obtain ⟨scalars, arrays, handles⟩ := first
  obtain ⟨scalars', arrays', handles'⟩ := second
  have scalar : scalars = scalars' := Table.ext_get? fun key =>
    Option.map_injective (fun _ _ => Value.scalar.inj) (same ⟨.scalar, key⟩)
  have array : arrays = arrays' := Table.ext_get? fun key =>
    Option.map_injective (fun _ _ => Value.array.inj) (same ⟨.array, key⟩)
  have object : handles = handles' := Table.ext_get? fun key =>
    Option.map_injective (fun _ _ => Value.object.inj) (same ⟨.object, key⟩)
  rw [scalar, array, object]

/-- Clearing a place where nothing is stored changes nothing. -/
theorem erase_of_none {storage : Storage} {place : Binding} (missing : storage.get? place = none) :
    storage.erase place = storage := by
  apply ext_get?
  intro other
  rw [get?_erase]
  split
  · next same => rw [same, missing]
  · rfl

end Storage

end TagScript
