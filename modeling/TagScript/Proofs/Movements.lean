import TagScript.Proofs.Activations
import TagScript.Proofs.Counts

/-!
# Writes and calls keep the counts right

Writing a variable, an attribute or a cell turns a value in hand into a stored one and lets go of
what was stored before. Starting a call takes the variables of an earlier activation out of the
storage and holds them; ending it puts them back.
-/

namespace TagScript

namespace Storage

/-- Storing a value where nothing is stored adds its occurrences. -/
theorem occurrences_insert_of_none {storage : Storage} {key : String} {value : Value}
    (unstored : storage.get? ⟨value.slot, key⟩ = none) (handle : Handle) :
    (storage.insert key value).occurrences handle =
      storage.occurrences handle + value.occurrences handle := by
  have given := storage.occurrences_insert key value handle
  rwa [occurrencesAt, unstored, Option.elim_none, Nat.add_zero] at given

/-- Putting values back into places that are free adds all their occurrences. -/
theorem occurrences_foldl_insert {values : List (Binding × Value)} {storage : Storage}
    (distinct : (values.map Prod.fst).Nodup)
    (slots : ∀ pair ∈ values, pair.1.slot = pair.2.slot)
    (free : ∀ pair ∈ values, storage.get? pair.1 = none) (handle : Handle) :
    (values.foldl (fun storage (place, value) => storage.insert place.key value)
        storage).occurrences handle =
      storage.occurrences handle + Value.occurrencesIn handle (values.map Prod.snd) := by
  induction values generalizing storage with
  | nil => simp
  | cons pair values ih =>
    obtain ⟨⟨slot, key⟩, value⟩ := pair
    obtain ⟨new, distinctRest⟩ := List.nodup_cons.1 distinct
    obtain ⟨slotFirst, slotsRest⟩ := List.forall_mem_cons.1 slots
    obtain ⟨freeFirst, freeRest⟩ := List.forall_mem_cons.1 free
    have slotFirst : slot = value.slot := slotFirst
    subst slotFirst
    have still : ∀ pair ∈ values, (storage.insert key value).get? pair.1 = none := by
      intro pair inside
      rw [get?_insert, if_neg]
      · exact freeRest pair inside
      · intro same
        exact new (List.mem_map.2 ⟨pair, inside, same⟩)
    have rest := ih distinctRest slotsRest still
    have one := occurrences_insert_of_none freeFirst handle
    rw [List.foldl_cons, List.map_cons, Value.occurrencesIn_cons]
    refine rest.trans ?_
    dsimp only
    omega

end Storage

namespace State

/-- Unbinding a variable gives out no handle. -/
@[simp] theorem next_unlink (state : State) (scope name : String) :
    (state.unlink scope name).heap.next = state.heap.next := by
  rw [unlink_eq, next_release, heap_take]

@[simp] theorem next_openArray (state : State) (scope name : String) :
    (state.openArray scope name).2.heap.next = state.heap.next := by
  unfold openArray
  split
  · rfl
  · exact next_unlink state scope name

@[simp] theorem heap_writeCells (state : State) (key : String) (path : List String)
    (value : Value) : (state.writeCells key path value).2.heap = state.heap := by
  unfold writeCells
  split <;> rfl

namespace CountsAmong

variable {issued : Handle → Prop} {care : Care} {transit : Transit} {state : State}
  {scope name key : String} {value : Value}

/-- What a variable holds is let go with it. -/
theorem unlink (counts : state.CountsAmong issued care transit) (scope name : String) :
    (state.unlink scope name).CountsAmong issued care transit := by
  rw [unlink_eq]
  refine release fun handle => ?_
  have moved := state.occurrences_take scope name handle
  rw [heap_take]
  simp only [Transit.hold, List.count_append, Value.count_flatMap_handles]
  exact (counts handle).exchange (by omega)

/-- A value that is held is stored instead. -/
theorem setBinding (counts : state.CountsAmong issued care (transit.hold value.handles))
    (free : state.storage.get? ⟨value.slot, key⟩ = none) :
    (state.setBinding scope name key value).CountsAmong issued care transit := by
  intro handle
  have fits := counts handle
  have moved := Storage.occurrences_insert_of_none free handle
  simp only [Transit.hold, List.count_append, Value.count_handles] at fits
  exact fits.exchange (by simp only [State.setBinding]; omega)

/-- Opening an array lets go of anything else that the variable held. -/
theorem openArray (counts : state.CountsAmong issued care transit)
    (free : (state.unlink scope name).storage.get? ⟨.array, variableKey scope name⟩ = none) :
    (state.openArray scope name).2.CountsAmong issued care transit := by
  unfold State.openArray
  split
  · exact counts
  · exact (counts.unlink scope name).setBinding free

/-- A value that is held goes into a cell, and what it displaces is held instead. -/
theorem writeCells {path : List String} {cells : Cells}
    (counts : state.CountsAmong issued care (transit.hold value.handles)) (nonempty : path ≠ [])
    (found : state.storage.arrays.get? key = some cells) :
    (state.writeCells key path value).2.CountsAmong issued care
      (transit.hold (state.writeCells key path value).1) := by
  intro handle
  have fits := counts handle
  have traded := Cells.cellOccurrences_write handle cells value nonempty
  have moved : _ + state.storage.occurrencesAt ⟨.array, key⟩ handle = _ :=
    state.storage.occurrences_insert key (.array (cells.write path value).1) handle
  have before : state.storage.get? ⟨.array, key⟩ = some (.array cells) := by
    simp [Storage.get?, found]
  rw [Storage.occurrencesAt_of_get? before] at moved
  simp only [State.writeCells, found, Transit.hold, List.count_append, Value.count_handles,
    Value.count_flatMap_handles, Value.occurrences] at fits moved ⊢
  exact fits.exchange (by omega)

end CountsAmong

namespace Counts

variable {care : Care} {transit : Transit} {state : State} {scope name key : String}
  {value : Value}

theorem unlink (counts : state.Counts care transit) (scope name : String) :
    (state.unlink scope name).Counts care transit :=
  (CountsAmong.unlink counts scope name).counts (next_unlink state scope name)

theorem setBinding (counts : state.Counts care (transit.hold value.handles))
    (free : state.storage.get? ⟨value.slot, key⟩ = none) :
    (state.setBinding scope name key value).Counts care transit :=
  (CountsAmong.setBinding counts free).counts rfl

/-- A value in hand is stored. -/
theorem bind (counts : state.Counts care (transit.carry value.handles))
    (usable : ∀ handle ∈ value.handles, state.Usable care transit handle)
    (free : ((state.retain value).unlink scope name).storage.get? ⟨value.slot, key⟩ = none) :
    (state.bind scope name key value).Counts care transit :=
  ((counts.retain usable).unlink scope name).setBinding free

theorem openArray (counts : state.Counts care transit)
    (free : (state.unlink scope name).storage.get? ⟨.array, variableKey scope name⟩ = none) :
    (state.openArray scope name).2.Counts care transit :=
  (CountsAmong.openArray counts free).counts (next_openArray state scope name)

theorem writeCells {path : List String} {cells : Cells}
    (counts : state.Counts care (transit.hold value.handles)) (nonempty : path ≠ [])
    (found : state.storage.arrays.get? key = some cells) :
    (state.writeCells key path value).2.Counts care
      (transit.hold (state.writeCells key path value).1) :=
  (CountsAmong.writeCells counts nonempty found).counts
    (congrArg Heap.next (heap_writeCells state key path value))

/-- A value in hand is stored in a cell. -/
theorem assignPath {path : List String}
    (counts : state.Counts care (transit.carry value.handles))
    (usable : ∀ handle ∈ value.handles, state.Usable care transit handle)
    (nonempty : path ≠ [])
    (free : ((state.retain value).unlink (state.frame.scope) name).storage.get?
      ⟨.array, variableKey state.frame.scope name⟩ = none)
    {cells : Cells}
    (found : ((state.retain value).openArray state.frame.scope name).2.storage.arrays.get?
      ((state.retain value).openArray state.frame.scope name).1 = some cells) :
    (state.assignPath name path value none).Counts care transit :=
  (((counts.retain usable).openArray free).writeCells nonempty found).release

/-- Clearing places lets go of what is stored there. -/
theorem clear (counts : state.Counts care transit) (places : List Binding) :
    (state.clear places).Counts care transit := by
  induction places generalizing state with
  | nil => exact counts
  | cons place places ih =>
    unfold State.clear
    split
    · exact ih counts
    · next value found =>
      refine ih (release fun handle => ?_)
      have moved := state.storage.occurrences_erase place handle
      rw [Storage.occurrencesAt_of_get? found] at moved
      simp only [Transit.hold, List.count_append, Value.count_handles]
      exact (counts handle).exchange (by omega)

theorem drop (counts : state.Counts care transit) (scope : String) :
    (state.drop scope).Counts care transit := by
  unfold State.drop
  split
  · exact counts
  · have erased : { state with scopes := state.scopes.erase scope }.Counts care transit := counts
    exact erased.clear _

end Counts

/-- The handles in the variables of an activation that may have been suspended. -/
def suspendedHandles : Option Suspended → List Handle
  | some suspended => (suspended.values.map Prod.snd).flatMap Value.handles
  | none => []

namespace Counts

variable {care : Care} {transit : Transit} {state : State} {scope name key : String}
  {value : Value}

/-- The variables of a suspended activation are held. -/
theorem suspend (counts : state.Counts care transit) (scope : String) :
    (state.suspend scope).2.Counts care
      (transit.hold (suspendedHandles (state.suspend scope).1)) := by
  unfold State.suspend
  split
  · exact counts
  · next table _ =>
    intro handle
    have moved := state.storage.occurrences_takeAll table.values handle
    simp only [suspendedHandles, Transit.hold, List.count_append, Value.count_flatMap_handles]
    exact (counts handle).exchange (by omega)

/-- The variables of a suspended activation are stored again. -/
theorem resume {suspended : Suspended} (counts : state.Counts care
      (transit.hold ((suspended.values.map Prod.snd).flatMap Value.handles)))
    (distinct : (suspended.values.map Prod.fst).Nodup)
    (slots : ∀ pair ∈ suspended.values, pair.1.slot = pair.2.slot)
    (free : ∀ pair ∈ suspended.values, state.storage.get? pair.1 = none) :
    (state.resume suspended).Counts care transit := by
  intro handle
  have fits := counts handle
  have moved : (state.resume suspended).storage.occurrences handle = _ :=
    Storage.occurrences_foldl_insert distinct slots free handle
  simp only [Transit.hold, List.count_append, Value.count_flatMap_handles] at fits
  exact fits.exchange (by omega)

end Counts

end State

end TagScript
