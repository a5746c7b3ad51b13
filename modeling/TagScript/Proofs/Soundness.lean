import Mathlib
import TagScript.Proofs.Sweeps

/-!
# Writes keep the heap sound

In a sound state bindings and stored values correspond, every live object counts the places that hold
its handle, and every handle that is stored leads to a live object. A write may find objects that
nothing refers to, as long as their handles are in the value to be written; it leaves none behind
(`writes_keep_sound`). The value is counted first, then the old value is let go, which may reclaim
any number of objects, the owner of the slot included, and then the value is stored.

Writing into an array keeps the counts exact even where stored handles lead nowhere, with one
exception: a path without keys has no cell to write to, but the value has been counted all the same
(`references_assignPath`).
-/

namespace TagScript

/-- Where a sum is positive, one of its terms is. -/
theorem Entries.exists_of_total_pos {α : Type} {weight : α → Nat} {entries : Entries α}
    (positive : 0 < entries.total weight) : ∃ entry ∈ entries, 0 < weight entry.2 := by
  induction entries with
  | nil => contradiction
  | cons entry rest ih =>
    by_cases here : 0 < weight entry.2
    · exact ⟨entry, List.mem_cons_self, here⟩
    · have later : 0 < total weight rest := by
        rw [total_cons] at positive
        omega
      obtain ⟨other, inside, counts⟩ := ih later
      exact ⟨other, List.mem_cons_of_mem entry inside, counts⟩

theorem Table.exists_of_total_pos {α : Type} {weight : α → Nat} {table : Table α}
    (positive : 0 < table.total weight) :
    ∃ key value, table.get? key = some value ∧ 0 < weight value := by
  obtain ⟨⟨key, value⟩, inside, counts⟩ := Entries.exists_of_total_pos positive
  exact ⟨key, value, table.mem_entries.1 inside, counts⟩

/-- A handle occurs in storage if it is in a value that is stored. -/
theorem Storage.occurrences_pos_iff {storage : Storage} {handle : Handle} :
    0 < storage.occurrences handle ↔
      ∃ place value, storage.get? place = some value ∧ handle ∈ value.handles := by
  constructor
  · intro positive
    by_cases object :
        0 < storage.handles.total (fun other => if other = handle then 1 else 0)
    · obtain ⟨key, other, found, counts⟩ := Table.exists_of_total_pos object
      have same : other = handle := by
        by_contra differs
        rw [if_neg differs] at counts
        exact Nat.lt_irrefl 0 counts
      exact ⟨⟨.object, key⟩, .object other, by simp [get?, found], by simp [Value.handles, same]⟩
    · have array : 0 < storage.arrays.total (Value.cellOccurrences handle) := by
        rw [occurrences] at positive
        omega
      obtain ⟨key, cells, found, counts⟩ := Table.exists_of_total_pos array
      exact ⟨⟨.array, key⟩, .array cells, by simp [get?, found], Value.mem_handles.2 counts⟩
  · rintro ⟨place, value, found, inside⟩
    exact Nat.lt_of_lt_of_le (Value.mem_handles.1 inside) (occurrences_le found handle)

namespace State

/-! ## Well-keyed states, whatever is declared -/

namespace WellKeyed

variable {pending : List Binding} {state : State}

theorem release (keyed : state.WellKeyed pending) (handles : List Handle) :
    (state.release handles).WellKeyed pending :=
  have sweeps : Sweeps (fun _ _ => False) pending state (state.release handles) :=
    .release keyed handles
  sweeps.keyed

theorem unlink (keyed : state.WellKeyed pending) (scope name : String) :
    (state.unlink scope name).WellKeyed pending :=
  (Sweeps.unlink keyed scope name).keyed

/-- Nothing is stored any more under the key of a name that was unbound. -/
theorem get?_unlink (keyed : state.WellKeyed []) {scope key : String} (plain : Plain scope)
    (name : String) (isKey : IsKey scope name key) (slot : Slot) :
    (state.unlink scope name).storage.get? ⟨slot, key⟩ = none :=
  (keyed.unlink scope name).unstored plain isKey (bindingIn?_unlink_self state scope name) slot

theorem bind (keyed : state.WellKeyed []) {scope name key : String} (plain : Plain scope)
    (isKey : IsKey scope name key) (value : Value) :
    (state.bind scope name key value).WellKeyed [] :=
  (Sweeps.bind keyed plain isKey value).keyed

theorem openArray (keyed : state.WellKeyed []) {scope : String} (plain : Plain scope)
    (name : String) : (state.openArray scope name).2.WellKeyed [] :=
  (Sweeps.openArray keyed plain name).keyed

theorem clear {places : List Binding} (keyed : state.WellKeyed places) :
    (state.clear places).WellKeyed [] := by
  induction places generalizing state with
  | nil => exact keyed
  | cons place places ih =>
    have erased : Keeps slots places state _ := .erasePending keyed
    unfold State.clear
    split
    · next missing =>
      rw [Storage.erase_of_none missing] at erased
      exact ih erased.keyed
    · next value _ => exact ih (erased.keyed.release value.handles)

theorem drop (keyed : state.WellKeyed []) (scope : String) : (state.drop scope).WellKeyed [] := by
  unfold State.drop
  split
  · exact keyed
  · next table found => exact (Keeps.eraseScope keyed found).keyed.clear

end WellKeyed

/-! ## Sound states -/

/-- Bindings, stored values and live objects fit together. Every live object has a reference, except
that the exempt handles may lead to objects that have none. -/
structure Sound (exempt : List Handle) (state : State) : Prop where
  keyed : state.WellKeyed []
  /-- An object counts the occurrences of its handle. -/
  counted : ∀ {handle object}, state.heap.get? handle = some object →
    object.references = state.storage.occurrences handle
  /-- A stored handle leads to a live object. -/
  alive : ∀ {place value handle}, state.storage.get? place = some value →
    handle ∈ value.handles → (state.heap.get? handle).isSome
  referenced : ∀ {handle object}, state.heap.get? handle = some object →
    0 < object.references ∨ handle ∈ exempt

/-- The value that a name in a scope leads to. -/
def valueIn? (state : State) (scope name : String) : Option Value :=
  (state.bindingIn? scope name).bind state.storage.get?

theorem valueIn?_setBinding (state : State) (scope name key : String) (value : Value) :
    (state.setBinding scope name key value).valueIn? scope name = some value := by
  unfold valueIn?
  rw [bindingIn?_setBinding, if_pos ⟨rfl, rfl⟩, Option.bind_some]
  exact (Storage.get?_insert _ key value _).trans (if_pos rfl)

theorem valueIn?_bind (state : State) (scope name key : String) (value : Value) :
    (state.bind scope name key value).valueIn? scope name = some value :=
  valueIn?_setBinding _ scope name key value

/-- A variable that was not touched leads to the same value. -/
theorem Keeps.valueIn? {touched : String → String → Prop} {pending : List Binding}
    {first second : State} (keeps : Keeps touched pending first second) {scope name : String}
    (untouched : ¬ touched scope name) :
    second.valueIn? scope name = first.valueIn? scope name := by
  unfold State.valueIn?
  rw [keeps.binding untouched]
  cases bound : first.bindingIn? scope name with
  | none => rfl
  | some place => exact keeps.value untouched bound

namespace Sound

variable {exempt : List Handle} {state : State}

theorem mono {exempt' : List Handle} (sound : state.Sound exempt)
    (wider : ∀ handle ∈ exempt, handle ∈ exempt') : state.Sound exempt' :=
  ⟨sound.keyed, sound.counted, sound.alive,
    fun found => (sound.referenced found).imp id (wider _)⟩

/-- In a sound state the counts are right, with the exempt handles at hand. -/
theorem counts (sound : state.Sound exempt)
    (live : ∀ handle ∈ exempt, (state.heap.get? handle).isSome) :
    state.Counts ⟨True, True⟩ ⟨[], [], exempt, []⟩ := by
  intro handle
  have stored (present : 0 < state.storage.occurrences handle) :
      (state.heap.get? handle).isSome := by
    obtain ⟨place, value, found, inside⟩ := Storage.occurrences_pos_iff.1 present
    exact sound.alive found inside
  have issued (present : (state.heap.get? handle).isSome) : handle < state.heap.next := by
    obtain ⟨object, found⟩ := Option.isSome_iff_exists.1 present
    exact Heap.lt_next_of_get? found
  constructor
  · intro n found
    obtain ⟨object, there, rfl⟩ := Option.map_eq_some_iff.1 found
    exact sound.counted there
  · intro present
    by_cases inStorage : 0 < state.storage.occurrences handle
    · exact issued (stored inStorage)
    · refine issued (live handle (List.count_pos_iff.1 ?_))
      simp only [List.count_nil] at present
      omega
  · intro _ present
    rw [Heap.references?, Option.isSome_map]
    exact stored present
  · intro _ unreferenced
    obtain ⟨object, there, none⟩ := Option.map_eq_some_iff.1 unreferenced
    obtain positive | inside := sound.referenced there
    · exact absurd none (Nat.ne_of_gt positive)
    · exact List.count_pos_iff.2 inside
  · intro kept
    contradiction

/-- Right counts with nothing in transit make a well-keyed state sound. -/
theorem of_counts (keyed : state.WellKeyed []) (counts : state.Counts ⟨True, True⟩ {}) :
    state.Sound [] where
  keyed := keyed
  counted {handle object} found :=
    (counts handle).counted (by rw [Heap.references?, found, Option.map_some])
  alive {place value handle} found inside := by
    have present := Storage.occurrences_pos_iff.2 ⟨place, value, found, inside⟩
    have live := (counts handle).alive trivial present
    rwa [Heap.references?, Option.isSome_map] at live
  referenced {handle object} found := by
    refine .inl (Nat.pos_of_ne_zero fun unreferenced => ?_)
    have loose := (counts handle).tidy trivial
      (by rw [Heap.references?, found, Option.map_some, unreferenced])
    exact Nat.lt_irrefl 0 loose

/-- Binding a name to a value leaves no object behind, be it in the value or in what the name was
bound to before. -/
theorem bind {value : Value} (sound : state.Sound value.handles)
    (live : ∀ handle ∈ value.handles, (state.heap.get? handle).isSome) {scope name key : String}
    (plain : Plain scope) (isKey : IsKey scope name key) :
    (state.bind scope name key value).Sound [] := by
  have retained : (state.retain value).WellKeyed [] := sound.keyed.congr rfl rfl
  have counts : state.Counts ⟨True, True⟩ (Transit.carry {} value.handles) := by
    rw [Transit.carry, List.append_nil]
    exact sound.counts live
  have usable : ∀ handle ∈ value.handles, state.Usable ⟨True, True⟩ {} handle := by
    intro handle inside
    refine ⟨List.not_mem_nil, fun _ => ?_⟩
    rw [Heap.references?, Option.isSome_map]
    exact live handle inside
  exact .of_counts (sound.keyed.bind plain isKey value)
    (counts.bind usable (retained.get?_unlink plain name isKey value.slot))

theorem unlink (sound : state.Sound []) (scope name : String) :
    (state.unlink scope name).Sound [] :=
  .of_counts (sound.keyed.unlink scope name) ((sound.counts (List.forall_mem_nil _)).unlink scope name)

theorem drop (sound : state.Sound []) (scope : String) : (state.drop scope).Sound [] :=
  .of_counts (sound.keyed.drop scope) ((sound.counts (List.forall_mem_nil _)).drop scope)

end Sound

end State

/-- Writing a variable or an attribute and unbinding a name or a scope lead from sound states to
sound states in which every live object has a reference. A written name leads to the value, whatever
was reclaimed on the way. -/
theorem writes_keep_sound (state : State) :
    (∀ name value scope, Plain (Option.getD scope state.frame.scope) →
      (∀ handle ∈ value.handles, (state.heap.get? handle).isSome) → state.Sound value.handles →
      (state.assign name value scope).Sound [] ∧
        (state.assign name value scope).valueIn? (Option.getD scope state.frame.scope) name =
          some value) ∧
    (∀ handle name value, Plain name →
      (∀ handle ∈ value.handles, (state.heap.get? handle).isSome) → state.Sound value.handles →
      (state.assignAttribute handle name value).Sound [] ∧
        (state.assignAttribute handle name value).valueIn? globalScope
          (attributeSlot handle name) = some value) ∧
    (∀ scope name, state.Sound [] →
      (state.unlink scope name).Sound [] ∧
        (state.unlink scope name).bindingIn? scope name = none) ∧
    (∀ scope, state.Sound [] →
      (state.drop scope).Sound [] ∧ ∀ name, (state.drop scope).bindingIn? scope name = none) := by
  refine ⟨?_, ?_, ?_, ?_⟩
  · intro name value scope plain live sound
    exact ⟨sound.bind live plain (.inl rfl), State.valueIn?_bind state _ name _ value⟩
  · intro handle name value plain live sound
    have slot : IsSlot (attributeSlot handle name) := ⟨handle, name, plain, rfl⟩
    exact ⟨sound.bind live (by decide) (.inr ⟨rfl, slot, rfl⟩),
      State.valueIn?_bind state _ _ _ value⟩
  · intro scope name sound
    exact ⟨sound.unlink scope name, state.bindingIn?_unlink_self scope name⟩
  · intro scope sound
    exact ⟨sound.drop scope, state.bindingIn?_drop_self scope⟩

/-- One object, which nothing refers to yet. -/
def State.newborn : State :=
  { State.initial with heap := State.initial.heap.allocate "C" }

theorem State.sound_newborn : State.newborn.Sound [0] := by
  have only {handle object} (found : newborn.heap.get? handle = some object) :
      handle = 0 ∧ object = ⟨0, "C", 0⟩ := by
    rw [newborn, Heap.get?_allocate] at found
    split at found
    · next new => exact ⟨new, (Option.some.inj found).symm⟩
    · contradiction
  refine ⟨WellKeyed.initial.congr rfl rfl, fun found => ?_, fun {place} => ?_, fun found => ?_⟩
  · rw [(only found).2]
    rfl
  · obtain ⟨slot, key⟩ := place
    intro value handle found
    cases slot <;> cases found
  · exact .inr (List.mem_singleton.2 (only found).1)

/-- The object is stored in both cells of an array. -/
def State.twinned : State :=
  newborn.assign "o" (.array [("left", .object 0), ("right", .object 0)]) none

/-- The variable is given the object that its array holds. -/
def State.single : State :=
  twinned.assign "o" (.object 0) none

/-- The count goes from two to one, and the object goes with the variable. -/
theorem writes_keep_sound_of_newborn :
    (State.twinned.Sound [] ∧ State.twinned.heap.get? 0 = some ⟨0, "C", 2⟩) ∧
    (State.single.Sound [] ∧ State.single.heap.get? 0 = some ⟨0, "C", 1⟩) ∧
    (State.single.unlink globalScope "o").Sound [] ∧
      (State.single.unlink globalScope "o").heap.get? 0 = none := by
  have two : State.twinned.heap.get? 0 = some ⟨0, "C", 2⟩ := by cbv
  have one : State.single.heap.get? 0 = some ⟨0, "C", 1⟩ := by cbv
  have gone : (State.single.unlink globalScope "o").heap.get? 0 = none := by cbv
  have twinned := ((writes_keep_sound State.newborn).1 "o"
    (.array [("left", .object 0), ("right", .object 0)]) none (by decide) (by decide)
    (State.sound_newborn.mono (by decide))).1
  have plain : Plain State.twinned.frame.scope := by
    rw [State.twinned, State.frame_assign]
    decide
  have single := ((writes_keep_sound State.twinned).1 "o" (.object 0) none plain
    (by simp [Value.handles, two]) (twinned.mono (List.forall_mem_nil _))).1
  have unbound := ((writes_keep_sound State.single).2.2.1 globalScope "o" single).1
  exact ⟨⟨twinned, two⟩, ⟨single, one⟩, unbound, gone⟩

/-! ## Arrays -/

namespace State

/-- After a variable was made to hold an array, an array is stored under its key. -/
theorem WellKeyed.exists_cells {state : State} (keyed : state.WellKeyed []) {scope : String}
    (plain : Plain scope) (name : String) : ∃ cells,
    (state.openArray scope name).2.storage.arrays.get? (state.openArray scope name).1 =
      some cells := by
  have stored := (keyed.openArray plain name).stored (bindingIn?_openArray state scope name)
  rw [Storage.get?, Option.isSome_map] at stored
  exact Option.isSome_iff_exists.1 stored

/-- Without a key nothing is written, and nothing is displaced. -/
theorem writeCells_nil {state : State} {key : String} {cells : Cells}
    (found : state.storage.arrays.get? key = some cells) (value : Value) :
    state.writeCells key [] value = ([], state) := by
  have same : state.storage.insert key (.array cells) = state.storage := by
    apply Storage.ext_get?
    intro place
    rw [Storage.get?_insert]
    split
    · next here => simp [here, Storage.get?, Value.slot, found]
    · rfl
  simp only [writeCells, found, Cells.write, same, List.flatMap_nil]

/-- A value in hand is stored in a cell. Without a key it stays held. -/
theorem CountsAmong.assignPath {issued : Handle → Prop} {care : Care} {transit : Transit}
    {state : State} {value : Value}
    (counts : state.CountsAmong issued care (transit.carry value.handles))
    (usable : ∀ handle ∈ value.handles, state.Usable care transit handle)
    (keyed : state.WellKeyed []) {scope : Option String}
    (plain : Plain (scope.getD state.frame.scope)) (name : String) (path : List String) :
    (state.assignPath name path value scope).CountsAmong issued care
      (transit.hold (if path = [] then value.handles else [])) := by
  have keyed' : (state.retain value).WellKeyed [] := keyed.congr rfl rfl
  have free := keyed'.get?_unlink plain name (.inl rfl) .array
  have opened := (counts.retain usable).openArray free
  obtain ⟨cells, found⟩ := keyed'.exists_cells plain name
  by_cases keyless : path = []
  · unfold State.assignPath
    dsimp only
    rw [keyless, writeCells_nil found, release_nil, if_pos rfl]
    exact opened
  · rw [if_neg keyless]
    exact (opened.writeCells keyless found).release

end State

/-- Writing into an array keeps all counts exact, whatever is displaced on the way and whatever goes
with it. Where the path has no key, the value is counted without being stored. -/
theorem references_assignPath {state : State} (keyed : state.WellKeyed [])
    (counted : ∀ {handle object}, state.heap.get? handle = some object →
      object.references = state.storage.occurrences handle)
    (name : String) (path : List String) (value : Value) (scope : Option String)
    (plain : Plain (scope.getD state.frame.scope)) {handle : Handle} {object : Instance}
    (live : (state.assignPath name path value scope).heap.get? handle = some object) :
    object.references = (state.assignPath name path value scope).storage.occurrences handle +
      if path = [] then value.occurrences handle else 0 := by
  have start : state.CountsAmong (fun _ => True) ⟨False, False⟩
      (Transit.carry {} value.handles) := by
    intro handle
    refine ⟨fun {n} found => ?_, fun _ => trivial, False.elim, False.elim, nofun⟩
    obtain ⟨object, there, rfl⟩ := Option.map_eq_some_iff.1 found
    exact counted there
  have counts := start.assignPath (fun handle _ => ⟨List.not_mem_nil, False.elim⟩) keyed plain
    name path
  have total : object.references = _ :=
    (counts handle).counted (by rw [Heap.references?, live, Option.map_some])
  rw [total]
  simp only [Transit.hold, List.count_nil, List.append_nil, Nat.add_zero, Nat.add_right_inj]
  split
  · exact Value.count_handles handle value
  · rfl

/-- The object is stored in a variable. -/
def State.holding : State :=
  newborn.assign "o" (.object 0) none

theorem State.sound_holding : State.holding.Sound [] := by
  have start : newborn.Sound (Value.object 0).handles := sound_newborn
  exact start.bind (by decide) (by decide) (.inl rfl)

/-- The variable is made an array of arrays that holds the object which was in its place. -/
theorem references_assignPath_of_holding :
    (State.holding.assignPath "o" ["left", "right"] (.object 0) none).heap.get? 0 =
      some ⟨0, "C", 1⟩ ∧
    1 = (State.holding.assignPath "o" ["left", "right"] (.object 0) none).storage.occurrences 0 +
      0 := by
  have live : (State.holding.assignPath "o" ["left", "right"] (.object 0) none).heap.get? 0 =
      some ⟨0, "C", 1⟩ := by cbv
  have plain : Plain State.holding.frame.scope := by
    rw [State.holding, State.frame_assign]
    decide
  exact ⟨live, references_assignPath State.sound_holding.keyed State.sound_holding.counted "o"
    ["left", "right"] (.object 0) none plain live⟩

/-- An index may have no keys, and then the object counts a place that does not hold it. -/
theorem overcounts_without_keys :
    (Index.path []).keys = [] ∧ State.holding.Sound [] ∧
    (State.holding.heap.get? 0).isSome ∧
    (State.holding.assignPath "a" [] (.object 0) none).heap.get? 0 = some ⟨0, "C", 2⟩ ∧
    (State.holding.assignPath "a" [] (.object 0) none).storage.occurrences 0 = 1 := by
  refine ⟨rfl, State.sound_holding, ?_, ?_, ?_⟩ <;> cbv

end TagScript
