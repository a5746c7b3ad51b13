import TagScript.State.Variables

/-!
# Counting the handles that storage holds

How often a handle occurs in a value, in an array and in the whole storage, each occurrence counted,
at any depth. Every operation on storage is described by what it does to that number. The laws are
stated as sums rather than differences, so that no subtraction is ever cut off at zero.
-/

namespace TagScript

namespace Entries

variable {α : Type}

/-- The sum of a weight over the values of the entries. -/
def total (weight : α → Nat) : Entries α → Nat
  | [] => 0
  | entry :: rest => weight entry.2 + total weight rest

@[simp] theorem total_nil (weight : α → Nat) : total weight ([] : Entries α) = 0 := rfl

@[simp] theorem total_cons (weight : α → Nat) (entry : String × α) (rest : Entries α) :
    total weight (entry :: rest) = weight entry.2 + total weight rest := rfl

theorem total_replace (weight : α → Nat) (entries : Entries α) (key : String) (value : α)
    (present : (entries.get? key).isSome) :
    (entries.replace key value).total weight + (entries.get? key).elim 0 weight =
      entries.total weight + weight value := by
  induction entries with
  | nil => simp [get?] at present
  | cons entry rest ih =>
    obtain ⟨k, old⟩ := entry
    by_cases here : k = key
    · simp only [replace, get?, here, if_true, total_cons, Option.elim_some]
      omega
    · simp only [get?, here, if_false] at present
      have := ih present
      simp only [replace, get?, here, if_false, total_cons]
      omega

theorem total_place (weight : α → Nat) (entries : Entries α) (key : String) (value : α) :
    (entries.place key value).total weight = entries.total weight + weight value := by
  induction entries with
  | nil => simp [place]
  | cons entry rest ih =>
    unfold place
    split
    · simp only [total_cons]
      omega
    · simp only [total_cons, ih]
      omega

/-- Setting a key trades the weight of its old value for that of the new one. -/
theorem total_insert (weight : α → Nat) (entries : Entries α) (key : String) (value : α) :
    (entries.insert key value).total weight + (entries.get? key).elim 0 weight =
      entries.total weight + weight value := by
  unfold insert
  split
  · next present => exact total_replace weight entries key value present
  · next absent =>
    rw [Option.not_isSome_iff_eq_none.1 absent, total_place]
    rfl

theorem erase_cons (entry : String × α) (rest : Entries α) (key : String) :
    erase (entry :: rest) key =
      if entry.1 = key then erase rest key else entry :: erase rest key := by
  by_cases here : entry.1 = key <;> simp [erase, here]

/-- Forgetting a key gives up the weight of its value; keys that ascend do not repeat. -/
theorem Ascending.total_erase {entries : Entries α} (ascending : entries.Ascending)
    (weight : α → Nat) (key : String) :
    (entries.erase key).total weight + (entries.get? key).elim 0 weight =
      entries.total weight := by
  induction entries with
  | nil => rfl
  | cons entry rest ih =>
    obtain ⟨k, value⟩ := entry
    have below := List.pairwise_cons.1 ascending
    have kept := ih below.2
    rw [erase_cons]
    by_cases here : k = key
    · have missing : get? rest key = none := by
        rw [get?_eq_none_iff]
        intro member
        exact absurd (below.1 key member) (by simp [here])
      rw [missing, Option.elim_none] at kept
      simp only [get?, here, if_true, total_cons, Option.elim_some]
      omega
    · simp only [get?, here, if_false, total_cons]
      omega

end Entries

namespace Table

variable {α : Type}

/-- The sum of a weight over the values of a table. -/
def total (weight : α → Nat) (table : Table α) : Nat :=
  table.entries.total weight

theorem total_insert (weight : α → Nat) (table : Table α) (key : String) (value : α) :
    (table.insert key value).total weight + (table.get? key).elim 0 weight =
      table.total weight + weight value :=
  Entries.total_insert weight table.entries key value

theorem total_erase (weight : α → Nat) (table : Table α) (key : String) :
    (table.erase key).total weight + (table.get? key).elim 0 weight = table.total weight :=
  table.ascending.total_erase weight key

end Table

namespace Value

mutual

/-- How often a handle occurs in a value. -/
def occurrences (handle : Handle) : Value → Nat
  | scalar _ => 0
  | array cells => cellOccurrences handle cells
  | object other => if other = handle then 1 else 0

/-- How often a handle occurs in the cells of an array. -/
def cellOccurrences (handle : Handle) : List (String × Value) → Nat
  | [] => 0
  | (_, value) :: rest => value.occurrences handle + cellOccurrences handle rest

end

mutual

/-- The list of the handles in a value has each handle as often as it occurs. -/
theorem count_handles (handle : Handle) (value : Value) :
    value.handles.count handle = value.occurrences handle := by
  cases value with
  | scalar _ => rfl
  | array cells => exact count_cellHandles handle cells
  | object other => simp [handles, occurrences, List.count_singleton]

theorem count_cellHandles (handle : Handle) (cells : List (String × Value)) :
    (cellHandles cells).count handle = cellOccurrences handle cells := by
  match cells with
  | [] => rfl
  | (_, value) :: rest =>
    rw [cellHandles, List.count_append, count_handles handle value,
      count_cellHandles handle rest, cellOccurrences]

end

theorem mem_handles {handle : Handle} {value : Value} :
    handle ∈ value.handles ↔ 0 < value.occurrences handle := by
  rw [← count_handles, List.count_pos_iff]

theorem cellOccurrences_eq_total (handle : Handle) (cells : Cells) :
    cellOccurrences handle cells = Entries.total (occurrences handle) cells := by
  induction cells with
  | nil => rfl
  | cons entry rest ih =>
    obtain ⟨key, value⟩ := entry
    rw [cellOccurrences, ih, Entries.total_cons]

/-- How often a handle occurs in several values. -/
def occurrencesIn (handle : Handle) : List Value → Nat
  | [] => 0
  | value :: values => value.occurrences handle + occurrencesIn handle values

@[simp] theorem occurrencesIn_nil (handle : Handle) : occurrencesIn handle [] = 0 := rfl

@[simp] theorem occurrencesIn_cons (handle : Handle) (value : Value) (values : List Value) :
    occurrencesIn handle (value :: values) =
      value.occurrences handle + occurrencesIn handle values := rfl

@[simp] theorem occurrencesIn_append (handle : Handle) (first second : List Value) :
    occurrencesIn handle (first ++ second) =
      occurrencesIn handle first + occurrencesIn handle second := by
  induction first with
  | nil => simp
  | cons value values ih =>
    rw [List.cons_append, occurrencesIn_cons, occurrencesIn_cons, ih, Nat.add_assoc]

theorem count_flatMap_handles (handle : Handle) (values : List Value) :
    (values.flatMap Value.handles).count handle = occurrencesIn handle values := by
  induction values with
  | nil => rfl
  | cons value values ih =>
    rw [List.flatMap_cons, List.count_append, count_handles, ih, occurrencesIn_cons]

theorem occurrencesIn_toList (handle : Handle) (value : Option Value) :
    occurrencesIn handle value.toList = value.elim 0 (occurrences handle) := by
  cases value <;> simp

end Value

namespace Cells

/-- Setting a key trades the occurrences in its old value for those in the new one. -/
theorem cellOccurrences_insert (handle : Handle) (cells : Cells) (key : String) (value : Value) :
    Value.cellOccurrences handle (cells.insert key value) +
        (cells.get? key).elim 0 (Value.occurrences handle) =
      Value.cellOccurrences handle cells + value.occurrences handle := by
  rw [Value.cellOccurrences_eq_total, Value.cellOccurrences_eq_total]
  exact Entries.total_insert (Value.occurrences handle) cells key value

/-- A write at a path that is not empty stores its value once and displaces exactly what it
reports. -/
theorem cellOccurrences_write (handle : Handle) (cells : Cells) {path : List String}
    (value : Value) (nonempty : path ≠ []) :
    Value.cellOccurrences handle (cells.write path value).1 +
        Value.occurrencesIn handle (cells.write path value).2 =
      Value.cellOccurrences handle cells + value.occurrences handle := by
  induction path generalizing cells with
  | nil => exact absurd rfl nonempty
  | cons key path ih =>
    cases path with
    | nil =>
      simp only [write, Value.occurrencesIn_toList]
      exact cellOccurrences_insert handle cells key value
    | cons next path =>
      simp only [write]
      have outer := fun inner => cellOccurrences_insert handle cells key (.array inner)
      -- What was in the cell is either kept as the inner array or displaced as a whole.
      cases found : cells.get? key with
      | none =>
        have inner := ih [] (by simp)
        have stored := outer (write [] (next :: path) value).1
        simp only [found, Option.elim_none, Value.occurrences, Value.cellOccurrences,
          List.nil_append] at inner stored ⊢
        omega
      | some old =>
        cases old with
        | array old =>
          have inner := ih old (by simp)
          have stored := outer (write old (next :: path) value).1
          simp only [found, Option.elim_some, Value.occurrences, List.nil_append]
            at inner stored ⊢
          omega
        | scalar _ | object _ =>
          have inner := ih [] (by simp)
          have stored := outer (write [] (next :: path) value).1
          simp only [found, Option.elim_some, Value.occurrences, Value.cellOccurrences,
            List.cons_append, List.nil_append, Value.occurrencesIn_cons] at inner stored ⊢
          omega

end Cells

namespace Storage

/-- How often a handle occurs in storage: object slots, and every occurrence inside stored
arrays. -/
def occurrences (storage : Storage) (handle : Handle) : Nat :=
  storage.handles.total (fun other => if other = handle then 1 else 0) +
    storage.arrays.total (Value.cellOccurrences handle)

/-- How often a handle occurs at one place. -/
def occurrencesAt (storage : Storage) (place : Binding) (handle : Handle) : Nat :=
  (storage.get? place).elim 0 (Value.occurrences handle)

@[simp] theorem occurrences_empty (handle : Handle) : (∅ : Storage).occurrences handle = 0 := rfl

theorem occurrencesAt_of_get? {storage : Storage} {place : Binding} {value : Value}
    (found : storage.get? place = some value) (handle : Handle) :
    storage.occurrencesAt place handle = value.occurrences handle := by
  rw [occurrencesAt, found, Option.elim_some]

/-- Storing a value trades the occurrences at one place. -/
theorem occurrences_insert (storage : Storage) (key : String) (value : Value) (handle : Handle) :
    (storage.insert key value).occurrences handle +
        storage.occurrencesAt ⟨value.slot, key⟩ handle =
      storage.occurrences handle + value.occurrences handle := by
  cases value with
  | scalar content =>
    simp only [occurrences, occurrencesAt, insert, get?, Value.slot, Value.occurrences]
    cases storage.scalars.get? key <;> simp [Value.occurrences]
  | array cells =>
    have traded := storage.arrays.total_insert (Value.cellOccurrences handle) key cells
    simp only [occurrences, occurrencesAt, insert, get?, Value.slot, Value.occurrences]
    cases found : storage.arrays.get? key <;>
      simp only [found, Option.map_none, Option.map_some, Option.elim_none, Option.elim_some,
        Value.occurrences] at traded ⊢ <;>
      omega
  | object other =>
    have traded := storage.handles.total_insert (fun other => if other = handle then 1 else 0)
      key other
    simp only [occurrences, occurrencesAt, insert, get?, Value.slot, Value.occurrences]
    cases found : storage.handles.get? key <;>
      simp only [found, Option.map_none, Option.map_some, Option.elim_none, Option.elim_some,
        Value.occurrences] at traded ⊢ <;>
      omega

/-- Clearing a place gives up the occurrences there. -/
theorem occurrences_erase (storage : Storage) (place : Binding) (handle : Handle) :
    (storage.erase place).occurrences handle + storage.occurrencesAt place handle =
      storage.occurrences handle := by
  obtain ⟨slot, key⟩ := place
  cases slot with
  | scalar =>
    simp only [occurrences, occurrencesAt, erase, get?]
    cases storage.scalars.get? key <;> simp [Value.occurrences]
  | array =>
    have given := storage.arrays.total_erase (Value.cellOccurrences handle) key
    simp only [occurrences, occurrencesAt, erase, get?]
    cases found : storage.arrays.get? key <;>
      simp only [found, Option.map_none, Option.map_some, Option.elim_none, Option.elim_some,
        Value.occurrences] at given ⊢ <;>
      omega
  | object =>
    have given := storage.handles.total_erase (fun other => if other = handle then 1 else 0) key
    simp only [occurrences, occurrencesAt, erase, get?]
    cases found : storage.handles.get? key <;>
      simp only [found, Option.map_none, Option.map_some, Option.elim_none, Option.elim_some,
        Value.occurrences] at given ⊢ <;>
      omega

/-- What is stored at a place is part of the storage. -/
theorem occurrences_le {storage : Storage} {place : Binding} {value : Value}
    (found : storage.get? place = some value) (handle : Handle) :
    value.occurrences handle ≤ storage.occurrences handle := by
  have given := storage.occurrences_erase place handle
  rw [occurrencesAt_of_get? found] at given
  omega

/-- Clearing places moves their occurrences into the list of what was there. -/
theorem occurrences_takeAll (storage : Storage) (places : List Binding) (handle : Handle) :
    (storage.takeAll places).2.occurrences handle +
        Value.occurrencesIn handle ((storage.takeAll places).1.map Prod.snd) =
      storage.occurrences handle := by
  induction places generalizing storage with
  | nil => rfl
  | cons place places ih =>
    have given := storage.occurrences_erase place handle
    have rest := ih (storage.erase place)
    rw [occurrencesAt] at given
    simp only [takeAll]
    cases found : storage.get? place with
    | none =>
      rw [found, Option.elim_none] at given
      exact rest.trans given
    | some value =>
      rw [found, Option.elim_some] at given
      simp only [List.map_cons, Value.occurrencesIn_cons]
      omega

end Storage

namespace Cells

theorem occurrences_get? {cells : Cells} {key : String} {value : Value}
    (found : cells.get? key = some value) (handle : Handle) :
    value.occurrences handle ≤ Value.cellOccurrences handle cells := by
  have given := cellOccurrences_insert handle cells key .empty
  rw [found, Option.elim_some] at given
  have nothing : Value.empty.occurrences handle = 0 := by simp [Value.empty, Value.occurrences]
  omega

/-- What a path leads to is part of the array. -/
theorem occurrences_read {name : String} {trail : List String} {cells : Cells}
    {path : List String} {value : Value} (found : read name trail cells path = .ok value)
    (handle : Handle) : value.occurrences handle ≤ Value.cellOccurrences handle cells := by
  have nothing : Value.empty.occurrences handle = 0 := by simp [Value.empty, Value.occurrences]
  fun_induction read name trail cells path with
  | case1 | case2 =>
    cases found
    omega
  | case3 trail cells key value' there =>
    cases found
    exact occurrences_get? there handle
  | case4 trail cells key path inner _ there ih =>
    have whole := occurrences_get? there handle
    rw [Value.occurrences] at whole
    exact Nat.le_trans (ih found) whole
  | case5 => contradiction

end Cells

namespace State

variable {state : State} {value : Value}

/-- A variable is stored, or is the receiver. -/
theorem cases_of_readNamed {name : String} (found : state.readNamed name none = .ok value) :
    (∃ place, state.storage.get? place = some value) ∨
      ∃ handle, name = receiverName ∧ state.frame.receiver = some handle ∧
        value = .object handle := by
  have ofStored (stored : readNamed.stored state name none = .ok value) :
      ∃ place, state.storage.get? place = some value := by
    unfold readNamed.stored at stored
    split at stored
    · next read =>
      obtain ⟨place, -, there⟩ := Option.bind_eq_some_iff.1 read
      exact ⟨place, there.trans (congrArg some (Except.ok.inj stored))⟩
    · contradiction
  unfold readNamed at found
  split at found
  · next handle running =>
    split at found
    · next isReceiver => exact .inr ⟨handle, isReceiver, running, (Except.ok.inj found).symm⟩
    · exact .inl (ofStored found)
  · exact .inl (ofStored found)

theorem stored_of_readAttribute {handle : Handle} {name : String}
    (found : state.readAttribute handle name = .ok value) :
    ∃ place, state.storage.get? place = some value := by
  unfold readAttribute at found
  split at found
  · next read =>
    obtain ⟨place, -, there⟩ := Option.bind_eq_some_iff.1 read
    exact ⟨place, there.trans (congrArg some (Except.ok.inj found))⟩
  · contradiction

/-- What is found at the end of a path is part of a stored array. -/
theorem occurrences_of_readPath {name : String} {path : List String} {handle : Handle}
    (found : state.readPath name path none = .ok value) (inside : handle ∈ value.handles) :
    0 < state.storage.occurrences handle := by
  unfold readPath at found
  cases linked : state.link name with
  | error fault => rw [linked] at found; contradiction
  | ok target =>
    simp only [linked, Bind.bind, Except.bind] at found
    split at found
    · contradiction
    · next key _ =>
      split at found
      · contradiction
      · next cells there =>
        have stored : state.storage.get? ⟨.array, key⟩ = some (.array cells) := by
          simp [Storage.get?, there]
        have part := Cells.occurrences_read found handle
        have whole := Storage.occurrences_le stored handle
        rw [Value.occurrences] at whole
        exact Nat.lt_of_lt_of_le (Value.mem_handles.1 inside) (Nat.le_trans part whole)
    · contradiction

/-- A handle that code can come by: it is stored, or it is that of the receiver. -/
def Reaches (state : State) (handle : Handle) : Prop :=
  0 < state.storage.occurrences handle ∨ state.frame.receiver = some handle

theorem reaches_of_get? {place : Binding} {handle : Handle}
    (found : state.storage.get? place = some value) (inside : handle ∈ value.handles) :
    state.Reaches handle :=
  .inl (Nat.lt_of_lt_of_le (Value.mem_handles.1 inside) (Storage.occurrences_le found handle))

theorem reaches_of_resolve {name : String} {handle : Handle}
    (found : state.resolve name none = .ok value) (inside : handle ∈ value.handles) :
    state.Reaches handle := by
  unfold resolve at found
  cases linked : state.link name with
  | error fault => rw [linked] at found; contradiction
  | ok target =>
    rw [linked] at found
    obtain ⟨place, stored⟩ | ⟨other, -, running, rfl⟩ := cases_of_readNamed found
    · exact reaches_of_get? stored inside
    · exact .inr (List.mem_singleton.1 inside ▸ running)

end State

end TagScript
