import TagScript.Proofs.WellKeyed

/-!
# What a call does to the variables of the state

A call takes an earlier activation of its function out of the state, starts from an empty scope, and
clears that scope before the earlier activation is put back. `State.Keeps.call` says what follows
when the body stays within its own scope and the slots of attributes: the call as a whole touches
slots only.
-/

namespace TagScript

namespace Table

variable {α : Type}

/-- The entries of a table are what can be looked up in it. -/
theorem mem_entries (table : Table α) {key : String} {value : α} :
    (key, value) ∈ table.entries ↔ table.get? key = some value := by
  obtain ⟨entries, ascending⟩ := table
  simp only [get?]
  induction entries with
  | nil => simp [Entries.get?]
  | cons entry rest ih =>
    have below := List.pairwise_cons.1 ascending
    rw [List.mem_cons, ih below.2, Entries.get?]
    split
    · next here =>
      have missing : Entries.get? rest key = none := by
        rw [Entries.get?_eq_none_iff]
        intro inside
        exact String.lt_irrefl key (here ▸ below.1 key inside)
      rw [missing]
      constructor
      · rintro (same | absent)
        · rw [← same]
        · contradiction
      · rintro same
        rw [← here, ← Option.some.inj same]
        exact .inl rfl
    · next differs =>
      constructor
      · rintro (same | found)
        · exact absurd (congrArg Prod.fst same).symm differs
        · exact found
      · exact .inr

theorem mem_values (table : Table α) (value : α) :
    value ∈ table.values ↔ ∃ key, table.get? key = some value := by
  simp [values, ← mem_entries]

/-- What holds of a new entry and of all earlier ones holds of all entries. -/
theorem forall_insert {table : Table α} {key : String} {value : α}
    {P : String → α → Prop} (new : P key value)
    (old : ∀ name other, table.get? name = some other → P name other) {name : String} {other : α}
    (found : (table.insert key value).get? name = some other) : P name other := by
  rw [get?_insert] at found
  split at found
  · next same =>
    cases found
    exact same ▸ new
  · exact old name other found

end Table

namespace Storage

theorem get?_takeAll (storage : Storage) (places : List Binding) (place : Binding) :
    (storage.takeAll places).2.get? place =
      if place ∈ places then none else storage.get? place := by
  induction places generalizing storage with
  | nil => simp [takeAll]
  | cons first places ih =>
    have rest := ih (storage.erase first)
    have unfolded : (storage.takeAll (first :: places)).2 =
        ((storage.erase first).takeAll places).2 := by
      simp only [takeAll]
      split <;> rfl
    rw [unfolded, rest, get?_erase]
    grind

/-- What is taken from storage is what was found there. -/
theorem mem_takeAll (storage : Storage) (places : List Binding) (place : Binding)
    (value : Value) :
    (place, value) ∈ (storage.takeAll places).1 ↔
      place ∈ places ∧ storage.get? place = some value := by
  induction places generalizing storage with
  | nil => simp [takeAll]
  | cons first places ih =>
    have rest := ih (storage.erase first)
    rw [get?_erase] at rest
    have unfolded : (storage.takeAll (first :: places)).1 =
        ((storage.get? first).map (first, ·)).toList ++
          ((storage.erase first).takeAll places).1 := by
      simp only [takeAll]
      split <;> next found => simp [found]
    rw [unfolded, List.mem_append, rest]
    cases found : storage.get? first <;> grind

/-- No place is taken twice. -/
theorem nodup_takeAll (storage : Storage) (places : List Binding) :
    ((storage.takeAll places).1.map Prod.fst).Nodup := by
  induction places generalizing storage with
  | nil => exact List.nodup_nil
  | cons place places ih =>
    unfold takeAll
    dsimp only
    split
    · refine List.nodup_cons.2 ⟨fun again => ?_, ih _⟩
      obtain ⟨⟨place', value⟩, inside, same⟩ := List.mem_map.1 again
      subst same
      have found := ((mem_takeAll _ places place' value).1 inside).2
      rw [get?_erase, if_pos rfl] at found
      contradiction
    · exact ih _

/-- Values that came from one storage are put back into another at the same places. -/
theorem get?_foldl_insert {base : Storage} {values : List (Binding × Value)}
    (taken : ∀ pair ∈ values, base.get? pair.1 = some pair.2) (storage : Storage)
    (place : Binding) :
    (values.foldl (fun storage (place, value) => storage.insert place.key value) storage).get?
        place =
      if place ∈ values.map Prod.fst then base.get? place else storage.get? place := by
  induction values generalizing storage with
  | nil => simp
  | cons pair values ih =>
    obtain ⟨first, value⟩ := pair
    have found := taken (first, value) List.mem_cons_self
    have same : (⟨value.slot, first.key⟩ : Binding) = first := by
      rw [slot_of_get? found]
    rw [List.foldl_cons, ih fun pair member => taken pair (List.mem_cons_of_mem _ member),
      get?_insert, same]
    grind

end Storage

namespace State

/-- A declaration changes nothing but the table that it goes into. -/
theorem eq_of_declareFunction {state later : State} {decl : FunctionDecl}
    (declares : state.declareFunction decl = .ok later) :
    later = { state with functions := state.functions.insert decl.name decl } := by
  unfold declareFunction at declares
  split at declares
  · contradiction
  · cases declares
    rfl

theorem eq_of_declareClass {state later : State} {decl : ClassDecl}
    (declares : state.declareClass decl = .ok later) :
    later = { state with classes := state.classes.insert decl.name decl } := by
  unfold declareClass at declares
  split at declares
  · contradiction
  · split at declares
    · contradiction
    · cases declares
      rfl

/-- Holds the receiver of a call, if there is one. -/
def holdReceiver (state : State) : Option Receiver → State
  | some receiver => { state with heap := state.heap.retain receiver.handle }
  | none => state

/-- Holds the value that a call returns, if it did not fail. -/
def holdResult (state : State) : Option Value → State
  | some value => state.retain value
  | none => state

/-- Puts back an earlier activation, if there was one. -/
def resumeEarlier (state : State) : Option Suspended → State
  | some suspended => state.resume suspended
  | none => state

/-- Lets go of the receiver of a call, if there is one. -/
def letGoReceiver (state : State) (result : Option Value) : Option Receiver → State
  | some receiver => state.letGo receiver result
  | none => state

/-- Hands over the value that a call returns, if it did not fail. -/
def disownResult (state : State) : Option Value → State
  | some value => state.disown value
  | none => state

/-- The start of a call as a sequence of steps. -/
theorem beginCall_eq (state : State) (frame : Frame) (receiver : Option Receiver) :
    state.beginCall frame receiver =
      (⟨frame.scope, receiver, ((state.holdReceiver receiver).suspend frame.scope).1, state.frame⟩,
        ((state.holdReceiver receiver).suspend frame.scope).2.enter frame) := by
  cases receiver <;> rfl

/-- The end of a call as a sequence of steps. -/
theorem endCall_eq (state : State) (call : Call) (result : Option Value) :
    state.endCall call result =
      (((((state.holdResult result).drop call.scope).resumeEarlier call.suspended).enter
        call.caller).letGoReceiver result call.receiver).disownResult result := by
  obtain ⟨scope, receiver, suspended, caller⟩ := call
  cases result <;> cases suspended <;> cases receiver <;> rfl

theorem frame_take (state : State) (scope name : String) :
    (state.take scope name).2.frame = state.frame := by
  unfold take
  split <;> rfl

theorem frame_takeAll (state : State) (scope : String) (names : List String) :
    (state.takeAll scope names).2.frame = state.frame := by
  induction names generalizing state with
  | nil => rfl
  | cons name names ih => exact (ih _).trans (frame_take state scope name)

@[simp] theorem frame_reclaim (state : State) (handle : Handle) (className : String) :
    (state.reclaim handle className).2.frame = state.frame :=
  frame_takeAll _ _ _

@[simp] theorem frame_release (state : State) (handles : List Handle) :
    (state.release handles).frame = state.frame := by
  refine release_induction (motive := fun _ later => later.frame = state.frame) ?_ ?_ rfl
  · intro later handle handles same _
    exact same
  · intro later handle handles object same _ _
    rw [frame_reclaim]
    exact same

@[simp] theorem frame_discardHandle (state : State) (handle : Handle) :
    (state.discardHandle handle).frame = state.frame := by
  unfold discardHandle
  split
  · rfl
  · split
    · simp
    · rfl

@[simp] theorem frame_discard (state : State) (value : Value) :
    (state.discard value).frame = state.frame := by
  unfold discard
  induction value.handles generalizing state with
  | nil => rfl
  | cons handle handles ih => exact (ih _).trans (frame_discardHandle state handle)

@[simp] theorem frame_unlink (state : State) (scope name : String) :
    (state.unlink scope name).frame = state.frame := by
  have taken := frame_take state scope name
  unfold unlink
  split
  · next rest same => rwa [same] at taken
  · next value rest same =>
    rw [same] at taken
    exact (frame_release rest value.handles).trans taken

@[simp] theorem frame_bind (state : State) (scope name key : String) (value : Value) :
    (state.bind scope name key value).frame = state.frame :=
  frame_unlink (state.retain value) scope name

@[simp] theorem frame_assign (state : State) (name : String) (value : Value)
    (scope : Option String) : (state.assign name value scope).frame = state.frame :=
  frame_bind _ _ _ _ _

@[simp] theorem frame_assignAttribute (state : State) (handle : Handle) (name : String)
    (value : Value) : (state.assignAttribute handle name value).frame = state.frame :=
  frame_bind _ _ _ _ _

@[simp] theorem frame_openArray (state : State) (scope name : String) :
    (state.openArray scope name).2.frame = state.frame := by
  unfold openArray
  split
  · rfl
  · exact frame_unlink state scope name

@[simp] theorem frame_writeCells (state : State) (key : String) (path : List String)
    (value : Value) : (state.writeCells key path value).2.frame = state.frame := by
  unfold writeCells
  split <;> rfl

@[simp] theorem frame_assignPath (state : State) (name : String) (path : List String)
    (value : Value) (scope : Option String) :
    (state.assignPath name path value scope).frame = state.frame := by
  unfold assignPath
  simp [retain]

@[simp] theorem frame_bindArgument (state : State) (params : List String) (value : Value) :
    (state.bindArgument params value).frame =
      { state.frame with passed := state.frame.passed + 1 } := by
  simp [bindArgument, enter]

theorem frame_foldl_bindArgument (state : State) (params : List String) (values : List Value) :
    (values.foldl (bindArgument params) state).frame =
      { state.frame with passed := state.frame.passed + values.length } := by
  induction values generalizing state with
  | nil => rfl
  | cons value values ih =>
    rw [List.foldl_cons, ih, frame_bindArgument, List.length_cons]
    simp only [Frame.mk.injEq, true_and]
    omega

theorem frame_foldl_disown (state : State) (values : List Value) :
    (values.foldl disown state).frame = state.frame := by
  induction values generalizing state with
  | nil => rfl
  | cons value values ih => exact ih (state.disown value)

/-- Binding arguments counts them. -/
@[simp] theorem frame_bindArguments (state : State) (params : List String)
    (values : List Value) :
    (state.bindArguments params values).frame =
      { state.frame with passed := state.frame.passed + values.length } :=
  (frame_foldl_disown _ values).trans (frame_foldl_bindArgument state params values)

@[simp] theorem frame_letGoReceiver (state : State) (result : Option Value)
    (receiver : Option Receiver) :
    (state.letGoReceiver result receiver).frame = state.frame := by
  cases receiver with
  | none => rfl
  | some receiver =>
    unfold letGoReceiver letGo
    dsimp only
    split
    · rfl
    · exact frame_release state [receiver.handle]

/-- After a call its caller is running again. -/
theorem frame_endCall (state : State) (call : Call) (result : Option Value) :
    (state.endCall call result).frame = call.caller := by
  have disowned (later : State) : (later.disownResult result).frame = later.frame := by
    cases result <;> rfl
  rw [endCall_eq, disowned, frame_letGoReceiver]
  rfl

/-- What is bound in a scope is in its table. -/
theorem bindingIn?_of_get? {state : State} {scope : String} {table : Table Binding}
    (found : state.scopes.get? scope = some table) (name : String) :
    state.bindingIn? scope name = table.get? name := by
  simp [bindingIn?, bindings, found]

theorem bindingIn?_of_missing {state : State} {scope : String}
    (missing : state.scopes.get? scope = none) (name : String) :
    state.bindingIn? scope name = none := by
  simp [bindingIn?, bindings, missing]

/-- After a variable was made to hold an array, it leads to that array. -/
theorem bindingIn?_openArray (state : State) (scope name : String) :
    (state.openArray scope name).2.bindingIn? scope name =
      some ⟨.array, (state.openArray scope name).1⟩ := by
  unfold openArray
  split
  · next key found => exact found
  · rw [bindingIn?_setBinding, if_pos ⟨rfl, rfl⟩]
    rfl

/-- The slots of attributes and the variables for arguments that a frame has yet to bind. -/
def slotsAndArguments (params : List String) (frame : Frame) (scope name : String) : Prop :=
  slots scope name ∨
    scope = frame.scope ∧ ∃ place, frame.passed ≤ place ∧ name = argumentName params place

/-- Clearing places binds nothing. -/
theorem bindingIn?_of_clear {state : State} {places : List Binding} {scope name : String}
    {place : Binding} (found : (state.clear places).bindingIn? scope name = some place) :
    state.bindingIn? scope name = some place := by
  induction places generalizing state with
  | nil => exact found
  | cons first places ih =>
    unfold clear at found
    split at found
    · exact ih found
    · have left := bindingIn?_of_release (ih found)
      exact left

/-- After a scope is dropped nothing is bound in it. -/
theorem bindingIn?_drop_self (state : State) (scope name : String) :
    (state.drop scope).bindingIn? scope name = none := by
  unfold drop
  split
  · next missing => exact bindingIn?_of_missing missing name
  · next table _ =>
    cases found : ({ state with scopes := state.scopes.erase scope }.clear
        table.values).bindingIn? scope name with
    | none => rfl
    | some place =>
      have earlier := bindingIn?_of_clear found
      rw [bindingIn?_erase, if_pos rfl] at earlier
      contradiction

namespace Keeps

variable {touched : String → String → Prop} {pending : List Binding} {first second : State}

/-- Clearing a place that no binding leads to touches nothing. -/
theorem erasePending {place : Binding} {places : List Binding}
    (keyed : first.WellKeyed (place :: places)) :
    Keeps touched places first { first with storage := first.storage.erase place } := by
  have kept {scope name place'} (found : first.bindingIn? scope name = some place') :
      (first.storage.erase place).get? place' = first.storage.get? place' := by
    rw [Storage.get?_erase, if_neg]
    rintro rfl
    exact keyed.apart found List.mem_cons_self
  refine ⟨rfl, rfl, ⟨keyed.plain, keyed.key, ?_, ?_, ?_⟩, fun _ => rfl, fun _ => kept⟩
  · intro scope name place' found
    change ((first.storage.erase place).get? place').isSome
    rw [kept found]
    exact keyed.stored found
  · intro place' stored
    change ((first.storage.erase place).get? place').isSome at stored
    rw [Storage.get?_erase] at stored
    split at stored
    · contradiction
    · next differs =>
      obtain member | found := keyed.bound stored
      · exact .inl ((List.mem_cons.1 member).resolve_left differs)
      · exact .inr found
  · intro scope name place' found member
    exact keyed.apart found (List.mem_cons_of_mem place member)

/-- Clearing the places that no binding leads to restores the correspondence. -/
theorem clear {places : List Binding} (keyed : first.WellKeyed places)
    (plain : first.PlainNames) : Keeps slots [] first (first.clear places) := by
  induction places generalizing first with
  | nil => exact refl keyed
  | cons place places ih =>
    have erased : Keeps slots places first _ := erasePending keyed
    unfold State.clear
    split
    · next missing =>
      have unchanged : first.WellKeyed places := by
        refine ⟨keyed.plain, keyed.key, keyed.stored, fun {place'} stored => ?_,
          fun found member => keyed.apart found (List.mem_cons_of_mem place member)⟩
        obtain member | found := keyed.bound stored
        · refine .inl ((List.mem_cons.1 member).resolve_left ?_)
          rintro rfl
          rw [missing] at stored
          contradiction
        · exact .inr found
      exact ih unchanged plain
    · next value _ =>
      have released := release erased.keyed (erased.plainNames plain) value.handles
      have both := erased.trans released
      exact both.trans (ih both.keyed (both.plainNames plain))

/-- Removing the bindings of a scope leaves the places that they led to. -/
theorem eraseScope (keyed : first.WellKeyed []) {scope : String} {table : Table Binding}
    (found : first.scopes.get? scope = some table) :
    Keeps (slotsAndScope scope) table.values first
      { first with scopes := first.scopes.erase scope } := by
  have bindingIn := bindingIn?_of_get? found
  have remaining {scope' name place}
      (left : { first with scopes := first.scopes.erase scope }.bindingIn? scope' name =
        some place) : scope' ≠ scope ∧ first.bindingIn? scope' name = some place := by
    rw [bindingIn?_erase] at left
    split at left
    · contradiction
    · next differs => exact ⟨fun same => differs same.symm, left⟩
  refine ⟨rfl, rfl, ⟨fun left => keyed.plain (remaining left).2,
    fun left => keyed.key (remaining left).2, fun left => keyed.stored (remaining left).2,
    ?_, ?_⟩, ?_, fun _ _ => rfl⟩
  · intro place stored
    obtain member | ⟨scope', name, found'⟩ := keyed.bound stored
    · contradiction
    · by_cases here : scope = scope'
      · subst here
        exact .inl ((table.mem_values place).2 ⟨name, bindingIn name ▸ found'⟩)
      · refine .inr ⟨scope', name, ?_⟩
        rw [bindingIn?_erase, if_neg here, found']
  · intro scope' name place left member
    obtain ⟨key, inside⟩ := (table.mem_values place).1 member
    obtain ⟨differs, found'⟩ := remaining left
    exact differs (keyed.inj found' ((bindingIn key).trans inside) rfl).1
  · intro scope' name untouched
    rw [bindingIn?_erase, if_neg fun same => untouched (.inr same.symm)]

/-- Dropping a scope touches its variables and slots of attributes. -/
theorem drop (keyed : first.WellKeyed []) (plain : first.PlainNames) (scope : String) :
    Keeps (slotsAndScope scope) [] first (first.drop scope) := by
  unfold State.drop
  split
  · exact refl keyed
  · next table found =>
    have erased := eraseScope keyed found
    have cleared := clear erased.keyed (erased.plainNames plain)
    exact erased.trans (cleared.mono fun _ _ => .inl)

/-- Suspending a scope touches its variables. -/
theorem suspend (keyed : first.WellKeyed []) (scope : String) :
    Keeps (slotsAndScope scope) [] first (first.suspend scope).2 := by
  unfold State.suspend
  split
  · exact refl keyed
  · next table found =>
    have erased := eraseScope keyed found
    have stored (place : Binding) : (first.storage.takeAll table.values).2.get? place =
        if place ∈ table.values then none else first.storage.get? place :=
      first.storage.get?_takeAll table.values place
    have kept {scope' name place} (bound : { first with
          storage := (first.storage.takeAll table.values).2
          scopes := first.scopes.erase scope }.bindingIn? scope' name = some place) :
        (first.storage.takeAll table.values).2.get? place = first.storage.get? place := by
      rw [stored, if_neg (erased.keyed.apart bound)]
    refine ⟨rfl, rfl, ⟨erased.keyed.plain, erased.keyed.key, ?_, ?_, ?_⟩, erased.binding, ?_⟩
    · intro scope' name place bound
      change ((first.storage.takeAll table.values).2.get? place).isSome
      rw [kept bound]
      exact erased.keyed.stored bound
    · intro place isStored
      change ((first.storage.takeAll table.values).2.get? place).isSome at isStored
      rw [stored] at isStored
      split at isStored
      · contradiction
      · next differs => exact .inr ((erased.keyed.bound isStored).resolve_left differs)
    · intro scope' name place _
      exact List.not_mem_nil
    · intro scope' name place untouched bound
      exact kept ((erased.binding untouched).trans bound)

/-- If a scope had no bindings before and has none after, none of its variables was touched. -/
theorem ofEmptyScope {scope : String} (keeps : Keeps (slotsAndScope scope) [] first second)
    (before : ∀ name, first.bindingIn? scope name = none)
    (after : ∀ name, second.bindingIn? scope name = none) : Keeps slots [] first second := by
  refine ⟨keeps.functions, keeps.classes, keeps.keyed, ?_, ?_⟩
  · intro scope' name untouched
    by_cases here : scope' = scope
    · subst here
      rw [before, after]
    · exact keeps.binding (not_or.2 ⟨untouched, here⟩)
  · intro scope' name place untouched found
    by_cases here : scope' = scope
    · subst here
      rw [before] at found
      contradiction
    · exact keeps.value (not_or.2 ⟨untouched, here⟩) found

end Keeps

end State

/-- An activation that was suspended in a state: the bindings of a scope, and what is stored at the
places that they lead to. -/
structure Suspended.From (suspended : Suspended) (state : State) (scope : String) : Prop where
  name : suspended.name = scope
  binding : ∀ name, suspended.bindings.get? name = state.bindingIn? scope name
  value : ∀ place value, (place, value) ∈ suspended.values ↔
    (∃ name, state.bindingIn? scope name = some place) ∧ state.storage.get? place = some value
  distinct : (suspended.values.map Prod.fst).Nodup

namespace State

theorem from_of_suspend {state : State} {scope : String} {suspended : Suspended}
    (given : (state.suspend scope).1 = some suspended) : suspended.From state scope := by
  unfold suspend at given
  split at given
  · contradiction
  · next table found =>
    cases given
    have bindingIn := bindingIn?_of_get? found
    refine ⟨rfl, fun name => (bindingIn name).symm, fun place value => ?_,
      Storage.nodup_takeAll _ _⟩
    simp only [Storage.mem_takeAll, Table.mem_values, bindingIn]

section Resume

variable {first second : State} {scope : String} {suspended : Suspended}
  (taken : suspended.From first scope)
include taken

theorem bindingIn?_resume (scope' name : String) :
    (second.resume suspended).bindingIn? scope' name =
      if scope = scope' then first.bindingIn? scope name else second.bindingIn? scope' name := by
  unfold resume bindingIn?
  rw [bindings_insert, taken.name]
  split
  · exact taken.binding name
  · rfl

theorem get?_resume (place : Binding) : (second.resume suspended).storage.get? place =
    if place ∈ suspended.values.map Prod.fst then first.storage.get? place
    else second.storage.get? place :=
  Storage.get?_foldl_insert (fun pair inside => ((taken.value pair.1 pair.2).1 inside).2)
    second.storage place

variable (keyed : first.WellKeyed [])
include keyed

/-- The places that are put back are those that the bindings of the scope led to. -/
theorem mem_suspended {place : Binding} : place ∈ suspended.values.map Prod.fst ↔
    ∃ name, first.bindingIn? scope name = some place := by
  rw [List.mem_map]
  constructor
  · rintro ⟨⟨place', value⟩, member, rfl⟩
    exact ((taken.value place' value).1 member).1
  · rintro ⟨name, bound⟩
    obtain ⟨value, stored⟩ := Option.isSome_iff_exists.1 (keyed.stored bound)
    exact ⟨(place, value), (taken.value place value).2 ⟨⟨name, bound⟩, stored⟩, rfl⟩

theorem get?_resume_own {name : String} {place : Binding}
    (bound : first.bindingIn? scope name = some place) :
    (second.resume suspended).storage.get? place = first.storage.get? place := by
  rw [get?_resume taken, if_pos ((mem_suspended taken keyed).2 ⟨name, bound⟩)]

/-- The places of other scopes are left alone, since keys tell the scopes apart. -/
theorem get?_resume_other (keyed' : second.WellKeyed []) {scope' name : String} {place : Binding}
    (differs : scope ≠ scope') (bound : second.bindingIn? scope' name = some place) :
    (second.resume suspended).storage.get? place = second.storage.get? place := by
  rw [get?_resume taken, if_neg]
  rw [mem_suspended taken keyed]
  rintro ⟨name', bound'⟩
  exact differs
    ((keyed.key bound').inj (keyed.plain bound') (keyed'.plain bound) (keyed'.key bound)).1

theorem WellKeyed.resume (keyed' : second.WellKeyed [])
    (empty : ∀ name, second.bindingIn? scope name = none) :
    (second.resume suspended).WellKeyed [] := by
  refine ⟨?_, ?_, ?_, ?_, fun _ => List.not_mem_nil⟩
  · intro scope' name place bound
    rw [bindingIn?_resume taken] at bound
    split at bound
    · next here => exact here ▸ keyed.plain bound
    · exact keyed'.plain bound
  · intro scope' name place bound
    rw [bindingIn?_resume taken] at bound
    split at bound
    · next here => exact here ▸ keyed.key bound
    · exact keyed'.key bound
  · intro scope' name place bound
    rw [bindingIn?_resume taken] at bound
    split at bound
    · rw [get?_resume_own taken keyed bound]
      exact keyed.stored bound
    · next differs =>
      rw [get?_resume_other taken keyed keyed' differs bound]
      exact keyed'.stored bound
  · intro place stored
    refine .inr ?_
    by_cases inside : place ∈ suspended.values.map Prod.fst
    · obtain ⟨name, bound⟩ := (mem_suspended taken keyed).1 inside
      refine ⟨scope, name, ?_⟩
      rw [bindingIn?_resume taken, if_pos rfl, bound]
    · rw [get?_resume taken, if_neg inside] at stored
      obtain member | ⟨scope', name, bound⟩ := keyed'.bound stored
      · contradiction
      · refine ⟨scope', name, ?_⟩
        rw [bindingIn?_resume taken, if_neg, bound]
        rintro rfl
        rw [empty] at bound
        contradiction

/-- Putting a scope back into a state that has nothing bound in it restores its variables. -/
theorem Keeps.resume (keeps : Keeps (slotsAndScope scope) [] first second)
    (empty : ∀ name, second.bindingIn? scope name = none) :
    Keeps slots [] first (second.resume suspended) := by
  refine ⟨keeps.functions, keeps.classes, .resume taken keyed keeps.keyed empty, ?_, ?_⟩
  · intro scope' name untouched
    rw [bindingIn?_resume taken]
    split
    · next here => rw [here]
    · next differs => exact keeps.binding (not_or.2 ⟨untouched, fun same => differs same.symm⟩)
  · intro scope' name place untouched bound
    by_cases here : scope = scope'
    · subst here
      exact get?_resume_own taken keyed bound
    · have unmoved := not_or.2 ⟨untouched, fun same => here (Eq.symm same)⟩
      rw [get?_resume_other taken keyed keeps.keyed here ((keeps.binding unmoved).trans bound)]
      exact keeps.value unmoved bound

end Resume

namespace Keeps

variable {touched : String → String → Prop} {pending : List Binding} {first second : State}

/-- Putting back what was suspended, whether that was a scope or nothing. -/
theorem resumeEarlier (keyed : first.WellKeyed []) {scope : String}
    (keeps : Keeps (slotsAndScope scope) [] first second)
    (empty : ∀ name, second.bindingIn? scope name = none) :
    Keeps slots [] first (second.resumeEarlier (first.suspend scope).1) := by
  cases given : (first.suspend scope).1 with
  | none =>
    refine keeps.ofEmptyScope (bindingIn?_of_missing ?_) empty
    unfold State.suspend at given
    split at given
    · assumption
    · contradiction
  | some suspended => exact resume (from_of_suspend given) keyed keeps empty

theorem holdReceiver (keyed : first.WellKeyed []) (receiver : Option Receiver) :
    Keeps touched [] first (first.holdReceiver receiver) := by
  cases receiver with
  | none => exact refl keyed
  | some receiver => exact heap keyed _

theorem holdResult (keyed : first.WellKeyed []) (result : Option Value) :
    Keeps touched [] first (first.holdResult result) := by
  cases result with
  | none => exact refl keyed
  | some value => exact heap keyed _

theorem disownResult (keyed : first.WellKeyed []) (result : Option Value) :
    Keeps touched [] first (first.disownResult result) := by
  cases result with
  | none => exact refl keyed
  | some value => exact heap keyed _

/-- Letting go of a receiver touches slots of attributes only. -/
theorem letGoReceiver (keyed : first.WellKeyed []) (plain : first.PlainNames)
    (result : Option Value) (receiver : Option Receiver) :
    Keeps slots [] first (first.letGoReceiver result receiver) := by
  cases receiver with
  | none => exact refl keyed
  | some receiver =>
    unfold State.letGoReceiver State.letGo
    dsimp only
    split
    · exact heap keyed _
    · exact release keyed plain [receiver.handle]

/-- When a body that stays within its scope is over and its scope is dropped, only that scope and
slots of attributes have been touched since the call began. -/
theorem dropBody (keyed : first.WellKeyed []) (plain : first.PlainNames) {frame : Frame}
    {receiver : Option Receiver} (result : Option Value)
    (body : Keeps (slotsAndScope frame.scope) [] (first.beginCall frame receiver).2 second) :
    Keeps (slotsAndScope frame.scope) [] (first.holdReceiver receiver)
      ((second.holdResult result).drop frame.scope) := by
  rw [beginCall_eq] at body
  have held : Keeps slots [] first (first.holdReceiver receiver) := holdReceiver keyed receiver
  have suspended := suspend held.keyed frame.scope
  have ran := suspended.trans ((enter suspended.keyed frame).trans body)
  have retained : Keeps (slotsAndScope frame.scope) [] second (second.holdResult result) :=
    holdResult body.keyed result
  have dropped := drop retained.keyed
    ((ran.trans retained).plainNames (held.plainNames plain)) frame.scope
  exact ran.trans (retained.trans dropped)

/-- The variables of an earlier activation of the same function are back when its scope has been
resumed. -/
theorem resumeBody (keyed : first.WellKeyed []) (plain : first.PlainNames) {frame : Frame}
    {receiver : Option Receiver} (result : Option Value)
    (body : Keeps (slotsAndScope frame.scope) [] (first.beginCall frame receiver).2 second) :
    Keeps slots [] first (((second.holdResult result).drop frame.scope).resumeEarlier
      ((first.holdReceiver receiver).suspend frame.scope).1) := by
  have held : Keeps slots [] first (first.holdReceiver receiver) := holdReceiver keyed receiver
  exact held.trans (resumeEarlier held.keyed (dropBody keyed plain result body)
    fun name => bindingIn?_drop_self _ _ name)

/-- A call whose body stays within its scope touches slots of attributes only. -/
theorem call (keyed : first.WellKeyed []) (plain : first.PlainNames) {frame : Frame}
    {receiver : Option Receiver} (result : Option Value)
    (body : Keeps (slotsAndScope frame.scope) [] (first.beginCall frame receiver).2 second) :
    Keeps slots [] first (second.endCall (first.beginCall frame receiver).1 result) := by
  have resumed := resumeBody keyed plain result body
  rw [beginCall_eq, endCall_eq]
  have entered := resumed.trans (enter resumed.keyed first.frame)
  have released := entered.trans
    (letGoReceiver entered.keyed (entered.plainNames plain) result receiver)
  exact released.trans (disownResult released.keyed result)

/-- Making sure that a variable holds an array touches it and slots of attributes. -/
theorem openArray (keyed : first.WellKeyed []) (plain : first.PlainNames) {scope : String}
    (plainScope : Plain scope) (name : String) :
    Keeps (slotsAnd scope name) [] first (first.openArray scope name).2 := by
  unfold State.openArray
  split
  · exact refl keyed
  · have unlinked := unlink keyed plain scope name
    have isKey : IsKey scope name (variableKey scope name) := .inl rfl
    have written := setBinding unlinked.keyed plainScope isKey
      (bindingIn?_unlink_self first scope name) (.array [])
    exact unlinked.trans (written.mono fun _ _ same => .inr same)

/-- Writing into the cells of an array variable touches that variable. -/
theorem writeCells (keyed : first.WellKeyed []) {scope name key : String}
    (bound : first.bindingIn? scope name = some ⟨.array, key⟩) (path : List String)
    (value : Value) :
    Keeps (fun scope' name' => scope' = scope ∧ name' = name) [] first
      (first.writeCells key path value).2 := by
  unfold State.writeCells
  split
  · exact refl keyed
  · next cells found =>
    dsimp only
    have stored (place : Binding) :
        (first.storage.insert key (.array (Cells.write cells path value).1)).get? place =
          if place = ⟨.array, key⟩ then some (.array (Cells.write cells path value).1)
          else first.storage.get? place :=
      first.storage.get?_insert key _ place
    have isSome (place : Binding) :
        ((first.storage.insert key (.array (Cells.write cells path value).1)).get? place).isSome =
          (first.storage.get? place).isSome := by
      rw [stored]
      split
      · next same => simp [same, Storage.get?, found]
      · rfl
    refine ⟨rfl, rfl, ⟨keyed.plain, keyed.key, fun found' => ?_, fun stored' => ?_, keyed.apart⟩,
      fun _ => rfl, fun untouched found' => ?_⟩
    · exact (isSome _).trans (keyed.stored found')
    · exact keyed.bound ((isSome _).symm.trans stored')
    · refine (stored _).trans (if_neg ?_)
      rintro rfl
      obtain ⟨rfl, rfl⟩ := keyed.inj bound found' rfl
      exact untouched ⟨rfl, rfl⟩

theorem assignPath (keyed : first.WellKeyed []) (plain : first.PlainNames)
    (scope : Option String) (plainScope : Plain (scope.getD first.frame.scope)) (name : String)
    (path : List String) (value : Value) :
    Keeps (slotsAnd (scope.getD first.frame.scope) name) [] first
      (first.assignPath name path value scope) := by
  have retained : Keeps (slotsAnd (scope.getD first.frame.scope) name) [] first
      (first.retain value) := heap keyed _
  have opened := openArray retained.keyed (retained.plainNames plain) plainScope name
  have written := writeCells opened.keyed (bindingIn?_openArray _ _ _) path value
  have all := retained.trans (opened.trans (written.mono fun _ _ => .inr))
  exact all.trans ((release all.keyed (all.plainNames plain) _).mono fun _ _ => .inl)

/-- Binding one argument touches the variable for its place. -/
theorem bindArgument (keyed : first.WellKeyed []) (plain : first.PlainNames)
    (plainScope : Plain first.frame.scope) (params : List String) (value : Value) :
    Keeps (slotsAnd first.frame.scope (argumentName params first.frame.passed)) [] first
      (first.bindArgument params value) := by
  have assigned := assign keyed plain plainScope (argumentName params first.frame.passed) value
  exact assigned.trans (enter assigned.keyed _)

/-- Binding arguments touches the variables for their places. -/
theorem foldl_bindArgument (keyed : first.WellKeyed []) (plain : first.PlainNames)
    (plainScope : Plain first.frame.scope) (params : List String) (values : List Value) :
    Keeps (slotsAndArguments params first.frame) [] first
      (values.foldl (State.bindArgument params) first) := by
  induction values generalizing first with
  | nil => exact refl keyed
  | cons value values ih =>
    have one := bindArgument keyed plain plainScope params value
    have more := ih one.keyed (one.plainNames plain) (by rwa [frame_bindArgument])
    rw [frame_bindArgument] at more
    refine (one.mono ?_).trans (more.mono ?_)
    · rintro scope name (inside | ⟨rfl, rfl⟩)
      · exact .inl inside
      · exact .inr ⟨rfl, _, Nat.le_refl _, rfl⟩
    · rintro scope name (inside | ⟨rfl, place, later, rfl⟩)
      · exact .inl inside
      · exact .inr ⟨rfl, place, Nat.le_of_succ_le later, rfl⟩

theorem foldl_disown (keyed : first.WellKeyed pending) (values : List Value) :
    Keeps touched pending first (values.foldl State.disown first) := by
  induction values generalizing first with
  | nil => exact refl keyed
  | cons value values ih =>
    have one : Keeps touched pending first (first.disown value) := heap keyed _
    exact one.trans (ih one.keyed)

theorem bindArguments (keyed : first.WellKeyed []) (plain : first.PlainNames)
    (plainScope : Plain first.frame.scope) (params : List String) (values : List Value) :
    Keeps (slotsAndScope first.frame.scope) [] first (first.bindArguments params values) := by
  have bound := foldl_bindArgument keyed plain plainScope params values
  refine (bound.trans (foldl_disown bound.keyed values)).mono ?_
  rintro scope name (inside | ⟨rfl, -⟩)
  · exact .inl inside
  · exact .inr rfl

end Keeps

end State

end TagScript
