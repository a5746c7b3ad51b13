import TagScript.Proofs.Keys
import TagScript.State.Calls

/-!
# Well-keyed states

In a well-keyed state bindings and stored values correspond one to one, and the key of each binding
determines its scope and name. Removing a scope breaks the correspondence for a while: its values
are still stored when its bindings are gone already. The predicate therefore carries the list of
places that are still to be cleared, and everything that a cascade of releases does is shown to
respect it. `State.Keeps` relates two states that differ in certain variables only.
-/

namespace TagScript

/-- The keys under which a name in a scope may be stored. -/
def IsKey (scope name key : String) : Prop :=
  key = variableKey scope name ∨ scope = globalScope ∧ IsSlot name ∧ key = name

/-- A key determines the scope and the name that it belongs to. -/
theorem IsKey.inj {scope₁ scope₂ name₁ name₂ key : String} (plain₁ : Plain scope₁)
    (plain₂ : Plain scope₂) (first : IsKey scope₁ name₁ key) (second : IsKey scope₂ name₂ key) :
    scope₁ = scope₂ ∧ name₁ = name₂ := by
  rcases first with rfl | ⟨rfl, slot₁, rfl⟩
  · rcases second with same | ⟨rfl, slot₂, rfl⟩
    · exact variableKey_inj plain₁ plain₂ same
    · exact absurd rfl (slot₂.ne_variableKey scope₁ name₁)
  · rcases second with rfl | ⟨rfl, -, rfl⟩
    · exact absurd rfl (slot₁.ne_variableKey scope₂ name₂)
    · exact ⟨rfl, rfl⟩

/-- A stored value is in the store for its kind. -/
theorem Storage.slot_of_get? {storage : Storage} {place : Binding} {value : Value}
    (found : storage.get? place = some value) : value.slot = place.slot := by
  obtain ⟨slot, key⟩ := place
  cases slot <;> simp only [get?, Option.map_eq_some_iff] at found <;>
    obtain ⟨content, -, rfl⟩ := found <;> rfl

namespace State

/-- The bindings of a scope after one scope was replaced. -/
theorem bindings_insert (state : State) (storage : Storage) (scope other : String)
    (table : Table Binding) :
    { state with storage, scopes := state.scopes.insert scope table }.bindings other =
      if scope = other then table else state.bindings other := by
  unfold bindings
  rw [Table.get?_insert]
  split <;> rfl

theorem bindingIn?_setBinding (state : State) (scope name key : String) (value : Value)
    (scope' name' : String) :
    (state.setBinding scope name key value).bindingIn? scope' name' =
      if scope = scope' ∧ name = name' then some ⟨value.slot, key⟩
      else state.bindingIn? scope' name' := by
  unfold setBinding bindingIn?
  rw [bindings_insert]
  by_cases here : scope = scope'
  · subst here
    simp [Table.get?_insert]
  · simp [here]

theorem bindingIn?_take (state : State) (scope name scope' name' : String) :
    (state.take scope name).2.bindingIn? scope' name' =
      if scope = scope' ∧ name = name' then none else state.bindingIn? scope' name' := by
  unfold take
  cases found : state.bindingIn? scope name with
  | none => grind
  | some place =>
    simp only
    unfold bindingIn?
    rw [bindings_insert]
    by_cases here : scope = scope'
    · subst here
      simp [Table.get?_erase]
    · simp [here]

/-- Forgetting a scope forgets what is bound in it. -/
theorem bindingIn?_erase (state : State) (storage : Storage) (scope scope' name : String) :
    { state with storage, scopes := state.scopes.erase scope }.bindingIn? scope' name =
      if scope = scope' then none else state.bindingIn? scope' name := by
  unfold bindingIn? bindings
  rw [Table.get?_erase]
  split <;> rfl

/-- Bindings and stored values correspond, apart from places that are stored without being bound. -/
structure WellKeyed (pending : List Binding) (state : State) : Prop where
  plain : ∀ {scope name place}, state.bindingIn? scope name = some place → Plain scope
  key : ∀ {scope name place}, state.bindingIn? scope name = some place →
    IsKey scope name place.key
  stored : ∀ {scope name place}, state.bindingIn? scope name = some place →
    (state.storage.get? place).isSome
  bound : ∀ {place}, (state.storage.get? place).isSome →
    place ∈ pending ∨ ∃ scope name, state.bindingIn? scope name = some place
  apart : ∀ {scope name place}, state.bindingIn? scope name = some place → place ∉ pending

namespace WellKeyed

variable {pending : List Binding} {state : State}

/-- Bindings that share a key are the same binding. -/
theorem inj (keyed : state.WellKeyed pending) {scope₁ scope₂ name₁ name₂ : String}
    {place₁ place₂ : Binding} (found₁ : state.bindingIn? scope₁ name₁ = some place₁)
    (found₂ : state.bindingIn? scope₂ name₂ = some place₂) (same : place₁.key = place₂.key) :
    scope₁ = scope₂ ∧ name₁ = name₂ :=
  (keyed.key found₁).inj (keyed.plain found₁) (keyed.plain found₂) (same ▸ keyed.key found₂)

/-- No value is stored under the key of a name that is not bound. -/
theorem unstored (keyed : state.WellKeyed []) {scope name key : String} (plain : Plain scope)
    (isKey : IsKey scope name key) (unbound : state.bindingIn? scope name = none) (slot : Slot) :
    state.storage.get? ⟨slot, key⟩ = none := by
  rw [← Option.not_isSome_iff_eq_none]
  intro stored
  obtain none | ⟨scope', name', found⟩ := keyed.bound stored
  · contradiction
  · obtain ⟨rfl, rfl⟩ := isKey.inj plain (keyed.plain found) (keyed.key found)
    rw [unbound] at found
    contradiction

theorem initial : State.initial.WellKeyed [] where
  plain found := by simp [State.initial, bindingIn?, bindings] at found
  key found := by simp [State.initial, bindingIn?, bindings] at found
  stored found := by simp [State.initial, bindingIn?, bindings] at found
  bound {place} stored := by
    obtain ⟨slot, key⟩ := place
    cases slot <;> cases stored
  apart found := by simp [State.initial, bindingIn?, bindings] at found

/-- Nothing but the bindings and the stored values matters. -/
theorem congr (keyed : state.WellKeyed pending) {other : State}
    (scopes : other.scopes = state.scopes) (storage : other.storage = state.storage) :
    other.WellKeyed pending := by
  have same (scope name : String) : other.bindingIn? scope name = state.bindingIn? scope name := by
    unfold bindingIn? bindings
    rw [scopes]
  obtain ⟨plain, key, stored, bound, apart⟩ := keyed
  constructor <;> simpa only [same, storage]

end WellKeyed

/-- What is declared has names that can be part of a key. -/
structure PlainNames (state : State) : Prop where
  function : ∀ {name decl}, state.functions.get? name = some decl → Plain name
  className : ∀ {name decl}, state.classes.get? name = some decl → Plain decl.name
  method : ∀ {name decl}, state.classes.get? name = some decl →
    ∀ method ∈ decl.methods, Plain method.function.name
  member : ∀ {name decl}, state.classes.get? name = some decl →
    ∀ member ∈ decl.attributes, Plain member.name

/-- The slots that go with an object are those of the attributes that its class declares. -/
theorem exists_of_mem_attributeSlots {state : State} {handle : Handle} {className slot : String}
    (inside : slot ∈ state.attributeSlots handle className) :
    ∃ decl, state.classes.get? className = some decl ∧
      ∃ member ∈ decl.attributes, slot = attributeSlot handle member.name := by
  unfold attributeSlots at inside
  split at inside
  · next decl found =>
    rcases List.mem_map.1 inside with ⟨member, declared, rfl⟩
    exact ⟨decl, found, member, declared, rfl⟩
  · cases inside

/-- The variables that a cascade of releases may unbind. -/
def slots (scope name : String) : Prop :=
  scope = globalScope ∧ IsSlot name

/-- The slots of attributes and one variable. -/
def slotsAnd (scope name : String) (scope' name' : String) : Prop :=
  slots scope' name' ∨ scope' = scope ∧ name' = name

/-- The slots of attributes and all variables of one scope. -/
def slotsAndScope (scope : String) (scope' name' : String) : Prop :=
  slots scope' name' ∨ scope' = scope

/-- The second state is well keyed, declares the same, and agrees with the first one on all
variables except those that were touched. -/
structure Keeps (touched : String → String → Prop) (pending : List Binding)
    (before after : State) : Prop where
  functions : after.functions = before.functions
  classes : after.classes = before.classes
  keyed : after.WellKeyed pending
  binding : ∀ {scope name}, ¬ touched scope name →
    after.bindingIn? scope name = before.bindingIn? scope name
  value : ∀ {scope name place}, ¬ touched scope name →
    before.bindingIn? scope name = some place →
    after.storage.get? place = before.storage.get? place

namespace Keeps

variable {touched touched' : String → String → Prop} {pending pending' : List Binding}
  {first second third : State}

theorem refl (keyed : first.WellKeyed pending) : Keeps touched pending first first :=
  ⟨rfl, rfl, keyed, fun _ => rfl, fun _ _ => rfl⟩

theorem trans (one : Keeps touched pending first second)
    (two : Keeps touched pending' second third) : Keeps touched pending' first third where
  functions := two.functions.trans one.functions
  classes := two.classes.trans one.classes
  keyed := two.keyed
  binding untouched := (two.binding untouched).trans (one.binding untouched)
  value untouched found :=
    (two.value untouched ((one.binding untouched).trans found)).trans (one.value untouched found)

theorem mono (wider : ∀ scope name, touched scope name → touched' scope name)
    (keeps : Keeps touched pending first second) : Keeps touched' pending first second where
  functions := keeps.functions
  classes := keeps.classes
  keyed := keeps.keyed
  binding untouched := keeps.binding fun inside => untouched (wider _ _ inside)
  value untouched := keeps.value fun inside => untouched (wider _ _ inside)

theorem plainNames (keeps : Keeps touched pending first second) (plain : first.PlainNames) :
    second.PlainNames := by
  obtain ⟨function, className, method, member⟩ := plain
  constructor <;> simpa only [keeps.functions, keeps.classes]

/-- Counting references and entering a frame touch no variable. -/
theorem heapAndFrame (keyed : first.WellKeyed pending) (heap : Heap) (frame : Frame) :
    Keeps touched pending first { first with heap, frame } :=
  ⟨rfl, rfl, keyed.congr rfl rfl, fun _ => rfl, fun _ _ => rfl⟩

theorem heap (keyed : first.WellKeyed pending) (heap : Heap) :
    Keeps touched pending first { first with heap } :=
  heapAndFrame keyed heap first.frame

theorem enter (keyed : first.WellKeyed pending) (frame : Frame) :
    Keeps touched pending first (first.enter frame) :=
  heapAndFrame keyed first.heap frame

/-- Taking a variable out of the state touches that variable. -/
theorem take (keyed : first.WellKeyed pending) (scope name : String) :
    Keeps (fun scope' name' => scope' = scope ∧ name' = name) pending first
      (first.take scope name).2 := by
  cases found : first.bindingIn? scope name with
  | none =>
    have unchanged : (first.take scope name).2 = first := by simp [State.take, found]
    rw [unchanged]
    exact refl keyed
  | some place =>
    have cleared : (first.take scope name).2.storage = first.storage.erase place := by
      simp [State.take, found]
    -- Every other binding leads to another place, so clearing this one leaves its value alone.
    have other {scope' name' place'} (found' : first.bindingIn? scope' name' = some place')
        (differs : ¬ (scope = scope' ∧ name = name')) : place' ≠ place := by
      rintro rfl
      exact differs (keyed.inj found found' rfl)
    have remaining {scope' name' place'}
        (found' : (first.take scope name).2.bindingIn? scope' name' = some place') :
        ¬ (scope = scope' ∧ name = name') ∧ first.bindingIn? scope' name' = some place' := by
      rw [bindingIn?_take] at found'
      split at found'
      · contradiction
      · next differs => exact ⟨differs, found'⟩
    refine ⟨by simp [State.take, found], by simp [State.take, found], ?_, ?_, ?_⟩
    · refine ⟨fun left => keyed.plain (remaining left).2, fun left => keyed.key (remaining left).2,
        fun left => ?_, fun {place'} stored => ?_, fun left => keyed.apart (remaining left).2⟩
      · obtain ⟨differs, found'⟩ := remaining left
        rw [cleared, Storage.get?_erase, if_neg (other found' differs)]
        exact keyed.stored found'
      · rw [cleared, Storage.get?_erase] at stored
        split at stored
        · contradiction
        · next differs =>
          obtain member | ⟨scope', name', found'⟩ := keyed.bound stored
          · exact .inl member
          · refine .inr ⟨scope', name', ?_⟩
            rw [bindingIn?_take, if_neg, found']
            rintro ⟨rfl, rfl⟩
            exact differs (Option.some.inj (found'.symm.trans found))
    · intro scope' name' untouched
      rw [bindingIn?_take, if_neg fun same => untouched ⟨same.1.symm, same.2.symm⟩]
    · intro scope' name' place' untouched found'
      rw [cleared, Storage.get?_erase,
        if_neg (other found' fun same => untouched ⟨same.1.symm, same.2.symm⟩)]

/-- Taking several variables of a scope touches those variables. -/
theorem takeAll (keyed : first.WellKeyed pending) (scope : String) (names : List String) :
    Keeps (fun scope' name' => scope' = scope ∧ name' ∈ names) pending first
      (first.takeAll scope names).2 := by
  induction names generalizing first with
  | nil => exact refl keyed
  | cons name names ih =>
    have one := take keyed scope name
    refine (one.mono ?_).trans ((ih one.keyed).mono ?_)
    · rintro scope' name' ⟨rfl, rfl⟩
      exact ⟨rfl, List.mem_cons_self⟩
    · rintro scope' name' ⟨rfl, member⟩
      exact ⟨rfl, List.mem_cons_of_mem name member⟩

/-- Reclaiming an object touches slots of attributes only. -/
theorem reclaim (keyed : first.WellKeyed pending) (plain : first.PlainNames) (handle : Handle)
    (className : String) : Keeps slots pending first (first.reclaim handle className).2 := by
  have removed : Keeps slots pending first { first with heap := first.heap.remove handle } :=
    heap keyed _
  refine removed.trans ((takeAll removed.keyed globalScope _).mono ?_)
  rintro scope name ⟨rfl, inside⟩
  obtain ⟨decl, found, member, declared, rfl⟩ := exists_of_mem_attributeSlots inside
  exact ⟨rfl, handle, member.name, plain.member found member declared, rfl⟩

end Keeps

theorem release_nil (state : State) : state.release [] = state := by
  unfold release
  rfl

/-- An object that has a reference left, or is gone already, is passed over. -/
theorem release_cons_of_referenced {state : State} {handle : Handle} (handles : List Handle)
    (referenced : (state.heap.decrement handle).references? handle ≠ some 0) :
    state.release (handle :: handles) =
      { state with heap := state.heap.decrement handle }.release handles := by
  rw [release]
  split
  · rfl
  · next object found =>
    rw [if_neg]
    intro unreferenced
    exact referenced (by rw [Heap.references?, found, Option.map_some, unreferenced])

/-- An object without a reference left is reclaimed before the cascade goes on. -/
theorem release_cons_of_unreferenced {state : State} {handle : Handle} {object : Instance}
    (handles : List Handle) (found : (state.heap.decrement handle).get? handle = some object)
    (unreferenced : object.references = 0) :
    state.release (handle :: handles) =
      ({ state with heap := state.heap.decrement handle }.reclaim handle
          object.className).2.release
        (({ state with heap := state.heap.decrement handle }.reclaim handle
            object.className).1 ++ handles) := by
  rw [release]
  split
  · next gone =>
    have missing : (state.heap.decrement handle).get? handle = none := gone
    rw [missing] at found
    contradiction
  · next other found' =>
    have same : object = other := Option.some.inj (found.symm.trans found')
    rw [if_pos (same ▸ unreferenced), same]

theorem unlink_eq (state : State) (scope name : String) :
    state.unlink scope name = (state.take scope name).2.release
      ((state.take scope name).1.toList.flatMap Value.handles) := by
  unfold unlink
  obtain ⟨taken, later⟩ := state.take scope name
  cases taken with
  | none => exact later.release_nil.symm
  | some value => simp [releaseValue]

/-- A property of a state and of the handles that are still to be released holds at the end of a
cascade if every step of the cascade keeps it: one handle is taken from the list, and if its object
has no reference left, the handles in its attributes are added. -/
theorem release_induction {motive : List Handle → State → Prop}
    (counted : ∀ {state handle handles}, motive (handle :: handles) state →
      (state.heap.decrement handle).references? handle ≠ some 0 →
      motive handles { state with heap := state.heap.decrement handle })
    (reclaimed : ∀ {state handle handles object}, motive (handle :: handles) state →
      (state.heap.decrement handle).get? handle = some object → object.references = 0 →
      motive
        (({ state with heap := state.heap.decrement handle }.reclaim handle object.className).1 ++
          handles)
        ({ state with heap := state.heap.decrement handle }.reclaim handle object.className).2)
    {state : State} {handles : List Handle} (start : motive handles state) :
    motive [] (state.release handles) := by
  fun_induction release state handles with
  | case1 state => exact start
  | case2 state handle handles counted' gone ih =>
    exact ih (counted start (by simp [Heap.references?, gone, counted']))
  | case3 state handle handles counted' object found unreferenced result ih =>
    exact ih (reclaimed start found unreferenced)
  | case4 state handle handles counted' object found referenced ih =>
    exact ih (counted start (by simp [Heap.references?, found, counted', referenced]))

namespace Keeps

variable {touched touched' : String → String → Prop} {pending pending' : List Binding}
  {first second third : State}

/-- A cascade of releases touches slots of attributes only. -/
theorem release (keyed : first.WellKeyed pending) (plain : first.PlainNames)
    (handles : List Handle) : Keeps slots pending first (first.release handles) := by
  refine release_induction (motive := fun _ state => Keeps slots pending first state) ?_ ?_
    (refl keyed)
  · intro state handle handles kept _
    exact kept.trans (heap kept.keyed _)
  · intro state handle handles object kept _ _
    have counted : Keeps slots pending state { state with heap := state.heap.decrement handle } :=
      heap kept.keyed _
    have plain' := counted.plainNames (kept.plainNames plain)
    exact kept.trans (counted.trans (reclaim counted.keyed plain' handle object.className))

theorem discardHandle (keyed : first.WellKeyed pending) (plain : first.PlainNames)
    (handle : Handle) : Keeps slots pending first (first.discardHandle handle) := by
  unfold State.discardHandle
  split
  · exact refl keyed
  · next object _ =>
    split
    · have taken := reclaim keyed plain handle object.className
      exact taken.trans (release taken.keyed (taken.plainNames plain) _)
    · exact refl keyed

theorem discard (keyed : first.WellKeyed pending) (plain : first.PlainNames) (value : Value) :
    Keeps slots pending first (first.discard value) := by
  unfold State.discard
  induction value.handles generalizing first with
  | nil => exact refl keyed
  | cons handle handles ih =>
    have one := discardHandle keyed plain handle
    exact one.trans (ih one.keyed (one.plainNames plain))

/-- Unbinding a variable touches it and slots of attributes. -/
theorem unlink (keyed : first.WellKeyed pending) (plain : first.PlainNames)
    (scope name : String) :
    Keeps (slotsAnd scope name) pending first (first.unlink scope name) := by
  have taken : Keeps (slotsAnd scope name) pending first (first.take scope name).2 :=
    (take keyed scope name).mono fun _ _ same => .inr same
  unfold State.unlink
  split
  · next rest same => rwa [same] at taken
  · next value rest same =>
    rw [same] at taken
    exact taken.trans ((release taken.keyed (taken.plainNames plain) _).mono fun _ _ => .inl)

end Keeps

/-- Taking variables out of the state binds nothing. -/
theorem bindingIn?_of_takeAll {state : State} {scope : String} {names : List String}
    {scope' name' : String} {place : Binding}
    (found : (state.takeAll scope names).2.bindingIn? scope' name' = some place) :
    state.bindingIn? scope' name' = some place := by
  induction names generalizing state with
  | nil => exact found
  | cons name names ih =>
    have left : (state.take scope name).2.bindingIn? scope' name' = some place := ih found
    rw [bindingIn?_take] at left
    split at left
    · contradiction
    · exact left

/-- What is not taken stays bound as it was. -/
theorem bindingIn?_takeAll_of_not_mem {state : State} {scope scope' name : String}
    {names : List String} (outside : scope = scope' → name ∉ names) :
    (state.takeAll scope names).2.bindingIn? scope' name = state.bindingIn? scope' name := by
  induction names generalizing state with
  | nil => rfl
  | cons first names ih =>
    have rest : scope = scope' → name ∉ names :=
      fun same inside => outside same (List.mem_cons_of_mem first inside)
    calc (state.takeAll scope (first :: names)).2.bindingIn? scope' name
        = (state.take scope first).2.bindingIn? scope' name := ih rest
      _ = state.bindingIn? scope' name := by
        rw [bindingIn?_take, if_neg]
        rintro ⟨same, rfl⟩
        exact outside same List.mem_cons_self

/-- Counts do not matter to the class of an object. -/
theorem classOf?_modify (state : State) (handle other : Handle) {change : Instance → Instance}
    (same : ∀ object, (change object).className = object.className) :
    { state with heap := state.heap.modify handle change }.classOf? other =
      state.classOf? other := by
  unfold classOf?
  simp only [Heap.get?_modify]
  by_cases here : handle = other
  · cases state.heap.get? other <;> simp [here, same]
  · simp [here]

theorem classOf?_reclaim (state : State) (handle other : Handle) (className : String) :
    (state.reclaim handle className).2.classOf? other =
      if handle = other then none else state.classOf? other := by
  unfold classOf?
  rw [heap_reclaim, Heap.get?_remove]
  split <;> rfl

theorem bindingIn?_of_reclaim {state : State} {handle : Handle} {className : String}
    {scope name : String} {place : Binding}
    (found : (state.reclaim handle className).2.bindingIn? scope name = some place) :
    state.bindingIn? scope name = some place := by
  have taken : { state with heap := state.heap.remove handle }.bindingIn? scope name =
      some place := bindingIn?_of_takeAll found
  exact taken

/-- A cascade of releases binds nothing. -/
theorem bindingIn?_of_release {state : State} {handles : List Handle} {scope name : String}
    {place : Binding} (found : (state.release handles).bindingIn? scope name = some place) :
    state.bindingIn? scope name = some place := by
  refine release_induction
    (motive := fun _ later => later.bindingIn? scope name = some place →
      state.bindingIn? scope name = some place) ?_ ?_ id found
  · intro later handle handles earlier _ found
    exact earlier found
  · intro later handle handles object earlier _ _ found
    have left := bindingIn?_of_reclaim found
    exact earlier left

/-- After unbinding a name it is not bound. -/
theorem bindingIn?_unlink_self (state : State) (scope name : String) :
    (state.unlink scope name).bindingIn? scope name = none := by
  have taken : (state.take scope name).2.bindingIn? scope name = none := by
    rw [bindingIn?_take, if_pos ⟨rfl, rfl⟩]
  unfold unlink
  split
  · next rest same => rwa [same] at taken
  · next value rest same =>
    rw [same] at taken
    cases found : (rest.releaseValue value).bindingIn? scope name with
    | none => rfl
    | some place =>
      have earlier := bindingIn?_of_release found
      rw [taken] at earlier
      contradiction

section SetBinding

variable {state : State} (keyed : state.WellKeyed []) {scope name key : String}
  (plain : Plain scope) (isKey : IsKey scope name key)
  (unbound : state.bindingIn? scope name = none) (value : Value)
include keyed plain isKey unbound

/-- A name that is not bound is given a place where nothing is stored. -/
theorem get?_setBinding_of_stored {place : Binding} (stored : (state.storage.get? place).isSome) :
    (state.setBinding scope name key value).storage.get? place = state.storage.get? place := by
  refine (Storage.get?_insert state.storage key value place).trans (if_neg ?_)
  rintro rfl
  rw [keyed.unstored plain isKey unbound] at stored
  contradiction

theorem WellKeyed.setBinding : (state.setBinding scope name key value).WellKeyed [] := by
  have cases' {scope' name' place'}
      (found : (state.setBinding scope name key value).bindingIn? scope' name' = some place') :
      (scope' = scope ∧ name' = name ∧ place' = ⟨value.slot, key⟩) ∨
        state.bindingIn? scope' name' = some place' := by
    rw [bindingIn?_setBinding] at found
    split at found
    · next same => exact .inl ⟨same.1.symm, same.2.symm, (Option.some.inj found).symm⟩
    · exact .inr found
  have get? (place : Binding) : (state.setBinding scope name key value).storage.get? place =
      if place = ⟨value.slot, key⟩ then some value else state.storage.get? place :=
    Storage.get?_insert state.storage key value place
  refine ⟨?_, ?_, ?_, ?_, fun _ => List.not_mem_nil⟩
  · intro scope' name' place' found
    obtain ⟨rfl, -, -⟩ | old := cases' found
    · exact plain
    · exact keyed.plain old
  · intro scope' name' place' found
    obtain ⟨rfl, rfl, rfl⟩ | old := cases' found
    · exact isKey
    · exact keyed.key old
  · intro scope' name' place' found
    obtain ⟨rfl, rfl, rfl⟩ | old := cases' found
    · rw [get?, if_pos rfl]
      rfl
    · rw [get?_setBinding_of_stored keyed plain isKey unbound value (keyed.stored old)]
      exact keyed.stored old
  · intro place stored
    refine .inr ?_
    by_cases same : place = ⟨value.slot, key⟩
    · refine ⟨scope, name, ?_⟩
      rw [bindingIn?_setBinding, if_pos ⟨rfl, rfl⟩, same]
    · rw [get?, if_neg same] at stored
      obtain member | ⟨scope', name', found⟩ := keyed.bound stored
      · contradiction
      · refine ⟨scope', name', ?_⟩
        rw [bindingIn?_setBinding, if_neg, found]
        rintro ⟨rfl, rfl⟩
        rw [unbound] at found
        contradiction

/-- Binding a name that is not bound touches that name. -/
theorem Keeps.setBinding : Keeps (fun scope' name' => scope' = scope ∧ name' = name) [] state
    (state.setBinding scope name key value) := by
  refine ⟨rfl, rfl, .setBinding keyed plain isKey unbound value, ?_, ?_⟩
  · intro scope' name' untouched
    rw [bindingIn?_setBinding, if_neg fun same => untouched ⟨same.1.symm, same.2.symm⟩]
  · intro scope' name' place' _ found
    exact get?_setBinding_of_stored keyed plain isKey unbound value (keyed.stored found)

end SetBinding

namespace Keeps

variable {first : State}

/-- Writing a variable touches it and slots of attributes. -/
theorem bind (keyed : first.WellKeyed []) (plain : first.PlainNames) {scope name key : String}
    (plainScope : Plain scope) (isKey : IsKey scope name key) (value : Value) :
    Keeps (slotsAnd scope name) [] first (first.bind scope name key value) := by
  have retained : Keeps (slotsAnd scope name) [] first (first.retain value) := heap keyed _
  have unlinked := unlink retained.keyed (retained.plainNames plain) scope name
  have written := setBinding unlinked.keyed plainScope isKey
    (bindingIn?_unlink_self (first.retain value) scope name) value
  exact (retained.trans unlinked).trans (written.mono fun _ _ same => .inr same)

theorem assign (keyed : first.WellKeyed []) (plain : first.PlainNames)
    (plainScope : Plain first.frame.scope) (name : String) (value : Value) :
    Keeps (slotsAnd first.frame.scope name) [] first (first.assign name value none) :=
  bind keyed plain plainScope (.inl rfl) value

/-- Writing an attribute touches slots only. -/
theorem assignAttribute (keyed : first.WellKeyed []) (plain : first.PlainNames) (handle : Handle)
    {name : String} (plainName : Plain name) (value : Value) :
    Keeps slots [] first (first.assignAttribute handle name value) := by
  have slot : IsSlot (attributeSlot handle name) := ⟨handle, name, plainName, rfl⟩
  refine (bind keyed plain (by decide) (.inr ⟨rfl, slot, rfl⟩) value).mono ?_
  rintro scope' name' (inside | ⟨rfl, rfl⟩)
  · exact inside
  · exact ⟨rfl, slot⟩

end Keeps

end State

end TagScript
