import TagScript.Proofs.Locality
import TagScript.Proofs.Movements

/-!
# Attributes belong to objects

Attributes are kept in the global scope, in slots that name the object. When an object is reclaimed,
the slots of all attributes that its class declares are unbound with it. So a slot outlives its
object only if it is written at a time when the object is gone already, or if the class does not
declare the attribute.

Everything that running code does to the state, apart from writing attributes, is of one kind: it
binds no slot, and where it reclaims an object, it unbinds the slots that belong to it
(`State.Sheds`). Hence the discipline `ownership`: slots belong to live objects, except for some
that are exempt for the time being.
-/

namespace TagScript

theorem ClassDecl.isSome_attribute? {decl : ClassDecl} {name : String} :
    (decl.attribute? name).isSome ↔ ∃ member ∈ decl.attributes, member.name = name := by
  simp [attribute?]

/-- No variable is stored under its own name. -/
theorem variableKey_ne_name (scope name : String) : variableKey scope name ≠ name := by
  intro same
  have lengths := congrArg (·.toList.length) same
  simp only [toList_variableKey, List.length_append, List.length_cons] at lengths
  omega

namespace Storage

/-- Storing a value brings in its handles at most. -/
theorem stored_of_insert {storage : Storage} {key : String} {value : Value} {handle : Handle}
    (stores : 0 < (storage.insert key value).occurrences handle) :
    handle ∈ value.handles ∨ 0 < storage.occurrences handle := by
  have traded := storage.occurrences_insert key value handle
  rw [Value.mem_handles]
  omega

theorem stored_of_foldl_insert {storage : Storage} {values : List (Binding × Value)}
    {handle : Handle}
    (stores : 0 < (values.foldl (fun storage (place, value) => storage.insert place.key value)
      storage).occurrences handle) :
    handle ∈ (values.map Prod.snd).flatMap Value.handles ∨ 0 < storage.occurrences handle := by
  induction values generalizing storage with
  | nil => exact .inr stores
  | cons pair values ih =>
    rw [List.map_cons, List.flatMap_cons, List.mem_append]
    obtain inside | stores := ih stores
    · exact .inl (.inr inside)
    · exact (stored_of_insert stores).imp_left .inl

end Storage

namespace State

/-- The slot of an attribute is bound as such. A variable of the global scope may have the same
name, but then it is stored under another key. -/
def HasSlot (state : State) (handle : Handle) (name : String) : Prop :=
  (state.bindingIn? globalScope (attributeSlot handle name)).map Binding.key =
    some (attributeSlot handle name)

instance (state : State) (handle : Handle) (name : String) :
    Decidable (state.HasSlot handle name) :=
  inferInstanceAs (Decidable (_ = _))

/-- An object is live, and its class declares an attribute. -/
def Owns (state : State) (handle : Handle) (name : String) : Prop :=
  ((state.classOf? handle).bind state.classes.get?).any fun decl => (decl.attribute? name).isSome

instance (state : State) (handle : Handle) (name : String) : Decidable (state.Owns handle name) :=
  inferInstanceAs (Decidable (_ = _))

theorem owns_iff {state : State} {handle : Handle} {name : String} :
    state.Owns handle name ↔ ∃ object decl, state.heap.get? handle = some object ∧
      state.classes.get? object.className = some decl ∧ (decl.attribute? name).isSome := by
  unfold Owns classOf?
  cases state.heap.get? handle with
  | none => simp
  | some object => cases found : state.classes.get? object.className <;> simp [found]

/-- Slots are not bound, and an object goes only together with its slots. What is stored afterwards
was stored before, or brings in one of the given handles. -/
structure Sheds (brought : List Handle) (before after : State) : Prop where
  functions : after.functions = before.functions
  classes : after.classes = before.classes
  next : after.heap.next = before.heap.next
  slots : ∀ {handle name}, after.HasSlot handle name →
    before.HasSlot handle name ∧ (before.Owns handle name → after.Owns handle name)
  stored : ∀ {handle}, 0 < after.storage.occurrences handle →
    handle ∈ brought ∨ 0 < before.storage.occurrences handle

namespace Sheds

variable {brought : List Handle} {first second third state : State}

theorem refl : Sheds brought state state :=
  ⟨rfl, rfl, rfl, fun has => ⟨has, id⟩, .inr⟩

theorem trans (one : Sheds brought first second) (two : Sheds brought second third) :
    Sheds brought first third where
  functions := two.functions.trans one.functions
  classes := two.classes.trans one.classes
  next := two.next.trans one.next
  slots has :=
    have has' := two.slots has
    have has'' := one.slots has'.1
    ⟨has''.1, fun owns => has'.2 (has''.2 owns)⟩
  stored stores := (two.stored stores).elim .inl one.stored

/-- The declarations stay what they are. -/
theorem declared (sheds : Sheds brought first second) {functions : Table FunctionDecl}
    {classes : Table ClassDecl} (given : first.functions = functions ∧ first.classes = classes) :
    second.functions = functions ∧ second.classes = classes :=
  ⟨sheds.functions.trans given.1, sheds.classes.trans given.2⟩

theorem mono {brought' : List Handle} (sheds : Sheds brought first second)
    (more : ∀ handle ∈ brought, handle ∈ brought') : Sheds brought' first second :=
  { sheds with stored := fun stores => (sheds.stored stores).imp_left (more _) }

/-- Counts do not matter. -/
theorem modify (handle : Handle) {change : Instance → Instance}
    (same : ∀ object, (change object).className = object.className) :
    Sheds brought state { state with heap := state.heap.modify handle change } := by
  refine ⟨rfl, rfl, Heap.next_modify _ _ _, fun {other name} has => ⟨has, fun owns => ?_⟩, .inr⟩
  obtain ⟨object, decl, found, declared, declares⟩ := owns_iff.1 owns
  refine owns_iff.2 ⟨if handle = other then change object else object, decl, ?_, ?_, declares⟩
  · simp only [Heap.get?_modify, found]
    split <;> rfl
  · split <;> simpa only [same]

theorem modifyAll (handles : List Handle) {change : Instance → Instance}
    (same : ∀ object, (change object).className = object.className) :
    Sheds brought state { state with
      heap := handles.foldl (fun heap handle => heap.modify handle change) state.heap } := by
  induction handles generalizing state with
  | nil => exact refl
  | cons handle handles ih => exact (modify handle same).trans ih

theorem retain (value : Value) : Sheds brought state (state.retain value) :=
  modifyAll value.handles fun _ => rfl

theorem disown (value : Value) : Sheds brought state (state.disown value) :=
  modifyAll value.handles fun _ => rfl

/-- Bindings and stored values may go. -/
theorem ofFewer {scopes : Table (Table Binding)} {storage : Storage} {frame : Frame}
    (bound : ∀ {name place},
      { state with scopes, storage, frame }.bindingIn? globalScope name = some place →
        state.bindingIn? globalScope name = some place)
    (stored : ∀ handle, storage.occurrences handle ≤ state.storage.occurrences handle) :
    Sheds brought state { state with scopes, storage, frame } := by
  refine ⟨rfl, rfl, rfl, fun {handle name} has => ⟨?_, id⟩, fun {handle} stores => .inr ?_⟩
  · obtain ⟨place, found, key⟩ := Option.map_eq_some_iff.1 has
    exact Option.map_eq_some_iff.2 ⟨place, bound found, key⟩
  · exact Nat.lt_of_lt_of_le stores (stored handle)

theorem enter (frame : Frame) : Sheds brought state (state.enter frame) :=
  ofFewer id fun _ => Nat.le_refl _

theorem take (scope name : String) : Sheds brought state (state.take scope name).2 := by
  have bound {name' : String} {place : Binding}
      (found : (state.take scope name).2.bindingIn? globalScope name' = some place) :
      state.bindingIn? globalScope name' = some place := by
    rw [bindingIn?_take] at found
    split at found
    · contradiction
    · exact found
  have stored (handle : Handle) : (state.take scope name).2.storage.occurrences handle ≤
      state.storage.occurrences handle :=
    Nat.le_of_add_right_le (Nat.le_of_eq (state.occurrences_take scope name handle))
  -- Only now may the change be looked at as one of scopes and storage.
  revert bound stored
  unfold State.take
  cases state.bindingIn? scope name with
  | none => exact fun _ _ => refl
  | some place => exact fun bound stored => ofFewer bound stored

theorem takeAll (scope : String) (names : List String) :
    Sheds brought state (state.takeAll scope names).2 := by
  induction names generalizing state with
  | nil => exact refl
  | cons name names ih => exact (take scope name).trans ih

end Sheds

/-- Names that are taken are not bound afterwards. -/
theorem bindingIn?_takeAll_of_mem {state : State} {scope name : String} {names : List String}
    (inside : name ∈ names) : (state.takeAll scope names).2.bindingIn? scope name = none := by
  induction names generalizing state with
  | nil => cases inside
  | cons first names ih =>
    by_cases later : name ∈ names
    · exact ih later
    · obtain rfl := (List.mem_cons.1 inside).resolve_right later
      have taken : (state.take scope name).2.bindingIn? scope name = none := by
        rw [bindingIn?_take, if_pos ⟨rfl, rfl⟩]
      cases found : ((state.take scope name).2.takeAll scope names).2.bindingIn? scope name with
      | none => exact found
      | some place => simp [bindingIn?_of_takeAll found] at taken

namespace Sheds

variable {brought : List Handle} {first second third state : State}

/-- An object that is reclaimed takes along the slots that belong to it. -/
theorem reclaim {handle : Handle} {object : Instance}
    (found : state.heap.get? handle = some object) :
    Sheds brought state (state.reclaim handle object.className).2 := by
  have taken : Sheds brought { state with heap := state.heap.remove handle }
      (state.reclaim handle object.className).2 := takeAll _ _
  refine ⟨taken.functions, taken.classes, taken.next.trans (Heap.next_remove _ _), ?_,
    taken.stored⟩
  intro other name has
  obtain ⟨has', kept⟩ := taken.slots has
  refine ⟨has', fun owns => ?_⟩
  obtain ⟨object', decl, found', declared, declares⟩ := owns_iff.1 owns
  -- The object itself owned the attribute only if its class declares it. Then its slot was taken.
  by_cases here : handle = other
  · subst here
    obtain rfl : object = object' := Option.some.inj (found.symm.trans found')
    obtain ⟨member, inside, rfl⟩ := ClassDecl.isSome_attribute?.1 declares
    have unbound : (state.reclaim handle object.className).2.bindingIn? globalScope
        (attributeSlot handle member.name) = none := by
      refine bindingIn?_takeAll_of_mem ?_
      rw [attributeSlots, declared]
      exact List.mem_map_of_mem inside
    rw [HasSlot, unbound] at has
    contradiction
  · refine kept (owns_iff.2 ⟨object', decl, ?_, declared, declares⟩)
    simp only [Heap.get?_remove, if_neg here, found']

theorem release (handles : List Handle) : Sheds brought state (state.release handles) := by
  refine release_induction (motive := fun _ later => Sheds brought state later) ?_ ?_ refl
  · intro later handle handles sheds _
    exact sheds.trans (modify handle fun _ => rfl)
  · intro later handle handles object sheds found _
    have counted : Sheds brought later { later with heap := later.heap.decrement handle } :=
      modify handle fun _ => rfl
    exact sheds.trans (counted.trans (reclaim found))

theorem discardHandle (handle : Handle) : Sheds brought state (state.discardHandle handle) := by
  unfold State.discardHandle
  split
  · exact refl
  · next object found =>
    split
    · exact (reclaim found).trans (release _)
    · exact refl

theorem unlink (scope name : String) : Sheds brought state (state.unlink scope name) := by
  rw [unlink_eq]
  exact (take scope name).trans (release _)

/-- A variable is no slot. -/
theorem setVariable (scope name : String) (value : Value) :
    Sheds value.handles state
      (state.setBinding scope name (variableKey scope name) value) := by
  refine ⟨rfl, rfl, rfl, fun has => ⟨?_, id⟩, Storage.stored_of_insert⟩
  rw [HasSlot, bindingIn?_setBinding] at has
  split at has
  · next here =>
    obtain ⟨-, rfl⟩ := here
    exact absurd (Option.some.inj has) (variableKey_ne_name _ _)
  · exact has

theorem bindVariable (scope name : String) (value : Value) :
    Sheds value.handles state (state.bind scope name (variableKey scope name) value) :=
  (retain value).trans ((unlink scope name).trans (setVariable scope name value))

theorem openArray (scope name : String) : Sheds brought state (state.openArray scope name).2 := by
  unfold State.openArray
  split
  · exact refl
  · exact (unlink scope name).trans
      ((setVariable scope name (.array [])).mono fun _ => List.not_mem_nil.elim)

theorem writeCells (key : String) (path : List String) (value : Value) :
    Sheds value.handles state (state.writeCells key path value).2 := by
  unfold State.writeCells
  split
  · exact refl
  · next cells found =>
    refine ⟨rfl, rfl, rfl, fun has => ⟨has, id⟩, fun {handle} stores => ?_⟩
    rw [Value.mem_handles]
    have before : state.storage.get? ⟨.array, key⟩ = some (.array cells) := by
      simp [Storage.get?, found]
    have moved : _ + state.storage.occurrencesAt ⟨.array, key⟩ handle = _ :=
      state.storage.occurrences_insert key (.array (cells.write path value).1) handle
    rw [Storage.occurrencesAt_of_get? before] at moved
    -- The equation for writes is about paths that lead somewhere; an empty one writes nothing.
    by_cases empty : path = []
    · subst empty
      simp only [Cells.write] at stores moved
      omega
    · have traded := Cells.cellOccurrences_write handle cells value empty
      simp only [Value.occurrences] at moved
      simp only at stores
      omega

theorem assignPath (name : String) (path : List String) (value : Value) (scope : Option String) :
    Sheds value.handles state (state.assignPath name path value scope) :=
  (retain value).trans ((openArray _ name).trans ((writeCells _ path value).trans (release _)))

theorem clear (places : List Binding) : Sheds brought state (state.clear places) := by
  induction places generalizing state with
  | nil => exact refl
  | cons place places ih =>
    unfold State.clear
    split
    · exact ih
    · have erased : Sheds brought state { state with storage := state.storage.erase place } :=
        ofFewer id fun handle =>
          Nat.le_of_add_right_le (Nat.le_of_eq (state.storage.occurrences_erase place handle))
      exact erased.trans ((release _).trans ih)

theorem drop (scope : String) : Sheds brought state (state.drop scope) := by
  unfold State.drop
  split
  · exact refl
  · refine (ofFewer (fun {name place} found => ?_) fun _ => Nat.le_refl _).trans (clear _)
    rw [bindingIn?_erase] at found
    split at found
    · contradiction
    · exact found

theorem suspend (scope : String) : Sheds brought state (state.suspend scope).2 := by
  unfold State.suspend
  split
  · exact refl
  · next table _ =>
    refine ofFewer (fun {name place} found => ?_) fun handle => Nat.le_of_add_right_le
      (Nat.le_of_eq (state.storage.occurrences_takeAll table.values handle))
    rw [bindingIn?_erase] at found
    split at found
    · contradiction
    · exact found

/-- Putting back an activation brings in what its variables hold. -/
theorem resumeEarlier {scope : String} (named : scope ≠ globalScope) :
    Sheds (suspendedHandles (first.suspend scope).1) second
      (second.resumeEarlier (first.suspend scope).1) := by
  cases given : (first.suspend scope).1 with
  | none => exact refl
  | some suspended =>
    refine ⟨rfl, rfl, rfl, fun {handle name} has => ⟨?_, id⟩, fun {handle} stores => ?_⟩
    · rwa [HasSlot, State.resumeEarlier, bindingIn?_resume (from_of_suspend given),
        if_neg named] at has
    · exact Storage.stored_of_foldl_insert stores

theorem holdReceiver (receiver : Option Receiver) :
    Sheds brought state (state.holdReceiver receiver) := by
  cases receiver with
  | none => exact refl
  | some receiver => exact modify receiver.handle fun _ => rfl

theorem holdResult (result : Option Value) : Sheds brought state (state.holdResult result) := by
  cases result with
  | none => exact refl
  | some value => exact retain value

theorem disownResult (result : Option Value) :
    Sheds brought state (state.disownResult result) := by
  cases result with
  | none => exact refl
  | some value => exact disown value

theorem letGoReceiver (result : Option Value) (receiver : Option Receiver) :
    Sheds brought state (state.letGoReceiver result receiver) := by
  cases receiver with
  | none => exact refl
  | some receiver =>
    unfold State.letGoReceiver State.letGo
    dsimp only
    split
    · exact modify receiver.handle fun _ => rfl
    · exact release _

theorem bindArguments (params : List String) (values : List Value) :
    Sheds (values.flatMap Value.handles) state (state.bindArguments params values) := by
  have bound (values : List Value) {state : State} :
      Sheds (values.flatMap Value.handles) state
        (values.foldl (bindArgument params) state) := by
    induction values generalizing state with
    | nil => exact refl
    | cons value values ih =>
      have one : Sheds value.handles state (bindArgument params state value) :=
        (bindVariable _ _ value).trans (enter _)
      exact (one.mono fun _ => List.mem_append_left _).trans
        (ih.mono fun _ => List.mem_append_right _)
  have disowned (values' : List Value) {state : State} :
      Sheds (values.flatMap Value.handles) state (values'.foldl State.disown state) := by
    induction values' generalizing state with
    | nil => exact refl
    | cons value values' ih => exact (disown value).trans ih
  exact (bound values).trans (disowned values)

theorem beginCall (frame : Frame) (receiver : Option Receiver) :
    Sheds brought state (state.beginCall frame receiver).2 := by
  rw [beginCall_eq]
  exact (holdReceiver receiver).trans ((suspend frame.scope).trans (enter frame))

theorem endCall {frame : Frame} (named : frame.scope ≠ globalScope)
    (receiver : Option Receiver) (result : Option Value) :
    Sheds (suspendedHandles ((first.holdReceiver receiver).suspend frame.scope).1) second
      (second.endCall (first.beginCall frame receiver).1 result) := by
  rw [beginCall_eq, endCall_eq]
  exact (holdResult result).trans ((drop frame.scope).trans ((resumeEarlier named).trans
    ((enter _).trans ((letGoReceiver result receiver).trans (disownResult result)))))

end Sheds

/-- What the variables of a suspended activation hold was stored before. -/
theorem stored_of_suspendedHandles {state : State} {scope : String} {handle : Handle}
    (inside : handle ∈ suspendedHandles (state.suspend scope).1) :
    0 < state.storage.occurrences handle := by
  unfold State.suspend at inside
  split at inside
  · cases inside
  · next table _ =>
    have moved := state.storage.occurrences_takeAll table.values handle
    have counted := List.count_pos_iff.2 inside
    rw [suspendedHandles, Value.count_flatMap_handles] at counted
    dsimp only at counted
    omega

/-- Slots belong to live objects, except for those that are exempt, and only handles that have been
given out are in use. The declarations are fixed while nodes run. -/
structure Tended (functions : Table FunctionDecl) (classes : Table ClassDecl)
    (exempt : String → Prop) (state : State) : Prop where
  functions : state.functions = functions
  classes : state.classes = classes
  owned : ∀ {handle name}, state.HasSlot handle name →
    exempt (attributeSlot handle name) ∨ state.Owns handle name
  issued : ∀ {handle}, state.Reaches handle → handle < state.heap.next

namespace Tended

variable {functions : Table FunctionDecl} {classes : Table ClassDecl} {exempt : String → Prop}
  {before after : State} {brought : List Handle}

theorem mono {exempt' : String → Prop} (tended : before.Tended functions classes exempt)
    (more : ∀ slot, exempt slot → exempt' slot) : before.Tended functions classes exempt' :=
  { tended with owned := fun has => (tended.owned has).imp_left (more _) }

/-- A slot need not be exempt any longer if it is free or belongs to its object. -/
theorem settle {handle : Handle} {name : String}
    (tended : before.Tended functions classes
      fun slot => exempt slot ∨ slot = attributeSlot handle name)
    (settles : before.HasSlot handle name → before.Owns handle name) :
    before.Tended functions classes exempt where
  functions := tended.functions
  classes := tended.classes
  owned has := by
    obtain (free | same) | owns := tended.owned has
    · exact .inl free
    · obtain ⟨rfl, rfl⟩ := attributeSlot_inj same
      exact .inr (settles has)
    · exact .inr owns
  issued := tended.issued

/-- What sheds slots and objects may also change the frame. -/
theorem move (tended : before.Tended functions classes exempt)
    (sheds : Sheds brought before after)
    (given : ∀ handle ∈ brought, handle < before.heap.next)
    (running : ∀ handle, after.frame.receiver = some handle → handle < before.heap.next) :
    after.Tended functions classes exempt where
  functions := sheds.functions.trans tended.functions
  classes := sheds.classes.trans tended.classes
  owned has :=
    have has' := sheds.slots has
    (tended.owned has'.1).imp_right has'.2
  issued reaches := by
    rw [sheds.next]
    obtain stores | receives := reaches
    · exact (sheds.stored stores).elim (given _) fun stores => tended.issued (.inl stores)
    · exact running _ receives

theorem step (tended : before.Tended functions classes exempt)
    (sheds : Sheds brought before after)
    (given : ∀ handle ∈ brought, handle < before.heap.next)
    (frame : after.frame = before.frame) :
    after.Tended functions classes exempt ∧ before.heap.next ≤ after.heap.next :=
  ⟨tended.move sheds given fun _ receives => tended.issued (.inr (frame ▸ receives)),
    Nat.le_of_eq sheds.next.symm⟩

/-- Nothing is brought in. -/
theorem shed (tended : before.Tended functions classes exempt) (sheds : Sheds [] before after)
    (frame : after.frame = before.frame) :
    after.Tended functions classes exempt ∧ before.heap.next ≤ after.heap.next :=
  tended.step sheds (fun _ => List.not_mem_nil.elim) frame

/-- The end of a call. -/
theorem endCall {first second : State} (tended : first.Tended functions classes exempt)
    {frame : Frame} (named : frame.scope ≠ globalScope)
    (later : second.Tended functions classes exempt)
    (receiver : Option Receiver) (grown : first.heap.next ≤ second.heap.next)
    (result : Option Value) :
    (second.endCall (first.beginCall frame receiver).1 result).Tended functions classes exempt := by
  refine later.move (Sheds.endCall named receiver result) (fun handle inside => ?_) ?_
  · have held : Sheds [] first (first.holdReceiver receiver) := .holdReceiver receiver
    have stores := (held.stored (stored_of_suspendedHandles inside)).resolve_left
      List.not_mem_nil
    exact Nat.lt_of_lt_of_le (tended.issued (.inl stores)) grown
  · intro handle receives
    rw [frame_endCall, beginCall_eq] at receives
    exact Nat.lt_of_lt_of_le (tended.issued (.inr receives)) grown

/-- A slot may be bound if it is exempt or belongs to the object. -/
theorem setSlot {state : State} (tended : state.Tended functions classes exempt)
    {handle : Handle} {name : String} {value : Value}
    (allowed : exempt (attributeSlot handle name) ∨ state.Owns handle name)
    (known : ∀ other ∈ value.handles, other < state.heap.next) :
    (state.setBinding globalScope (attributeSlot handle name) (attributeSlot handle name)
      value).Tended functions classes exempt := by
  refine ⟨tended.functions, tended.classes, fun {other name'} has => ?_, fun reaches => ?_⟩
  · rw [HasSlot, bindingIn?_setBinding] at has
    split at has
    · next here =>
      obtain ⟨rfl, rfl⟩ := attributeSlot_inj here.2
      exact allowed
    · exact tended.owned has
  · obtain stores | receives := reaches
    · exact (Storage.stored_of_insert stores).elim (known _) fun stores =>
        tended.issued (.inl stores)
    · exact tended.issued (.inr receives)

/-- The attribute has to be allowed when what it held before is gone. -/
theorem assignAttribute {state : State} (tended : state.Tended functions classes exempt)
    {handle : Handle} {name : String} {value : Value}
    (allowed : exempt (attributeSlot handle name) ∨
      ((state.retain value).unlink globalScope (attributeSlot handle name)).Owns handle name)
    (known : ∀ other ∈ value.handles, other < state.heap.next) :
    (state.assignAttribute handle name value).Tended functions classes exempt ∧
      state.heap.next ≤ (state.assignAttribute handle name value).heap.next := by
  have unlinked : Sheds [] state
      ((state.retain value).unlink globalScope (attributeSlot handle name)) :=
    (Sheds.retain value).trans (.unlink _ _)
  obtain ⟨tended', grown⟩ := tended.shed unlinked (frame_unlink _ _ _)
  exact ⟨tended'.setSlot allowed fun other inside => unlinked.next ▸ known other inside, grown⟩

end Tended

/-- A cascade of releases leaves an object alone whose handle is neither released nor stored. -/
theorem get?_release_of_unstored {state : State} {handles : List Handle} {handle : Handle}
    (unstored : state.storage.occurrences handle = 0) (outside : handle ∉ handles) :
    (state.release handles).heap.get? handle = state.heap.get? handle ∧
      (state.release handles).storage.occurrences handle = 0 := by
  refine (release_induction (motive := fun rest later => handle ∉ rest ∧
    later.heap.get? handle = state.heap.get? handle ∧ later.storage.occurrences handle = 0) ?_ ?_
    ⟨outside, rfl, unstored⟩).2
  · rintro later other rest ⟨outside, same, unstored⟩ -
    obtain ⟨here, outside⟩ := List.ne_and_not_mem_of_not_mem_cons outside
    refine ⟨outside, ?_, unstored⟩
    simp only [Heap.decrement, Heap.get?_modify, if_neg (Ne.symm here), same]
  · rintro later other rest object ⟨outside, same, unstored⟩ - -
    obtain ⟨here, outside⟩ := List.ne_and_not_mem_of_not_mem_cons outside
    have moved := occurrences_reclaim { later with heap := later.heap.decrement other } other
      object.className handle
    rw [unstored, Nat.add_eq_zero_iff] at moved
    refine ⟨?_, ?_, moved.1⟩
    · rw [List.mem_append, not_or]
      exact ⟨List.count_eq_zero.1 moved.2, outside⟩
    · simp only [heap_reclaim, Heap.get?_remove, Heap.decrement, Heap.get?_modify,
        if_neg (Ne.symm here), same]

/-- A new object of a class, while its attributes are set: nothing refers to it yet. -/
structure IsNew (decl : ClassDecl) (handle : Handle) (state : State) : Prop where
  classOf : state.classOf? handle = some decl.name
  unstored : state.storage.occurrences handle = 0

namespace IsNew

variable {decl : ClassDecl} {handle : Handle} {state : State}

theorem lt_next (new : state.IsNew decl handle) : handle < state.heap.next := by
  obtain ⟨object, found, -⟩ := Option.map_eq_some_iff.1 new.classOf
  exact Heap.lt_next_of_get? found

/-- Unbinding a name leaves a new object alone. -/
theorem unlink (new : state.IsNew decl handle) (scope name : String) :
    (state.unlink scope name).IsNew decl handle := by
  have moved := state.occurrences_take scope name handle
  rw [new.unstored, Nat.add_eq_zero_iff, ← Value.count_flatMap_handles, List.count_eq_zero] at moved
  obtain ⟨same, unstored⟩ := get?_release_of_unstored moved.1 moved.2
  rw [unlink_eq]
  refine ⟨?_, unstored⟩
  rw [classOf?, same, heap_take]
  exact new.classOf

theorem setBinding (new : state.IsNew decl handle) (scope name key : String) {value : Value}
    (scalar : value.handles = []) : (state.setBinding scope name key value).IsNew decl handle := by
  refine ⟨new.classOf, Nat.eq_zero_of_not_pos fun stores => ?_⟩
  obtain inside | stores := Storage.stored_of_insert stores
  · simp [scalar] at inside
  · exact Nat.ne_of_gt stores new.unstored

end IsNew

namespace Tended

variable {functions : Table FunctionDecl} {classes : Table ClassDecl} {exempt : String → Prop}
  {state : State} (tended : state.Tended functions classes exempt) {decl : ClassDecl}
include tended

/-- The next handle to be given out is in use nowhere, so nothing refers to a new object. -/
theorem allocate :
    { state with heap := state.heap.allocate decl.name }.Tended functions classes exempt ∧
      { state with heap := state.heap.allocate decl.name }.IsNew decl state.heap.next := by
  refine ⟨⟨tended.functions, tended.classes, fun {handle name} has => ?_, fun reaches => ?_⟩,
    ⟨?_, Nat.eq_zero_of_not_pos fun stores => ?_⟩⟩
  · refine (tended.owned has).imp_right fun owns => ?_
    obtain ⟨object, decl', live, declared, declares⟩ := owns_iff.1 owns
    refine owns_iff.2 ⟨object, decl', ?_, declared, declares⟩
    have old : handle ≠ state.heap.next := Nat.ne_of_lt (Heap.lt_next_of_get? live)
    rw [Heap.get?_allocate, if_neg old, live]
  · rw [Heap.next_allocate]
    exact Nat.lt_succ_of_lt (tended.issued reaches)
  · rw [classOf?, Heap.get?_allocate, if_pos rfl]
    rfl
  · exact Nat.lt_irrefl _ (tended.issued (.inl stores))

/-- An attribute that its class declares belongs to a new object when it is set. -/
theorem setInitial {handle : Handle} (new : state.IsNew decl handle)
    (found : classes.get? decl.name = some decl) {name : String}
    (declares : (decl.attribute? name).isSome) {value : Value} (scalar : value.handles = []) :
    (state.assignAttribute handle name value).Tended functions classes exempt ∧
      (state.assignAttribute handle name value).IsNew decl handle := by
  have retained : state.retain value = state := by
    simp only [State.retain, scalar]
    rfl
  have unlinked := new.unlink globalScope (attributeSlot handle name)
  have owns : (state.unlink globalScope (attributeSlot handle name)).Owns handle name := by
    have sheds : Sheds [] state (state.unlink globalScope (attributeSlot handle name)) :=
      .unlink _ _
    rw [Owns, unlinked.classOf, sheds.classes, tended.classes, Option.bind_some, found]
    exact declares
  refine ⟨(tended.assignAttribute (.inr ?_) (by simp [scalar])).1, ?_⟩
  · rwa [retained]
  · unfold State.assignAttribute State.bind
    rw [retained]
    exact unlinked.setBinding _ _ _ scalar

end Tended

end State

open State

/-- While nodes run, slots belong to live objects, except for those that are exempt. -/
def ownership (functions : Table FunctionDecl) (classes : Table ClassDecl)
    (named : functions.get? globalScope = none) (exempt : String → Prop) : Discipline where
  functions := functions
  classes := classes
  ready := Tended functions classes exempt
  related before after := before.heap.next ≤ after.heap.next
  known state handle := handle < state.heap.next
  admitted frame := frame.scope ≠ globalScope
  built built := by
    cases built with
    | function found =>
      rintro rfl
      rw [named] at found
      contradiction
    | method found declared handle => exact methodScope_ne_globalScope _ _
  declared ready := ⟨ready.functions, ready.classes⟩
  refl _ := Nat.le_refl _
  trans := Nat.le_trans
  kept grown known := Nat.lt_of_lt_of_le known grown
  reached ready _ reaches := ready.issued reaches
  retain ready value := ready.shed (.retain value) rfl
  disown ready value := ready.shed (.disown value) rfl
  release ready handles := ready.shed (.release handles) (frame_release _ _)
  discardHandle ready handle := ready.shed (.discardHandle handle) (frame_discardHandle _ _)
  assign ready name value known :=
    ready.step (.bindVariable _ name value) known (frame_assign _ _ _ _)
  assignPath ready name path value known :=
    ready.step (.assignPath name path value none) known (frame_assignPath _ _ _ _ _)
  call := by
    intro state ready frame named running receiver params values passed
    have begun : Sheds (values.flatMap Value.handles) state
        ((state.beginCall frame receiver).2.bindArguments params values) :=
      (Sheds.beginCall frame receiver).trans (.bindArguments params values)
    refine ⟨ready.move begun passed fun handle receives => ?_,
      fun {later} ready' grown result _ => ?_⟩
    · rw [frame_bindArguments, beginCall_eq] at receives
      exact running handle receives
    · have grown' : state.heap.next ≤ later.heap.next := begun.next ▸ grown
      have ended := ready.endCall named ready' receiver grown' result
      have next : (later.endCall (state.beginCall frame receiver).1 result).heap.next =
          later.heap.next := (Sheds.endCall named receiver result).next
      exact ⟨⟨ended, Nat.le_trans grown' (Nat.le_of_eq next.symm)⟩, fun _ known => next ▸ known⟩

end TagScript
