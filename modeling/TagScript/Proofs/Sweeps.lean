import TagScript.Proofs.Movements

/-!
# What a write loses

A write lets go of the value that it replaces. That may reclaim objects, and the slots of their
attributes go with them. `State.Sweeps` says of a change that it leads to a well-keyed state, that
apart from what it touches it loses slots of objects only that it reclaims, and that it makes no
object. Nothing is asked of the names that are declared.

Without well-keyed states a release can be described just as exactly (`State.Reclaims`): objects go
together with what their declared attributes lead to, and nothing else goes.
-/

namespace TagScript

namespace Heap

/-- Changing an object makes none and takes none away. -/
theorem get?_modify_eq_none_iff (heap : Heap) (handle other : Handle)
    (change : Instance → Instance) :
    (heap.modify handle change).get? other = none ↔ heap.get? other = none := by
  rw [get?_modify]
  split
  · exact Option.map_eq_none_iff
  · rfl

theorem get?_retainAll_eq_none_iff (heap : Heap) (handles : List Handle) (other : Handle) :
    (heap.retainAll handles).get? other = none ↔ heap.get? other = none := by
  induction handles generalizing heap with
  | nil => rfl
  | cons handle handles ih => exact (ih _).trans (get?_modify_eq_none_iff heap handle other _)

end Heap

namespace State

/-- The slots of objects that were live before and are gone afterwards. -/
def Lost (before after : State) (scope name : String) : Prop :=
  scope = globalScope ∧ ∃ handle member, name = attributeSlot handle member ∧
    (before.heap.get? handle).isSome ∧ after.heap.get? handle = none

namespace Lost

variable {first second third : State} {scope name : String}

/-- What is lost of a state was there before, if no object has appeared since. -/
theorem earlier (lost : Lost second third scope name)
    (fewer : ∀ {handle}, first.heap.get? handle = none → second.heap.get? handle = none) :
    Lost first third scope name := by
  rcases lost with ⟨isGlobal, handle, member, named, live, gone⟩
  refine ⟨isGlobal, handle, member, named, ?_, gone⟩
  rw [Option.isSome_iff_ne_none] at live ⊢
  exact fun missing => live (fewer missing)

/-- What is lost stays lost. -/
theorem later (lost : Lost first second scope name)
    (fewer : ∀ {handle}, second.heap.get? handle = none → third.heap.get? handle = none) :
    Lost first third scope name := by
  rcases lost with ⟨isGlobal, handle, member, named, live, gone⟩
  exact ⟨isGlobal, handle, member, named, live, fewer gone⟩

end Lost

/-- The second state is well keyed and agrees with the first one on all variables, except those that
were touched and slots of objects that are gone. No object has appeared. -/
structure Sweeps (touched : String → String → Prop) (pending : List Binding)
    (before after : State) : Prop where
  keeps : Keeps (fun scope name => touched scope name ∨ Lost before after scope name) pending
    before after
  fewer : ∀ {handle}, before.heap.get? handle = none → after.heap.get? handle = none

/-- One variable. -/
def atName (scope name : String) (scope' name' : String) : Prop :=
  scope' = scope ∧ name' = name

namespace Sweeps

variable {touched : String → String → Prop} {pending pending' : List Binding}
  {first second third : State}

/-- Where no object goes, no slot is lost. -/
theorem of_keeps (keeps : Keeps touched pending first second)
    (same : ∀ handle, second.heap.get? handle = none ↔ first.heap.get? handle = none) :
    Sweeps touched pending first second :=
  ⟨keeps.mono fun _ _ => .inl, (same _).2⟩

theorem refl (keyed : first.WellKeyed pending) : Sweeps touched pending first first :=
  of_keeps (.refl keyed) fun _ => Iff.rfl

theorem trans (one : Sweeps touched pending first second)
    (two : Sweeps touched pending' second third) : Sweeps touched pending' first third where
  keeps := by
    apply (one.keeps.mono _).trans (two.keeps.mono _)
    · exact fun scope name => Or.imp_right fun lost => lost.later two.fewer
    · exact fun scope name => Or.imp_right fun lost => lost.earlier one.fewer
  fewer missing := two.fewer (one.fewer missing)

theorem keyed (sweeps : Sweeps touched pending first second) : second.WellKeyed pending :=
  sweeps.keeps.keyed

theorem retain (keyed : first.WellKeyed pending) (value : Value) :
    Sweeps touched pending first (first.retain value) :=
  of_keeps (.heap keyed _) (first.heap.get?_retainAll_eq_none_iff value.handles)

theorem decrement (keyed : first.WellKeyed pending) (handle : Handle) :
    Sweeps touched pending first { first with heap := first.heap.decrement handle } :=
  of_keeps (.heap keyed _) fun other => first.heap.get?_modify_eq_none_iff handle other _

/-- A reclaimed object loses the slots of its attributes. -/
theorem reclaim (keyed : first.WellKeyed pending) {handle : Handle} {object : Instance}
    (found : first.heap.get? handle = some object) (className : String) :
    Sweeps touched pending first (first.reclaim handle className).2 := by
  have gone (other : Handle) : (first.reclaim handle className).2.heap.get? other =
      if handle = other then none else first.heap.get? other := by
    rw [heap_reclaim, Heap.get?_remove]
  constructor
  · have removed : { first with heap := first.heap.remove handle }.WellKeyed pending :=
      keyed.congr rfl rfl
    apply (Keeps.heap keyed _).trans
    apply (Keeps.takeAll removed globalScope _).mono
    rintro scope name ⟨rfl, inside⟩
    rcases exists_of_mem_attributeSlots inside with ⟨-, -, member, -, named⟩
    exact .inr ⟨rfl, handle, member.name, named, Option.isSome_of_mem found,
      (gone handle).trans (if_pos rfl)⟩
  · intro other missing
    rw [gone, missing, ite_self]

/-- A cascade of releases loses slots of objects that it reclaims. -/
theorem release (keyed : first.WellKeyed pending) (handles : List Handle) :
    Sweeps touched pending first (first.release handles) := by
  apply release_induction (motive := fun _ later => Sweeps touched pending first later)
  · intro later handle handles sweeps _
    exact sweeps.trans (decrement sweeps.keyed handle)
  · intro later handle handles object sweeps found _
    have counted := sweeps.trans (decrement sweeps.keyed handle)
    exact counted.trans (reclaim counted.keyed found object.className)
  · exact refl keyed

theorem unlink (keyed : first.WellKeyed pending) (scope name : String) :
    Sweeps (atName scope name) pending first (first.unlink scope name) := by
  rw [unlink_eq]
  have taken : Sweeps (atName scope name) pending first (first.take scope name).2 :=
    of_keeps (.take keyed scope name) fun _ => by rw [heap_take]
  exact taken.trans (release taken.keyed _)

/-- A name that was unbound is bound again. -/
theorem rebind (keyed : first.WellKeyed []) {scope name key : String} (plain : Plain scope)
    (isKey : IsKey scope name key) (value : Value) :
    Sweeps (atName scope name) [] first
      ((first.unlink scope name).setBinding scope name key value) := by
  have unlinked := unlink keyed scope name
  have written := Keeps.setBinding unlinked.keyed plain isKey
    (bindingIn?_unlink_self first scope name) value
  exact unlinked.trans (of_keeps written fun _ => Iff.rfl)

theorem bind (keyed : first.WellKeyed []) {scope name key : String} (plain : Plain scope)
    (isKey : IsKey scope name key) (value : Value) :
    Sweeps (atName scope name) [] first (first.bind scope name key value) :=
  have retained : Sweeps (atName scope name) [] first (first.retain value) := .retain keyed value
  retained.trans (rebind retained.keyed plain isKey value)

theorem assign (keyed : first.WellKeyed []) (name : String) (value : Value)
    (scope : Option String) (plain : Plain (scope.getD first.frame.scope)) :
    Sweeps (atName (scope.getD first.frame.scope) name) [] first (first.assign name value scope) :=
  bind keyed plain (.inl rfl) value

theorem openArray (keyed : first.WellKeyed []) {scope : String} (plain : Plain scope)
    (name : String) : Sweeps (atName scope name) [] first (first.openArray scope name).2 := by
  unfold State.openArray
  split
  · exact refl keyed
  · exact rebind keyed plain (.inl rfl) (.array [])

/-- Writing into the array of a variable touches this variable. -/
theorem writeOpened (keyed : first.WellKeyed []) {scope : String} (plain : Plain scope)
    (name : String) (path : List String) (value : Value) :
    Sweeps (atName scope name) [] first
      (((first.retain value).openArray scope name).2.writeCells
        ((first.retain value).openArray scope name).1 path value).2 := by
  have retained : Sweeps (atName scope name) [] first (first.retain value) := .retain keyed value
  have opened := retained.trans (openArray retained.keyed plain name)
  have written := Keeps.writeCells opened.keyed (bindingIn?_openArray _ _ _) path value
  exact opened.trans (of_keeps written fun _ => by rw [heap_writeCells])

theorem assignPath (keyed : first.WellKeyed []) (name : String) (path : List String)
    (value : Value) (scope : Option String) (plain : Plain (scope.getD first.frame.scope)) :
    Sweeps (atName (scope.getD first.frame.scope) name) [] first
      (first.assignPath name path value scope) :=
  have written := writeOpened keyed plain name path value
  written.trans (release written.keyed _)

end Sweeps

/-! ## Places of attributes -/

/-- An object that was live before and is gone afterwards had a declared attribute at this place. -/
def Vacated (before after : State) (place : Binding) : Prop :=
  ∃ handle className slot, before.classOf? handle = some className ∧
    slot ∈ before.attributeSlots handle className ∧
    before.bindingIn? globalScope slot = some place ∧ after.classOf? handle = none

/-- Objects go together with what their declared attributes lead to. Everything else stays. -/
structure Reclaims (before after : State) : Prop where
  classes : after.classes = before.classes
  live : ∀ {handle className}, after.classOf? handle = some className →
    before.classOf? handle = some className
  bound : ∀ {scope name place}, after.bindingIn? scope name = some place →
    before.bindingIn? scope name = some place
  kept : ∀ {scope name place}, before.bindingIn? scope name = some place →
    scope ≠ globalScope ∨ ¬ Vacated before after place → after.bindingIn? scope name = some place
  stored : ∀ {place}, ¬ Vacated before after place →
    after.storage.get? place = before.storage.get? place
  vacated : ∀ {place}, Vacated before after place → after.storage.get? place = none

section TakeAll

variable {state : State} {scope : String} {names : List String} {place : Binding}

theorem get?_take (state : State) (scope name : String) (place : Binding) :
    (state.take scope name).2.storage.get? place =
      if state.bindingIn? scope name = some place then none else state.storage.get? place := by
  unfold take
  cases found : state.bindingIn? scope name with
  | none => rw [if_neg nofun]
  | some other => simp only [Storage.get?_erase, Option.some.injEq, eq_comm]

/-- Values stay stored if none of the names that are taken leads to them. -/
theorem get?_takeAll_of_unbound
    (unbound : ∀ name ∈ names, state.bindingIn? scope name ≠ some place) :
    (state.takeAll scope names).2.storage.get? place = state.storage.get? place := by
  induction names generalizing state with
  | nil => rfl
  | cons first names ih =>
    have rest : ∀ name ∈ names, (state.take scope first).2.bindingIn? scope name ≠ some place := by
      intro name inside bound
      rw [bindingIn?_take] at bound
      split at bound
      · contradiction
      · exact unbound name (List.mem_cons_of_mem first inside) bound
    calc (state.takeAll scope (first :: names)).2.storage.get? place
        = (state.take scope first).2.storage.get? place := ih rest
      _ = state.storage.get? place := by
        rw [get?_take, if_neg (unbound first List.mem_cons_self)]

theorem get?_takeAll_of_none (missing : state.storage.get? place = none) :
    (state.takeAll scope names).2.storage.get? place = none := by
  induction names generalizing state with
  | nil => exact missing
  | cons first names ih =>
    have still : (state.take scope first).2.storage.get? place = none := by
      rw [get?_take, missing, ite_self]
    exact ih still

/-- Nothing is stored at a place that one of the names led to. -/
theorem get?_takeAll_of_bound {name : String} (inside : name ∈ names)
    (bound : state.bindingIn? scope name = some place) :
    (state.takeAll scope names).2.storage.get? place = none := by
  induction names generalizing state with
  | nil => contradiction
  | cons first names ih =>
    by_cases here : state.bindingIn? scope first = some place
    · have missing : (state.take scope first).2.storage.get? place = none := by
        rw [get?_take, if_pos here]
      show ((state.take scope first).2.takeAll scope names).2.storage.get? place = none
      exact get?_takeAll_of_none missing
    · have differs : first ≠ name := by
        rintro rfl
        exact here bound
      have still : (state.take scope first).2.bindingIn? scope name = some place := by
        rw [bindingIn?_take, if_neg fun same => differs same.2, bound]
      exact ih ((List.mem_cons.1 inside).resolve_left differs.symm) still

theorem classes_takeAll (state : State) (scope : String) (names : List String) :
    (state.takeAll scope names).2.classes = state.classes := by
  induction names generalizing state with
  | nil => rfl
  | cons first names ih =>
    have same : (state.take scope first).2.classes = state.classes := by
      unfold take
      split <;> rfl
    exact (ih _).trans same

end TakeAll

namespace Reclaims

variable {first second third state : State} {place : Binding}

theorem gone (reclaims : Reclaims first second) {handle : Handle}
    (missing : first.classOf? handle = none) : second.classOf? handle = none := by
  cases found : second.classOf? handle with
  | none => rfl
  | some className =>
    rw [reclaims.live found] at missing
    contradiction

theorem attributeSlots (reclaims : Reclaims first second) (handle : Handle) (className : String) :
    second.attributeSlots handle className = first.attributeSlots handle className := by
  unfold State.attributeSlots
  rw [reclaims.classes]

/-- A place that was vacated stays so. -/
theorem later (two : Reclaims second third) (given : Vacated first second place) :
    Vacated first third place := by
  rcases given with ⟨handle, className, slot, alive, inside, bound, missing⟩
  exact ⟨handle, className, slot, alive, inside, bound, two.gone missing⟩

/-- A place that is vacated belonged to the same object before. -/
theorem earlier (one : Reclaims first second) (given : Vacated second third place) :
    Vacated first third place := by
  rcases given with ⟨handle, className, slot, alive, inside, bound, missing⟩
  rw [one.attributeSlots] at inside
  exact ⟨handle, className, slot, one.live alive, inside, one.bound bound, missing⟩

/-- Where no object goes, nothing goes. -/
theorem of_heap (heap : Heap)
    (same : ∀ handle, { state with heap }.classOf? handle = state.classOf? handle) :
    Reclaims state { state with heap } := by
  have nowhere {place : Binding} : ¬ Vacated state { state with heap } place := by
    rintro ⟨handle, className, slot, alive, -, -, missing⟩
    rw [same, alive] at missing
    contradiction
  exact ⟨rfl, fun alive => (same _).symm.trans alive, id, fun bound _ => bound, fun _ => rfl,
    fun given => absurd given nowhere⟩

theorem refl : Reclaims state state :=
  of_heap state.heap fun _ => rfl

theorem trans (one : Reclaims first second) (two : Reclaims second third) :
    Reclaims first third where
  classes := two.classes.trans one.classes
  live alive := one.live (two.live alive)
  bound found := one.bound (two.bound found)
  kept bound stays :=
    two.kept (one.kept bound (stays.imp_right fun never given => never (two.later given)))
      (stays.imp_right fun never given => never (one.earlier given))
  stored never :=
    (two.stored fun given => never (one.earlier given)).trans
      (one.stored fun given => never (two.later given))
  vacated := by
    intro place given
    by_cases again : Vacated second third place
    · exact two.vacated again
    · rw [two.stored again]
      apply one.vacated
      rcases given with ⟨handle, className, slot, alive, inside, bound, missing⟩
      cases left : second.classOf? handle with
      | none => exact ⟨handle, className, slot, alive, inside, bound, left⟩
      | some className' =>
        obtain rfl : className = className' := Option.some.inj (alive.symm.trans (one.live left))
        rw [← one.attributeSlots] at inside
        -- The object is still there, so its attribute must have been taken with another one.
        apply Classical.byContradiction
        intro never
        exact again ⟨handle, className, slot, left, inside, one.kept bound (.inr never), missing⟩

theorem decrement (handle : Handle) :
    Reclaims state { state with heap := state.heap.decrement handle } :=
  of_heap _ fun other => classOf?_modify state handle other fun _ => rfl

section Reclaim

variable {handle : Handle} {className : String} (alive : state.classOf? handle = some className)
include alive

/-- Reclaiming an object vacates what its attributes lead to. -/
theorem vacated_reclaim_iff : Vacated state (state.reclaim handle className).2 place ↔
    ∃ slot ∈ state.attributeSlots handle className,
      state.bindingIn? globalScope slot = some place := by
  constructor
  · rintro ⟨other, className', slot, alive', inside, bound, missing⟩
    rw [classOf?_reclaim] at missing
    split at missing
    · next same =>
      subst same
      obtain rfl : className = className' := Option.some.inj (alive.symm.trans alive')
      exact ⟨slot, inside, bound⟩
    · rw [alive'] at missing
      contradiction
  · rintro ⟨slot, inside, bound⟩
    exact ⟨handle, className, slot, alive, inside, bound,
      (classOf?_reclaim state handle handle className).trans (if_pos rfl)⟩

theorem reclaim : Reclaims state (state.reclaim handle className).2 := by
  constructor
  case classes => exact classes_takeAll _ _ _
  case live =>
    intro other className' found
    rw [classOf?_reclaim] at found
    split at found
    · contradiction
    · exact found
  case bound => exact bindingIn?_of_reclaim
  case kept =>
    intro scope name place bound stays
    have outside : globalScope = scope → name ∉ state.attributeSlots handle className := by
      rintro rfl inside
      have given := (vacated_reclaim_iff alive).2 ⟨name, inside, bound⟩
      exact stays.elim (absurd rfl) (absurd given)
    exact (bindingIn?_takeAll_of_not_mem outside).trans bound
  case stored =>
    intro place never
    apply get?_takeAll_of_unbound
    intro slot inside bound
    exact never ((vacated_reclaim_iff alive).2 ⟨slot, inside, bound⟩)
  case vacated =>
    intro place given
    rcases (vacated_reclaim_iff alive).1 given with ⟨slot, inside, bound⟩
    exact get?_takeAll_of_bound inside bound

end Reclaim

theorem release (handles : List Handle) : Reclaims state (state.release handles) := by
  apply release_induction (motive := fun _ later => Reclaims state later)
  · intro later handle handles reclaims _
    exact reclaims.trans (decrement handle)
  · intro later handle handles object reclaims found _
    have alive : { later with heap := later.heap.decrement handle }.classOf? handle =
        some object.className := congrArg (Option.map Instance.className) found
    exact reclaims.trans ((decrement handle).trans (reclaim alive))
  · exact refl

end Reclaims

end State

end TagScript
