import Mathlib.Data.Finset.Filter
import Mathlib.Data.Finset.Range
import Mathlib.Data.List.Permutation
import Mathlib.Order.Bounds.Defs
import TagScript.Proofs.Agreement
import TagScript.Proofs.Chores

/-!
# The objects that go with a scope

An object goes when the handles of it that are released reach the number of its references. Those
in the values of the scope are released, and those in the attributes of the objects that go. What
goes is the least set that is closed under this rule (`State.IsClosed`): while a scope is dropped
nothing is released that such a set does not release (`Teardown.Trace.count_le_freed`), and in the
end everything is that the objects that are gone release (`Teardown.Trace.count_eq_freed`).
-/

namespace TagScript

/-- An object after it has lost some references, or none if it is gone. -/
def Instance.after (object : Instance) (lost : Nat) : Option Instance :=
  if 0 < lost ∧ object.references ≤ lost then none
  else some { object with references := object.references - lost }

namespace Instance

theorem after_succ (object : Instance) (lost : Nat) :
    object.after (lost + 1) = (object.after lost).bind Instance.lose := by
  unfold after
  by_cases gone : 0 < lost ∧ object.references ≤ lost
  · rw [if_pos gone, if_pos ⟨Nat.succ_pos lost, Nat.le_succ_of_le gone.2⟩, Option.bind_none]
  · rw [if_neg gone, Option.bind_some, lose]
    dsimp only
    by_cases last : object.references ≤ lost + 1
    · rw [if_pos ⟨Nat.succ_pos lost, last⟩, if_pos (by omega)]
    · rw [if_neg fun both => last both.2, if_neg (by omega), Nat.sub_sub]

theorem className_of_after {object later : Instance} {lost : Nat}
    (left : object.after lost = some later) : later.className = object.className := by
  unfold after at left
  split at left
  · contradiction
  · cases left
    rfl

theorem after_eq_none {object : Instance} {lost : Nat} :
    object.after lost = none ↔ 0 < lost ∧ object.references ≤ lost := by
  unfold after
  split
  · next gone => exact iff_of_true rfl gone
  · next left => exact iff_of_false (Option.some_ne_none _) left

end Instance

theorem Heap.mem_objects {heap : Heap} {handle : Handle} {object : Instance} :
    (handle, object) ∈ heap.objects ↔ heap.get? handle = some object := by
  simp [objects, get?, List.mem_filterMap, List.mem_zipIdx_iff_getElem?, Option.join_eq_some_iff]

namespace State

/-- The state without a scope. What was bound in it stays stored. -/
def forget (state : State) (scope : String) : State :=
  { state with scopes := state.scopes.erase scope }

theorem bindingIn?_forget (state : State) (scope scope' name : String) :
    (state.forget scope).bindingIn? scope' name =
      if scope = scope' then none else state.bindingIn? scope' name :=
  bindingIn?_erase state state.storage scope scope' name

theorem storage_forget (state : State) (scope : String) :
    (state.forget scope).storage = state.storage := rfl

/-- The places of the attributes that go with certain objects. -/
def slotPlaces (state : State) (gone : Finset Handle) : List Binding :=
  (state.heap.objects.filter (·.1 ∈ gone)).flatMap fun entry =>
    (state.attributeSlots entry.1 entry.2.className).filterMap (state.bindingIn? globalScope)

theorem mem_slotPlaces {state : State} {gone : Finset Handle} {place : Binding} :
    place ∈ state.slotPlaces gone ↔ ∃ handle ∈ gone, ∃ object,
      state.heap.get? handle = some object ∧ ∃ slot ∈ state.attributeSlots handle object.className,
        state.bindingIn? globalScope slot = some place := by
  simp only [slotPlaces, List.mem_flatMap, List.mem_filter, List.mem_filterMap, Prod.exists,
    Heap.mem_objects, decide_eq_true_eq]
  constructor
  · rintro ⟨handle, object, ⟨found, inside⟩, slot, member, bound⟩
    exact ⟨handle, inside, object, found, slot, member, bound⟩
  · rintro ⟨handle, inside, object, found, slot, member, bound⟩
    exact ⟨handle, object, ⟨found, inside⟩, slot, member, bound⟩

/-- The places that are cleared when a scope is dropped and certain objects go with it. -/
def vacated (state : State) (scope : String) (gone : Finset Handle) : List Binding :=
  (state.bindings scope).values ++ state.slotPlaces gone

/-- The handles that are released when a scope is dropped and certain objects go with it: those in
the values of the scope and in the attributes of the objects, each stored value once. -/
def freed (state : State) (scope : String) (gone : Finset Handle) : List Handle :=
  ((state.storage.takeAll (state.vacated scope gone)).1.map Prod.snd).flatMap Value.handles

theorem occurrences_vacated (state : State) (scope : String) (gone : Finset Handle)
    (handle : Handle) :
    (state.storage.takeAll (state.vacated scope gone)).2.occurrences handle +
      (state.freed scope gone).count handle = state.storage.occurrences handle := by
  rw [freed, Value.count_flatMap_handles]
  exact Storage.occurrences_takeAll _ _ _

/-- Every live object is among those that go if a handle of it is released and no fewer of its
handles are released than it has references. -/
def IsClosed (state : State) (scope : String) (gone : Finset Handle) : Prop :=
  ∀ handle object, state.heap.get? handle = some object →
    0 < (state.freed scope gone).count handle →
    object.references ≤ (state.freed scope gone).count handle → handle ∈ gone

/-- The objects that are live before and not after. -/
def lost (before after : State) : Finset Handle :=
  (Finset.range before.heap.next).filter fun handle =>
    (before.heap.get? handle).isSome ∧ after.heap.get? handle = none

theorem mem_lost {before after : State} {handle : Handle} : handle ∈ before.lost after ↔
    (before.heap.get? handle).isSome ∧ after.heap.get? handle = none := by
  rw [lost, Finset.mem_filter, Finset.mem_range, and_iff_right_iff_imp]
  rintro ⟨live, _⟩
  obtain ⟨object, found⟩ := Option.isSome_iff_exists.1 live
  exact Heap.lt_next_of_get? found

theorem mem_dismissed {state : State} {chore : Chore} {slot : String} :
    slot ∈ state.dismissed chore ↔ ∃ handle object, chore = .release handle ∧
      state.heap.get? handle = some object ∧ object.lose = none ∧
      slot ∈ state.attributeSlots handle object.className := by
  cases chore with
  | clear place => simp [dismissed]
  | unbind other => simp [dismissed]
  | release handle =>
    simp only [dismissed, Instance.lose]
    cases found : state.heap.get? handle with
    | none => simp [found]
    | some object => by_cases last : object.references ≤ 1 <;> simp [found, last]

end State

namespace Teardown

/-- The situation that arises from a state and the places to be cleared when certain chores have
been done. Nothing but the chores matters, and not their order. -/
structure Trace (base : State) (dropped : List Binding) (log : Multiset Chore)
    (later : Teardown) : Prop where
  classes : later.state.classes = base.classes
  heap : ∀ handle, later.state.heap.get? handle =
    (base.heap.get? handle).bind (·.after (log.count (.release handle)))
  binding : ∀ slot, later.state.bindingIn? globalScope slot =
    if .unbind slot ∈ log then none else base.bindingIn? globalScope slot
  stored : ∀ {place value}, later.state.storage.get? place = some value ↔
    base.storage.get? place = some value ∧ ∀ chore ∈ log, base.aim chore ≠ some place
  clears : ∀ {place}, .clear place ∈ later.pending + log ↔ place ∈ dropped
  unbinds : ∀ {slot}, .unbind slot ∈ later.pending + log ↔
    ∃ handle object, base.heap.get? handle = some object ∧
      later.state.heap.get? handle = none ∧ slot ∈ base.attributeSlots handle object.className
  releases : ∀ handle, later.state.storage.occurrences handle +
    (later.pending + log).count (.release handle) = base.storage.occurrences handle

namespace Trace

variable {base : State} {dropped : List Binding} {log : Multiset Chore} {before later : Teardown}

theorem start (base : State) (dropped : List Binding) :
    Trace base dropped 0 ⟨(dropped.map Chore.clear : List Chore), base⟩ where
  classes := rfl
  heap handle := by
    cases base.heap.get? handle with
    | none => rfl
    | some object => simp [Instance.after]
  binding slot := by simp
  stored := by simp
  clears := by simp
  unbinds := by
    intro slot
    simp only [add_zero, Multiset.mem_coe, List.mem_map, reduceCtorEq, and_false, exists_false,
      false_iff]
    rintro ⟨handle, object, live, gone, _⟩
    exact absurd (live.symm.trans gone) (Option.some_ne_none _)
  releases handle := by simp

/-- A place that no earlier chore has cleared is still cleared by the same chores. -/
theorem aim_iff (trace : Trace base dropped log later) {place : Binding}
    (fresh : ∀ chore ∈ log, base.aim chore ≠ some place) {chore : Chore} :
    later.state.aim chore = some place ↔ base.aim chore = some place := by
  cases chore with
  | clear other => rfl
  | unbind slot =>
    simp only [State.aim, trace.binding slot]
    split
    · next done => exact iff_of_false (Option.some_ne_none _).symm (fresh _ done)
    · rfl
  | release handle => rfl

/-- An object that is still live was live from the start, and of the same class. -/
theorem original (trace : Trace base dropped log later) {handle : Handle} {object : Instance}
    (found : later.state.heap.get? handle = some object) :
    ∃ original, base.heap.get? handle = some original ∧
      object.className = original.className := by
  rw [trace.heap handle] at found
  obtain ⟨original, known, left⟩ := Option.bind_eq_some_iff.1 found
  exact ⟨original, known, Instance.className_of_after left⟩

theorem step {chore : Chore} {rest : Multiset Chore} (trace : Trace base dropped log before)
    (next : before.pending = chore ::ₘ rest) :
    Trace base dropped (chore ::ₘ log)
      ⟨(before.state.perform chore).1 + rest, (before.state.perform chore).2⟩ := by
  -- Doing a chore moves it to the log; only the chores it yields are new.
  have total : ((before.state.perform chore).1 : Multiset Chore) + rest + chore ::ₘ log =
      ((before.state.perform chore).1 : Multiset Chore) + (before.pending + log) := by
    rw [next, Multiset.add_cons, Multiset.cons_add, Multiset.add_cons, add_assoc]
  constructor
  case classes => exact (State.perform_keeps before.state chore).2.1.trans trace.classes
  case heap =>
    intro handle
    dsimp only
    rw [State.heap_perform, trace.heap handle]
    by_cases hit : chore = .release handle
    · subst hit
      rw [if_pos rfl, Multiset.count_cons_self, Option.bind_assoc]
      simp only [Instance.after_succ]
    · rw [if_neg hit, Multiset.count_cons_of_ne (Ne.symm hit)]
  case binding =>
    intro slot
    dsimp only
    rw [State.bindingIn?_perform, trace.binding slot]
    by_cases hit : chore = .unbind slot
    · rw [if_pos hit, if_pos (hit ▸ Multiset.mem_cons_self chore log)]
    · rw [if_neg hit]
      simp only [Multiset.mem_cons, Ne.symm hit, false_or]
  case stored =>
    intro place value
    dsimp only
    rw [State.get?_perform, Multiset.forall_mem_cons]
    constructor
    · intro stored
      split at stored
      · contradiction
      · next miss =>
        obtain ⟨here, fresh⟩ := trace.stored.1 stored
        exact ⟨here, fun hit => miss ((trace.aim_iff fresh).2 hit), fresh⟩
    · rintro ⟨here, miss, fresh⟩
      rw [if_neg fun hit => miss ((trace.aim_iff fresh).1 hit)]
      exact trace.stored.2 ⟨here, fresh⟩
  case clears =>
    intro place
    dsimp only
    rw [total, Multiset.mem_add, trace.clears, or_iff_right_iff_imp, Multiset.mem_coe,
      State.perform_fst]
    simp
  case unbinds =>
    intro slot
    dsimp only
    have dismissal : Chore.unbind slot ∈ (before.state.perform chore).1 ↔
        slot ∈ before.state.dismissed chore := by
      simp [State.perform_fst]
    rw [total, Multiset.mem_add, trace.unbinds, Multiset.mem_coe, dismissal, State.mem_dismissed]
    constructor
    · rintro (⟨handle, object, hit, found, last, member⟩ | ⟨handle, object, known, gone, member⟩)
      · obtain ⟨original, known, same⟩ := trace.original found
        refine ⟨handle, original, known, ?_, ?_⟩
        · rw [State.heap_perform, if_pos hit, found, Option.bind_some, last]
        · rwa [State.attributeSlots, trace.classes, same] at member
      · refine ⟨handle, object, known, ?_, member⟩
        rw [State.heap_perform, gone, Option.bind_none, ite_self]
    · rintro ⟨handle, original, known, gone, member⟩
      rw [State.heap_perform] at gone
      cases found : before.state.heap.get? handle with
      | none => exact .inr ⟨handle, original, known, found, member⟩
      | some object =>
        obtain ⟨_, again, same⟩ := trace.original found
        cases again.symm.trans known
        rw [found] at gone
        split at gone
        · next hit =>
          refine .inl ⟨handle, object, hit, found, gone, ?_⟩
          rwa [State.attributeSlots, trace.classes, same]
        · contradiction
  case releases =>
    intro handle
    dsimp only
    have moved := State.occurrences_perform before.state chore handle
    rw [total, Multiset.count_add, Multiset.coe_count, ← add_assoc, moved, trace.releases handle]

/-- However far the teardown has come, it has got there by the chores in some log. -/
theorem exists_of_steps
    (steps : Relation.ReflTransGen Step ⟨(dropped.map Chore.clear : List Chore), base⟩ later) :
    ∃ log, Trace base dropped log later := by
  induction steps with
  | refl => exact ⟨0, start base dropped⟩
  | tail _ step ih =>
    obtain ⟨log, trace⟩ := ih
    obtain ⟨chore, rest, next, rfl⟩ := step
    exact ⟨chore ::ₘ log, trace.step next⟩

section Scope

variable {state : State} {scope : String} {gone : Finset Handle}
  (trace : Trace (state.forget scope) (state.bindings scope).values log later)

include trace

/-- While no other objects are gone, no other places than theirs and those of the scope have been
cleared. -/
theorem mem_vacated (inside : state.lost later.state ⊆ gone) {chore : Chore} {place : Binding}
    (done : chore ∈ log)
    (aimed : (state.forget scope).aim chore = some place) :
    place ∈ state.vacated scope gone := by
  have given := Multiset.mem_add.2 (.inr done : chore ∈ later.pending ∨ chore ∈ log)
  cases chore with
  | clear other =>
    cases aimed
    exact List.mem_append_left _ (trace.clears.1 given)
  | unbind slot =>
    obtain ⟨handle, object, known, dead, member⟩ := trace.unbinds.1 given
    simp only [State.aim, State.bindingIn?_forget] at aimed
    split at aimed
    · contradiction
    · refine List.mem_append_right _ (State.mem_slotPlaces.2 ⟨handle, ?_, object, known, slot,
        member, aimed⟩)
      exact inside (State.mem_lost.2 ⟨Option.isSome_of_eq_some known, dead⟩)
  | release handle => contradiction

/-- When everything is done, the places of the scope and of the objects that are gone have been
cleared. -/
theorem exists_of_mem_vacated (done : later.pending = 0) {place : Binding}
    (member : place ∈ state.vacated scope (state.lost later.state)) :
    ∃ chore ∈ log, (state.forget scope).aim chore = some place := by
  have cleared (inside : place ∈ (state.bindings scope).values) :
      ∃ chore ∈ log, (state.forget scope).aim chore = some place := by
    have given := trace.clears.2 inside
    rw [done, zero_add] at given
    exact ⟨_, given, rfl⟩
  obtain inside | inside := List.mem_append.1 member
  · exact cleared inside
  · obtain ⟨handle, dead, object, known, slot, declared, bound⟩ := State.mem_slotPlaces.1 inside
    -- The attributes are bound in the global scope, which may be the scope that is dropped.
    by_cases same : scope = globalScope
    · subst same
      exact cleared ((Table.mem_values _ _).2 ⟨slot, bound⟩)
    · have given := trace.unbinds.2 ⟨handle, object, known, (State.mem_lost.1 dead).2, declared⟩
      rw [done, zero_add] at given
      refine ⟨_, given, ?_⟩
      rw [State.aim, State.bindingIn?_forget, if_neg same, bound]

/-- While no other objects are gone, no other handles have come up for release. -/
theorem count_le_freed (inside : state.lost later.state ⊆ gone) (handle : Handle) :
    (later.pending + log).count (.release handle) ≤ (state.freed scope gone).count handle := by
  have same : (later.state.storage.takeAll (state.vacated scope gone)).2 =
      (state.storage.takeAll (state.vacated scope gone)).2 := by
    refine Storage.ext_get? fun place => ?_
    rw [Storage.get?_takeAll, Storage.get?_takeAll]
    split
    · rfl
    · next outside =>
      refine Option.ext fun value => ?_
      rw [trace.stored]
      exact and_iff_left fun chore done aimed => outside (trace.mem_vacated inside done aimed)
  have moved := trace.releases handle
  have whole := state.occurrences_vacated scope gone handle
  have rest := later.state.storage.occurrences_takeAll (state.vacated scope gone) handle
  rw [same] at rest
  rw [State.storage_forget] at moved
  omega

/-- When everything is done, the handles have been released that go with the objects that are
gone. -/
theorem count_eq_freed (done : later.pending = 0) (handle : Handle) :
    log.count (.release handle) = (state.freed scope (state.lost later.state)).count handle := by
  have same : later.state.storage =
      (state.storage.takeAll (state.vacated scope (state.lost later.state))).2 := by
    refine Storage.ext_get? fun place => Option.ext fun value => ?_
    rw [Storage.get?_takeAll, trace.stored]
    split
    · next inside =>
      obtain ⟨chore, logged, aimed⟩ := trace.exists_of_mem_vacated done inside
      exact iff_of_false (fun both => both.2 chore logged aimed) (Option.some_ne_none _).symm
    · next outside =>
      exact and_iff_left fun chore logged aimed =>
        outside (trace.mem_vacated Finset.Subset.rfl logged aimed)
  have moved := trace.releases handle
  have whole := state.occurrences_vacated scope (state.lost later.state) handle
  rw [same, done, zero_add, State.storage_forget] at moved
  omega

/-- What is gone when everything is done is what had to go. -/
theorem isClosed (done : later.pending = 0) : state.IsClosed scope (state.lost later.state) := by
  intro handle object found released enough
  rw [← trace.count_eq_freed done] at released enough
  refine State.mem_lost.2 ⟨Option.isSome_of_eq_some found, ?_⟩
  rw [trace.heap handle]
  exact (congrArg (Option.bind · _) found).trans (Instance.after_eq_none.2 ⟨released, enough⟩)

/-- An object that is gone has had as many handles released as it had references. -/
theorem after_of_lost {handle : Handle} (dead : handle ∈ state.lost later.state) :
    ∃ object, state.heap.get? handle = some object ∧ 0 < log.count (.release handle) ∧
      object.references ≤ log.count (.release handle) := by
  obtain ⟨live, missing⟩ := State.mem_lost.1 dead
  obtain ⟨object, found⟩ := Option.isSome_iff_exists.1 live
  rw [trace.heap handle] at missing
  refine ⟨object, found, Instance.after_eq_none.1 ?_⟩
  exact (congrArg (Option.bind · _) found).symm.trans missing

end Scope

/-- Nothing goes that need not go. -/
theorem lost_subset {state : State} {scope : String} {gone : Finset Handle}
    (closed : state.IsClosed scope gone)
    (steps : Relation.ReflTransGen Step
      ⟨((state.bindings scope).values.map Chore.clear : List Chore), state.forget scope⟩ later) :
    state.lost later.state ⊆ gone := by
  induction steps with
  | refl =>
    intro handle dead
    obtain ⟨live, missing⟩ := State.mem_lost.1 dead
    rw [Option.isSome_iff_ne_none] at live
    exact absurd missing live
  | tail steps step inside =>
    intro handle dead
    obtain ⟨log, trace⟩ := exists_of_steps steps
    obtain ⟨chore, rest, next, rfl⟩ := step
    obtain ⟨object, found, released, enough⟩ := (trace.step next).after_of_lost dead
    -- What has been done by now had come up for release before this step.
    have due : (chore ::ₘ log).count (.release handle) ≤
        (state.freed scope gone).count handle := by
      refine le_trans (Multiset.count_le_of_le _ ?_) (trace.count_le_freed inside handle)
      rw [next, Multiset.cons_add]
      exact Multiset.cons_le_cons chore (Multiset.le_add_left log rest)
    exact closed handle object found (released.trans_le due) (enough.trans due)

end Trace
end Teardown

namespace State

open Relation

/-- Dropping a scope gets everything done that it entails. -/
theorem steps_drop (state : State) (scope : String) :
    ReflTransGen Teardown.Step ⟨((state.bindings scope).values.map Chore.clear : List Chore),
      state.forget scope⟩ ⟨0, state.drop scope⟩ := by
  have steps := Teardown.steps_clear (state.forget scope) (state.bindings scope).values 0
  rw [add_zero] at steps
  rw [drop_eq]
  exact steps

theorem isLeast_lost (state : State) (scope : String) :
    IsLeast {gone | state.IsClosed scope gone} (state.lost (state.drop scope)) := by
  obtain ⟨log, trace⟩ := Teardown.Trace.exists_of_steps (state.steps_drop scope)
  refine ⟨trace.isClosed rfl, fun gone closed => ?_⟩
  have inside := Teardown.Trace.lost_subset closed (state.steps_drop scope)
  exact inside

/-- Dropping a scope comes to an end however the chores are ordered, and all orders end alike. The
objects that go are the fewest of which this can be said: a live object goes if a handle of it is
released, and as many as it has references, by the scope or by the attributes of objects that go. -/
theorem drop_in_any_order (state : State) (scope : String) :
    WellFounded (fun after before => Teardown.Step before after) ∧
    (∀ order, order.Perm (state.bindings scope).values →
      (state.forget scope).clear order = state.drop scope ∧
      ∀ last, ReflTransGen Teardown.Step ⟨(order.map Chore.clear : List Chore),
        state.forget scope⟩ ⟨0, last⟩ → last = state.drop scope) ∧
    IsLeast {gone | state.IsClosed scope gone} (state.lost (state.drop scope)) := by
  refine ⟨Teardown.wellFounded_step, ?_, state.isLeast_lost scope⟩
  intro order reordered
  have same : ((order.map Chore.clear : List Chore) : Multiset Chore) =
      ((state.bindings scope).values.map Chore.clear : List Chore) :=
    Multiset.coe_eq_coe.2 (reordered.map _)
  have cleared := Teardown.steps_clear (state.forget scope) order 0
  rw [add_zero, same] at cleared
  refine ⟨Teardown.eq_of_done cleared (state.steps_drop scope), fun last steps => ?_⟩
  rw [same] at steps
  exact Teardown.eq_of_done steps (state.steps_drop scope)

/-- Two objects that hold each other, and two more of which one holds the other. A scope holds one
of the first, and both of the others, one of them in an array. -/
def tangled : State :=
  ({ classes := (∅ : Table ClassDecl).insert "C" ⟨.anyone, "C", [⟨.anyone, "n", none⟩], []⟩
     heap := ⟨#[some ⟨0, "C", 2⟩, some ⟨1, "C", 1⟩, some ⟨2, "C", 1⟩, some ⟨3, "C", 2⟩]⟩ } : State)
    |>.setBinding globalScope "0::n" "0::n" (.object 1)
    |>.setBinding globalScope "1::n" "1::n" (.object 0)
    |>.setBinding globalScope "2::n" "2::n" (.object 3)
    |>.setBinding "f" "x" "f#x" (.object 0)
    |>.setBinding "f" "y" "f#y" (.object 2)
    |>.setBinding "f" "z" "f#z" (.array [("k", .object 3)])

/-- The scope lets go of three objects. The one that is held in a cycle stays, and the one in the
array goes when the attribute has let go of it too. -/
theorem drop_in_any_order_of_tangled :
    [⟨.array, "f#z"⟩, ⟨.object, "f#y"⟩, ⟨.object, "f#x"⟩].Perm (tangled.bindings "f").values ∧
    (tangled.forget "f").clear
      [⟨.array, "f#z"⟩, ⟨.object, "f#y"⟩, ⟨.object, "f#x"⟩] = tangled.drop "f" ∧
    (tangled.drop "f").heap = ⟨#[some ⟨0, "C", 1⟩, some ⟨1, "C", 1⟩, none, none]⟩ ∧
    IsLeast {gone | tangled.IsClosed "f" gone} {2, 3} := by
  have values : (tangled.bindings "f").values =
      [⟨.object, "f#x"⟩, ⟨.object, "f#y"⟩, ⟨.array, "f#z"⟩] := by cbv
  have before : tangled.heap =
      ⟨#[some ⟨0, "C", 2⟩, some ⟨1, "C", 1⟩, some ⟨2, "C", 1⟩, some ⟨3, "C", 2⟩]⟩ := by cbv
  have after : (tangled.drop "f").heap =
      ⟨#[some ⟨0, "C", 1⟩, some ⟨1, "C", 1⟩, none, none]⟩ := by cbv
  have lost : tangled.lost (tangled.drop "f") = {2, 3} := by
    simp only [State.lost, before, after]
    decide
  have reordered : [⟨.array, "f#z"⟩, ⟨.object, "f#y"⟩, ⟨.object, "f#x"⟩].Perm
      (tangled.bindings "f").values := by
    rw [values]
    decide
  obtain ⟨_, orders, least⟩ := drop_in_any_order tangled "f"
  exact ⟨reordered, (orders _ reordered).1, after, lost ▸ least⟩

end State
end TagScript
