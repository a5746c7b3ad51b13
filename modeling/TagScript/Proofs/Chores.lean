import Mathlib.Algebra.Order.Group.Multiset
import Mathlib.Data.List.Count
import Mathlib.Data.Prod.Lex
import Mathlib.Logic.Relation
import TagScript.Proofs.Movements

/-!
# What a dropped scope leaves to do

Dropping a scope clears places, which releases objects, which unbinds their attributes, and so on.
Here each of these is a `Chore` of its own, and any chore that is left may be done next
(`Teardown.Step`). Different chores commute, so all orders that get everything done end in the same
state (`Teardown.eq_of_done`), and there is no way to go on forever (`Teardown.wellFounded_step`).
Clearing places one by one, with the whole cascade after each, is one of these orders
(`Teardown.steps_clear`).
-/

namespace TagScript

namespace Table

variable {α : Type}

theorem erase_comm (table : Table α) (key other : String) :
    (table.erase key).erase other = (table.erase other).erase key := by
  apply ext_get?
  intro name
  simp only [get?_erase]
  split <;> split <;> rfl

/-- The number of keys is a sum that gives each of them the weight one. -/
theorem total_one (table : Table α) : table.total (fun _ => 1) = table.size := by
  unfold total size
  induction table.entries with
  | nil => rfl
  | cons entry rest ih => rw [Entries.total_cons, ih, List.length_cons, Nat.add_comm]

theorem size_erase (table : Table α) (key : String) :
    (table.erase key).size + (table.get? key).elim 0 (fun _ => 1) = table.size := by
  rw [← total_one, ← total_one]
  exact table.total_erase (fun _ => 1) key

end Table

theorem Storage.size_erase (storage : Storage) (place : Binding) :
    (storage.erase place).size + (storage.get? place).elim 0 (fun _ => 1) = storage.size := by
  obtain ⟨slot, key⟩ := place
  cases slot with
  | scalar =>
    have given := storage.scalars.size_erase key
    simp only [size, erase, get?, Option.elim_map, Function.comp_def]
    omega
  | array =>
    have given := storage.arrays.size_erase key
    simp only [size, erase, get?, Option.elim_map, Function.comp_def]
    grind
  | object =>
    have given := storage.handles.size_erase key
    simp only [size, erase, get?, Option.elim_map, Function.comp_def]
    omega

/-- One thing that is left to do while a scope is dropped. -/
inductive Chore
  /-- Clears a place that the scope led to. -/
  | clear (place : Binding)
  /-- Unbinds an attribute of an object that is gone. -/
  | unbind (slot : String)
  /-- Takes one reference from an object. -/
  | release (handle : Handle)
  deriving DecidableEq

/-- An object after it has lost one reference: without any it is gone. -/
def Instance.lose (object : Instance) : Option Instance :=
  if object.references ≤ 1 then none
  else some { object with references := object.references - 1 }

/-- The slot that a chore unbinds. -/
def Chore.slot? : Chore → Option String
  | unbind slot => some slot
  | _ => none

namespace State

/-- Does one thing. The first result lists what is left to do because of it. -/
def perform (state : State) : Chore → List Chore × State
  | .clear place =>
    (((state.storage.get? place).toList.flatMap Value.handles).map .release,
      { state with storage := state.storage.erase place })
  | .unbind slot =>
    let (value, later) := state.take globalScope slot
    ((value.toList.flatMap Value.handles).map .release, later)
  | .release handle =>
    let counted := { state with heap := state.heap.decrement handle }
    match counted.heap.get? handle with
    | none => ([], counted)
    | some object =>
      if object.references = 0 then
        ((counted.attributeSlots handle object.className).map .unbind,
          { counted with heap := counted.heap.remove handle })
      else ([], counted)

/-- The place that a chore clears. -/
def aim (state : State) : Chore → Option Binding
  | .clear place => some place
  | .unbind slot => state.bindingIn? globalScope slot
  | .release _ => none

/-- The handles in the value that a chore clears. -/
def yields (state : State) (chore : Chore) : List Handle :=
  ((state.aim chore).bind state.storage.get?).toList.flatMap Value.handles

/-- The slots of the object that a chore reclaims. -/
def dismissed (state : State) : Chore → List String
  | .release handle =>
    match state.heap.get? handle with
    | some object =>
      if object.references ≤ 1 then state.attributeSlots handle object.className else []
    | none => []
  | _ => []

/-- An object that has a reference left, or is gone already, is passed over. -/
theorem perform_of_referenced {state : State} {handle : Handle}
    (referenced : (state.heap.decrement handle).references? handle ≠ some 0) :
    state.perform (.release handle) =
      ([], { state with heap := state.heap.decrement handle }) := by
  simp only [perform]
  split
  · rfl
  · next object found =>
    refine if_neg fun unreferenced => referenced ?_
    rw [Heap.references?, found, Option.map_some, unreferenced]

/-- An object without a reference left is removed, and its attributes are left to unbind. -/
theorem perform_of_unreferenced {state : State} {handle : Handle} {object : Instance}
    (found : (state.heap.decrement handle).get? handle = some object)
    (unreferenced : object.references = 0) :
    state.perform (.release handle) =
      ((state.attributeSlots handle object.className).map .unbind,
        { state with heap := (state.heap.decrement handle).remove handle }) := by
  simp only [perform, found, unreferenced, if_true]
  rfl

/-- What a chore leaves to do: the handles at the place that it clears lose a reference, and the
attributes of the object that it reclaims are unbound. -/
theorem perform_fst (state : State) (chore : Chore) : (state.perform chore).1 =
    (state.yields chore).map .release ++ (state.dismissed chore).map .unbind := by
  cases chore with
  | clear place => simp [perform, yields, aim, dismissed]
  | unbind slot =>
    simp only [perform, yields, aim, dismissed, take]
    cases state.bindingIn? globalScope slot <;> simp
  | release handle =>
    simp only [perform, yields, aim, dismissed, Heap.decrement, Heap.get?_modify, if_true]
    cases found : state.heap.get? handle with
    | none => simp
    | some object =>
      by_cases last : object.references ≤ 1
      · have : object.references - 1 = 0 := by omega
        simp [last, this]
        rfl
      · have : object.references - 1 ≠ 0 := by omega
        simp [last, this]

section Views

variable (state : State)

/-- What is declared and which frame is running does not change. -/
theorem perform_keeps (chore : Chore) :
    (state.perform chore).2.functions = state.functions ∧
      (state.perform chore).2.classes = state.classes ∧
      (state.perform chore).2.frame = state.frame := by
  cases chore with
  | clear place => exact ⟨rfl, rfl, rfl⟩
  | unbind slot =>
    simp only [perform, take]
    split <;> exact ⟨rfl, rfl, rfl⟩
  | release handle =>
    simp only [perform]
    split
    · exact ⟨rfl, rfl, rfl⟩
    · split <;> exact ⟨rfl, rfl, rfl⟩

theorem storage_perform (chore : Chore) : (state.perform chore).2.storage =
    (state.aim chore).elim state.storage state.storage.erase := by
  cases chore with
  | clear place => rfl
  | unbind slot =>
    simp only [perform, take, aim]
    split <;> next found => rw [found]; rfl
  | release handle =>
    simp only [perform]
    split
    · rfl
    · split <;> rfl

theorem get?_perform (chore : Chore) (place : Binding) :
    (state.perform chore).2.storage.get? place =
      if state.aim chore = some place then none else state.storage.get? place := by
  rw [storage_perform]
  cases aimed : state.aim chore with
  | none => simp
  | some target => simp [Storage.get?_erase, eq_comm]

/-- The handles in what a chore clears are left to release. -/
theorem occurrences_perform (chore : Chore) (handle : Handle) :
    (state.perform chore).2.storage.occurrences handle +
        (state.perform chore).1.count (.release handle) =
      state.storage.occurrences handle := by
  have others : ((state.dismissed chore).map Chore.unbind).count (.release handle) = 0 := by
    simp [List.count_eq_zero]
  have released (handles : List Handle) :
      (handles.map Chore.release).count (.release handle) = handles.count handle :=
    List.count_map_of_injective handles _ (fun _ _ => Chore.release.inj) handle
  rw [storage_perform, perform_fst, List.count_append, others, released, yields,
    Value.count_flatMap_handles, Value.occurrencesIn_toList]
  cases state.aim chore with
  | none => rfl
  | some place => exact state.storage.occurrences_erase place handle

theorem bindingIn?_perform (chore : Chore) (slot : String) :
    (state.perform chore).2.bindingIn? globalScope slot =
      if chore = .unbind slot then none else state.bindingIn? globalScope slot := by
  cases chore with
  | clear place => rfl
  | unbind other =>
    simp only [perform, bindingIn?_take, true_and, Chore.unbind.injEq]
  | release handle =>
    simp only [perform]
    split
    · rfl
    · split <;> rfl

/-- Taking a variable out of the state leaves the other bindings of its scope, if that exists. -/
theorem scopes_take (scope name other : String) :
    (state.take scope name).2.scopes.get? other = (state.scopes.get? other).map fun table =>
      if other = scope then table.erase name else table := by
  unfold take
  cases bound : state.bindingIn? scope name with
  | none =>
    cases found : state.scopes.get? other with
    | none => rfl
    | some table =>
      refine congrArg some ?_
      split
      · next same =>
        rw [← same, bindingIn?_of_get? found] at bound
        exact (Table.erase_of_none bound).symm
      · rfl
  | some place =>
    refine (Table.get?_insert _ scope other _).trans ?_
    by_cases same : scope = other
    · subst same
      cases found : state.scopes.get? scope with
      | none =>
        rw [bindingIn?_of_missing found] at bound
        contradiction
      | some table => simp [bindings, found]
    · simp [same, Ne.symm same]

theorem scopes_perform (chore : Chore) (scope : String) :
    (state.perform chore).2.scopes.get? scope = (state.scopes.get? scope).map fun table =>
      if scope = globalScope then chore.slot?.elim table table.erase else table := by
  cases chore with
  | clear place => simp [perform, Chore.slot?]
  | unbind slot => exact state.scopes_take globalScope slot scope
  | release handle =>
    simp only [perform, Chore.slot?]
    split
    · simp
    · split <;> simp

theorem next_perform (chore : Chore) : (state.perform chore).2.heap.next = state.heap.next := by
  cases chore with
  | clear place => rfl
  | unbind slot =>
    simp only [perform, heap_take]
  | release handle =>
    simp only [perform]
    split
    · exact Heap.next_decrement _ _
    · split <;> simp

theorem heap_perform (chore : Chore) (handle : Handle) :
    (state.perform chore).2.heap.get? handle =
      if chore = .release handle then (state.heap.get? handle).bind Instance.lose
      else state.heap.get? handle := by
  cases chore with
  | clear place => rfl
  | unbind slot => simp [perform, heap_take]
  | release other =>
    simp only [perform, Heap.decrement, Heap.get?_modify, if_true, Chore.release.injEq]
    cases found : state.heap.get? other with
    | none =>
      simp only [Option.map_none, Heap.get?_modify]
      split
      · next same => simp [← same, found]
      · rfl
    | some object =>
      simp only [Option.map_some]
      split
      · next last =>
        simp only [Heap.get?_remove, Heap.get?_modify]
        split
        · next same =>
          rw [← same, found, Option.bind_some, Instance.lose, if_pos (by omega)]
        · rfl
      · next left =>
        simp only [Heap.get?_modify]
        split
        · next same =>
          rw [← same, found, Option.bind_some, Instance.lose, if_neg (by omega), Option.map_some]
        · rfl

/-- An object is reclaimed, or no slots are left to unbind. -/
theorem live_perform (chore : Chore) :
    (state.perform chore).2.heap.live + 1 = state.heap.live ∨
      (state.perform chore).2.heap.live = state.heap.live ∧ state.dismissed chore = [] := by
  cases chore with
  | clear place => exact .inr ⟨rfl, rfl⟩
  | unbind slot =>
    refine .inr ⟨?_, rfl⟩
    simp only [perform, heap_take]
  | release handle =>
    simp only [perform, dismissed, Heap.decrement, Heap.get?_modify, if_true]
    cases found : state.heap.get? handle with
    | none => exact .inr ⟨Heap.live_modify _ _ _, rfl⟩
    | some object =>
      simp only [Option.map_some]
      split
      · next last =>
        refine .inl ?_
        rw [← Heap.live_modify state.heap handle fun object =>
          { object with references := object.references - 1 }]
        exact Heap.live_remove (by rw [Heap.get?_modify, if_pos rfl, found, Option.map_some])
      · next left => exact .inr ⟨Heap.live_modify _ _ _, if_neg (by omega)⟩

/-- A value is cleared, or no handles are left to release. -/
theorem size_perform (chore : Chore) :
    (state.perform chore).2.storage.size + 1 = state.storage.size ∨
      (state.perform chore).2.storage.size = state.storage.size ∧ state.yields chore = [] := by
  rw [storage_perform, yields]
  cases state.aim chore with
  | none => exact .inr ⟨rfl, rfl⟩
  | some place =>
    have given := state.storage.size_erase place
    rw [Option.bind_some]
    cases found : state.storage.get? place with
    | none =>
      rw [found] at given
      exact .inr ⟨given, rfl⟩
    | some value =>
      rw [found] at given
      exact .inl given

end Views

/-- States that look the same in every respect are equal. -/
theorem eq_of_views {first second : State}
    (scopes : ∀ scope, first.scopes.get? scope = second.scopes.get? scope)
    (storage : ∀ place, first.storage.get? place = second.storage.get? place)
    (next : first.heap.next = second.heap.next)
    (heap : ∀ handle, first.heap.get? handle = second.heap.get? handle)
    (rest : first.functions = second.functions ∧ first.classes = second.classes ∧
      first.frame = second.frame) : first = second := by
  have scopes := Table.ext_get? scopes
  have storage := Storage.ext_get? storage
  have heap := Heap.ext_get? next heap
  obtain ⟨functions, classes, frame⟩ := rest
  cases first
  cases second
  simp_all only

section Commutation

variable (state : State) {one other : Chore} (differ : one ≠ other)
include differ

theorem aim_perform : (state.perform one).2.aim other = state.aim other := by
  cases other with
  | clear place => rfl
  | unbind slot => exact (state.bindingIn?_perform one slot).trans (if_neg differ)
  | release handle => rfl

theorem dismissed_perform : (state.perform one).2.dismissed other = state.dismissed other := by
  cases other with
  | clear place => rfl
  | unbind slot => rfl
  | release handle =>
    simp only [dismissed, heap_perform, if_neg differ, attributeSlots,
      (state.perform_keeps one).2.1]

/-- If both clear one place, its value is found by the one that comes first. -/
theorem yields_perform : (state.perform one).2.yields other =
    if state.aim one = state.aim other then [] else state.yields other := by
  unfold yields
  rw [aim_perform state differ]
  cases state.aim other with
  | none => simp
  | some place =>
    rw [Option.bind_some, get?_perform]
    split
    · rfl
    · rfl

/-- It does not matter which of two chores is done first. -/
theorem perform_comm :
    ((state.perform one).2.perform other).2 = ((state.perform other).2.perform one).2 := by
  apply eq_of_views
  · intro scope
    simp only [scopes_perform, Option.map_map]
    congr 1
    funext table
    simp only [Function.comp_apply]
    split
    · cases one.slot? <;> cases other.slot? <;> simp [Table.erase_comm table]
    · rfl
  · intro place
    rw [get?_perform, get?_perform, get?_perform, get?_perform, aim_perform state differ,
      aim_perform state differ.symm]
    split <;> split <;> rfl
  · simp only [next_perform]
  · intro handle
    rw [heap_perform, heap_perform, heap_perform, heap_perform]
    by_cases here : one = .release handle
    · have there : other ≠ .release handle := fun same => differ (here.trans same.symm)
      rw [if_neg there, if_pos here, if_pos here, if_neg there]
    · rw [if_neg here, if_neg here]
  · simp only [perform_keeps, and_self]

/-- Nor does it change what is left to do. -/
theorem perform_perm :
    ((state.perform one).1 ++ ((state.perform one).2.perform other).1).Perm
      ((state.perform other).1 ++ ((state.perform other).2.perform one).1) := by
  simp only [perform_fst, yields_perform state differ, yields_perform state differ.symm,
    dismissed_perform state differ, dismissed_perform state differ.symm]
  by_cases same : state.aim one = state.aim other
  · have found : state.yields one = state.yields other := by rw [yields, yields, same]
    rw [if_pos same, if_pos same.symm, found, List.map_nil, List.nil_append, List.nil_append,
      List.append_assoc, List.append_assoc]
    exact List.perm_append_comm.append_left _
  · rw [if_neg same, if_neg (Ne.symm same)]
    exact List.perm_append_comm

end Commutation

end State

/-! ## Doing the chores in any order -/

/-- A state, and what is left to do to it. -/
structure Teardown where
  pending : Multiset Chore
  state : State

namespace Teardown

open Relation

/-- Some chore is done, whichever it is. -/
def Step (before after : Teardown) : Prop :=
  ∃ chore rest, before.pending = chore ::ₘ rest ∧
    after = ⟨(before.state.perform chore).1 + rest, (before.state.perform chore).2⟩

/-- Two different steps from the same situation lead to a common one in one step each. -/
theorem Step.diamond {start one other : Teardown} (first : Step start one)
    (second : Step start other) : one = other ∨ ∃ last, Step one last ∧ Step other last := by
  obtain ⟨chore, rest, here, rfl⟩ := first
  obtain ⟨chore', rest', here', rfl⟩ := second
  rw [here] at here'
  obtain ⟨rfl, rfl⟩ | ⟨differ, common, rfl, rfl⟩ := Multiset.cons_eq_cons.1 here'
  · exact .inl rfl
  · refine .inr ⟨_, ⟨chore', _, Multiset.add_cons _ _ _, rfl⟩,
      ⟨chore, _, Multiset.add_cons _ _ _, ?_⟩⟩
    have left := Multiset.coe_eq_coe.2 (start.state.perform_perm differ)
    rw [← Multiset.coe_add, ← Multiset.coe_add] at left
    rw [State.perform_comm _ differ, ← add_assoc, ← add_assoc, add_comm (Multiset.ofList _), left,
      add_comm (Multiset.ofList (State.perform _ chore).1)]

/-- The order does not matter: whoever gets everything done ends in the same state. -/
theorem eq_of_done {start : Teardown} {first second : State}
    (one : ReflTransGen Step start ⟨0, first⟩) (other : ReflTransGen Step start ⟨0, second⟩) :
    first = second := by
  have done {state : State} {last : Teardown} (steps : ReflTransGen Step ⟨0, state⟩ last) :
      last = ⟨0, state⟩ := by
    obtain same | ⟨_, ⟨chore, rest, impossible, _⟩, _⟩ := steps.cases_head
    · exact same.symm
    · exact absurd impossible.symm (Multiset.cons_ne_zero)
  obtain ⟨last, here, there⟩ := church_rosser (fun start one other first second => by
    obtain rfl | ⟨last, up, down⟩ := Step.diamond first second
    · exact ⟨one, .refl, .refl⟩
    · exact ⟨last, .single up, .single down⟩) one other
  have same := (done here).symm.trans (done there)
  exact congrArg Teardown.state same

/-- What a step can only make smaller: the objects and values that are left, and then the chores. -/
def weight (teardown : Teardown) : Nat ×ₗ Nat :=
  toLex (teardown.state.heap.live + teardown.state.storage.size, teardown.pending.card)

theorem Step.weight_lt {before after : Teardown} (step : Step before after) :
    after.weight < before.weight := by
  obtain ⟨chore, rest, here, rfl⟩ := step
  rw [weight, weight, Prod.Lex.toLex_lt_toLex, here]
  have live := before.state.live_perform chore
  have size := before.state.size_perform chore
  by_cases idle : before.state.dismissed chore = [] ∧ before.state.yields chore = []
  · have nothing : (before.state.perform chore).1 = [] := by
      rw [State.perform_fst, idle.1, idle.2]
      rfl
    dsimp only
    rw [nothing, Multiset.coe_nil, zero_add, Multiset.card_cons]
    omega
  · dsimp only
    refine .inl ?_
    rcases live with fewer | ⟨same, none⟩
    · omega
    · rcases size with fewer | ⟨_, nothing⟩
      · omega
      · exact absurd ⟨none, nothing⟩ idle

/-- Whatever is done first, there is an end to it. -/
theorem wellFounded_step : WellFounded fun after before => Step before after :=
  Subrelation.wf Step.weight_lt (InvImage.wf weight wellFounded_lt)

/-! ## The order that is taken -/

theorem step_cons (chore : Chore) (chores : List Chore) (rest : Multiset Chore) (state : State) :
    Step ⟨(chore :: chores : List Chore) + rest, state⟩
      ⟨(state.perform chore).1 + (chores + rest), (state.perform chore).2⟩ :=
  ⟨chore, chores + rest, by rw [← Multiset.cons_coe, Multiset.cons_add], rfl⟩

/-- The attributes of an object are unbound one after another. -/
theorem steps_takeAll (state : State) (slots : List String) (rest : Multiset Chore) :
    ReflTransGen Step ⟨(slots.map Chore.unbind : List Chore) + rest, state⟩
      ⟨(((state.takeAll globalScope slots).1.flatMap Value.handles).map Chore.release :
          List Chore) + rest,
        (state.takeAll globalScope slots).2⟩ := by
  induction slots generalizing state rest with
  | nil => exact .refl
  | cons slot slots ih =>
    refine .head (step_cons (.unbind slot) (slots.map Chore.unbind) rest state) ?_
    have others := ih (state.take globalScope slot).2 ((state.perform (.unbind slot)).1 + rest)
    rw [add_left_comm, add_left_comm (Multiset.ofList (List.map Chore.release _))] at others
    simp only [State.takeAll, List.flatMap_append, List.map_append, ← Multiset.coe_add, add_assoc]
    exact others

/-- A cascade of releases gets all its chores done. -/
theorem steps_release (state : State) (handles : List Handle) (rest : Multiset Chore) :
    ReflTransGen Step ⟨(handles.map Chore.release : List Chore) + rest, state⟩
      ⟨rest, state.release handles⟩ := by
  have steps : ReflTransGen Step ⟨(handles.map Chore.release : List Chore) + rest, state⟩
      ⟨(([] : List Handle).map Chore.release : List Chore) + rest, state.release handles⟩ := by
    refine State.release_induction (motive := fun left later =>
      ReflTransGen Step ⟨(handles.map Chore.release : List Chore) + rest, state⟩
        ⟨(left.map Chore.release : List Chore) + rest, later⟩) ?_ ?_ .refl
    · intro later handle left steps referenced
      have step := step_cons (.release handle) (left.map Chore.release) rest later
      rw [State.perform_of_referenced referenced, Multiset.coe_nil, zero_add] at step
      exact steps.tail step
    · intro later handle left object steps found unreferenced
      have step := step_cons (.release handle) (left.map Chore.release) rest later
      rw [State.perform_of_unreferenced found unreferenced] at step
      have taken := steps_takeAll { later with heap := (later.heap.decrement handle).remove handle }
        (later.attributeSlots handle object.className) (left.map Chore.release + rest)
      rw [List.map_append, ← Multiset.coe_add, add_assoc]
      exact (steps.tail step).trans taken
  simpa using steps

/-- Clearing places one after another gets everything done. -/
theorem steps_clear (state : State) (places : List Binding) (rest : Multiset Chore) :
    ReflTransGen Step ⟨(places.map Chore.clear : List Chore) + rest, state⟩
      ⟨rest, state.clear places⟩ := by
  induction places generalizing state with
  | nil => simpa [State.clear] using ReflTransGen.refl
  | cons place places ih =>
    refine .head (step_cons (.clear place) (places.map Chore.clear) rest state) ?_
    unfold State.clear
    cases found : state.storage.get? place with
    | none =>
      have unchanged : state.perform (.clear place) = ([], state) := by
        simp [State.perform, found, Storage.erase_of_none found]
      rw [unchanged, Multiset.coe_nil, zero_add]
      exact ih state
    | some value =>
      have cleared : state.perform (.clear place) = (value.handles.map .release,
          { state with storage := state.storage.erase place }) := by
        simp [State.perform, found]
      rw [cleared]
      exact (steps_release _ value.handles _).trans (ih _)

end Teardown

end TagScript
