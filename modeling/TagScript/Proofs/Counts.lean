import TagScript.Proofs.Occurrences
import TagScript.Proofs.WellKeyed

/-!
# Counts and what is in transit

Between two statements an object counts the stored values that hold its handle. While a statement
runs, more is counted than what is stored: arguments of a call under way, the receiver, a result
that is being handed over, the variables of suspended activations. And less may be referenced than
what is in use: an expression has produced an object that nobody has stored yet. A `Transit` lists
both, and `State.Counts` says what the counts are in its presence. The changes that the machine
makes to counts and stored values move handles from one list of the transit to another, or between
the transit and the storage; each lemma here says which.
-/

namespace TagScript

namespace Heap

@[simp] theorem next_modify (heap : Heap) (handle : Handle) (change : Instance → Instance) :
    (heap.modify handle change).next = heap.next := by
  simp [next, modify]

@[simp] theorem next_retain (heap : Heap) (handle : Handle) :
    (heap.retain handle).next = heap.next :=
  next_modify heap handle _

@[simp] theorem next_decrement (heap : Heap) (handle : Handle) :
    (heap.decrement handle).next = heap.next :=
  next_modify heap handle _

@[simp] theorem next_remove (heap : Heap) (handle : Handle) :
    (heap.remove handle).next = heap.next := by
  simp [next, remove]

theorem next_allocate (heap : Heap) (className : String) :
    (heap.allocate className).next = heap.next + 1 := by
  simp [next, allocate]

@[simp] theorem next_retainAll (heap : Heap) (handles : List Handle) :
    (heap.retainAll handles).next = heap.next := by
  induction handles generalizing heap with
  | nil => rfl
  | cons handle handles ih => exact (ih _).trans (next_retain heap handle)

@[simp] theorem next_decrementAll (heap : Heap) (handles : List Handle) :
    (heap.decrementAll handles).next = heap.next := by
  induction handles generalizing heap with
  | nil => rfl
  | cons handle handles ih => exact (ih _).trans (next_decrement heap handle)

theorem references?_retain (heap : Heap) (handle other : Handle) :
    (heap.retain handle).references? other =
      (heap.references? other).map (· + if handle = other then 1 else 0) := by
  rw [references?, retain, get?_modify, references?]
  by_cases same : handle = other <;> cases heap.get? other <;> simp [same]

theorem references?_decrement (heap : Heap) (handle other : Handle) :
    (heap.decrement handle).references? other =
      (heap.references? other).map (· - if handle = other then 1 else 0) := by
  rw [references?, decrement, get?_modify, references?]
  by_cases same : handle = other <;> cases heap.get? other <;> simp [same]

theorem references?_remove (heap : Heap) (handle other : Handle) :
    (heap.remove handle).references? other =
      if handle = other then none else heap.references? other := by
  rw [references?, get?_remove]
  split <;> rfl

theorem references?_allocate (heap : Heap) (className : String) (other : Handle) :
    (heap.allocate className).references? other =
      if other = heap.next then some 0 else heap.references? other := by
  rw [references?, get?_allocate]
  split <;> rfl

theorem references?_retainAll (heap : Heap) (handles : List Handle) (other : Handle) :
    (heap.retainAll handles).references? other =
      (heap.references? other).map (· + handles.count other) := by
  induction handles generalizing heap with
  | nil => simp [retainAll]
  | cons handle handles ih =>
    refine (ih _).trans ?_
    rw [references?_retain, Option.map_map, List.count_cons]
    congr 1
    funext n
    simp only [Function.comp_apply, beq_iff_eq]
    omega

theorem references?_decrementAll (heap : Heap) (handles : List Handle) (other : Handle) :
    (heap.decrementAll handles).references? other =
      (heap.references? other).map (· - handles.count other) := by
  induction handles generalizing heap with
  | nil => simp [decrementAll]
  | cons handle handles ih =>
    refine (ih _).trans ?_
    rw [references?_decrement, Option.map_map, List.count_cons]
    congr 1
    funext n
    simp only [Function.comp_apply, beq_iff_eq]
    omega

/-- Handles of live objects have been given out. -/
theorem lt_next_of_get? {heap : Heap} {handle : Handle} {object : Instance}
    (found : heap.get? handle = some object) : handle < heap.next := by
  by_cases below : handle < heap.next
  · exact below
  · have missing : heap.slots[handle]? = none := Array.getElem?_eq_none (Nat.le_of_not_lt below)
    simp [get?, missing] at found

theorem lt_next_of_references? {heap : Heap} {handle : Handle} {n : Nat}
    (found : heap.references? handle = some n) : handle < heap.next := by
  obtain ⟨object, live, -⟩ := Option.map_eq_some_iff.1 found
  exact lt_next_of_get? live

end Heap

/-- How careful the running code is known to be. -/
structure Care where
  /-- No handle of a reclaimed object is held or stored. -/
  alive : Prop
  /-- No object without a reference is left behind. -/
  tidy : Prop

/-- What is known about a handle: what its object counts if that is live, how often it is stored and
how often it is in transit in one way or another. -/
structure Fits (care : Care) (references? : Option Nat) (stored held receivers loose : Nat)
    (kept issued : Prop) : Prop where
  counted : ∀ {n}, references? = some n → n = stored + held + receivers
  issued : 0 < stored + held + receivers + loose → issued
  alive : care.alive → 0 < stored + held → references?.isSome
  tidy : care.tidy → references? = some 0 → 0 < loose
  kept : kept → references? = some 0

namespace Fits

variable {care : Care} {references? : Option Nat} {stored held receivers loose k : Nat}
  {kept issued : Prop}

/-- What is stored and what is held count alike. -/
theorem exchange {stored' held' : Nat}
    (fits : Fits care references? stored held receivers loose kept issued)
    (same : stored' + held' = stored + held) :
    Fits care references? stored' held' receivers loose kept issued := by
  obtain ⟨counted, issued, alive, tidy, kept⟩ := fits
  constructor <;> grind

theorem retain (fits : Fits care references? stored held receivers (k + loose) kept issued)
    (usable : 0 < k → ¬ kept ∧ (care.alive → references?.isSome)) :
    Fits care (references?.map (· + k)) stored (k + held) receivers loose kept issued := by
  obtain ⟨counted, issued, alive, tidy, kept⟩ := fits
  cases references? <;> constructor <;> grind

theorem retainReceiver (fits : Fits care references? stored held receivers (k + loose) kept issued)
    (unkept : 0 < k → ¬ kept) :
    Fits care (references?.map (· + k)) stored held (k + receivers) loose kept issued := by
  obtain ⟨counted, issued, alive, tidy, kept⟩ := fits
  cases references? <;> constructor <;> grind

theorem disown (fits : Fits care references? stored (k + held) receivers loose kept issued) :
    Fits care (references?.map (· - k)) stored held receivers (k + loose) kept issued := by
  obtain ⟨counted, issued, alive, tidy, kept⟩ := fits
  cases references? <;> constructor <;> grind

theorem disownReceiver
    (fits : Fits care references? stored held (k + receivers) loose kept issued) :
    Fits care (references?.map (· - k)) stored held receivers (k + loose) kept issued := by
  obtain ⟨counted, issued, alive, tidy, kept⟩ := fits
  cases references? <;> constructor <;> grind

/-- A receiver that is live may be treated like any other value. -/
theorem promote (fits : Fits care references? stored held (k + receivers) loose kept issued)
    (live : 0 < k → references?.isSome) :
    Fits care references? stored (k + held) receivers loose kept issued := by
  obtain ⟨counted, issued, alive, tidy, kept⟩ := fits
  constructor <;> grind

theorem carry (fits : Fits care references? stored held receivers loose kept issued)
    (given : 0 < k → issued) :
    Fits care references? stored held receivers (k + loose) kept issued := by
  obtain ⟨counted, issued, alive, tidy, kept⟩ := fits
  constructor <;> grind

theorem settle (fits : Fits care references? stored held receivers (k + loose) kept issued)
    (settled : care.tidy → 0 < k → references? ≠ some 0 ∨ 0 < loose) :
    Fits care references? stored held receivers loose kept issued := by
  obtain ⟨counted, issued, alive, tidy, kept⟩ := fits
  constructor <;> grind

/-- The next handle to be given out is in use nowhere. -/
theorem allocate (fits : Fits care references? stored held receivers loose kept issued)
    (new : ¬ issued) {kept' issued' : Prop} (given : issued') :
    Fits care (some 0) stored held receivers (1 + loose) kept' issued' := by
  obtain ⟨counted, issued, alive, tidy, kept⟩ := fits
  constructor <;> grind

theorem mono (fits : Fits care references? stored held receivers loose kept issued)
    {kept' issued' : Prop} (fewer : kept' → kept) (more : issued → issued') :
    Fits care references? stored held receivers loose kept' issued' := by
  obtain ⟨counted, issued, alive, tidy, kept⟩ := fits
  constructor <;> grind

theorem weaken {care' : Care}
    (fits : Fits care references? stored held receivers loose kept issued)
    (alive : care'.alive → care.alive) (tidy : care'.tidy → care.tidy) :
    Fits care' references? stored held receivers loose kept issued :=
  ⟨fits.counted, fits.issued, fun given => fits.alive (alive given),
    fun given => fits.tidy (tidy given), fits.kept⟩

/-- An object goes with the last reference to it. -/
theorem remove (fits : Fits care references? stored (1 + held) receivers loose kept issued)
    (last : references?.map (· - 1) = some 0) :
    Fits care none stored held receivers loose kept issued := by
  obtain ⟨counted, issued, alive, tidy, kept⟩ := fits
  cases references? <;> constructor <;> grind

/-- An object that nothing refers to may go at any time. -/
theorem discard (fits : Fits care references? stored held receivers loose kept issued)
    (unreferenced : references? = some 0) (unkept : ¬ kept) :
    Fits care none stored held receivers loose kept issued := by
  obtain ⟨counted, issued, alive, tidy, kept⟩ := fits
  constructor <;> grind

end Fits

/-- Handles that the running code uses. -/
structure Transit where
  /-- Handles in values that are counted although they are not stored. -/
  held : List Handle := []
  /-- Receivers of running methods, which are counted too. -/
  receivers : List Handle := []
  /-- Handles in values that are not counted and that the running code has yet to dispose of. -/
  loose : List Handle := []
  /-- Objects without a reference that the running code cannot reach. -/
  kept : List Handle := []

namespace Transit

/-- Counts further handles. -/
def hold (transit : Transit) (handles : List Handle) : Transit :=
  { transit with held := handles ++ transit.held }

/-- Has further handles at hand. -/
def carry (transit : Transit) (handles : List Handle) : Transit :=
  { transit with loose := handles ++ transit.loose }

/-- Leaves a further object alone. -/
def keep (transit : Transit) (handle : Handle) : Transit :=
  { transit with kept := handle :: transit.kept }

end Transit

namespace State

/-- All counts are right in the presence of what is in transit. -/
def Counts (care : Care) (transit : Transit) (state : State) : Prop :=
  ∀ handle, Fits care (state.heap.references? handle) (state.storage.occurrences handle)
    (transit.held.count handle) (transit.receivers.count handle) (transit.loose.count handle)
    (handle ∈ transit.kept) (handle < state.heap.next)

/-- The same, where all that is known of the handles in use is that they are among certain ones. -/
def CountsAmong (issued : Handle → Prop) (care : Care) (transit : Transit) (state : State) :
    Prop :=
  ∀ handle, Fits care (state.heap.references? handle) (state.storage.occurrences handle)
    (transit.held.count handle) (transit.receivers.count handle) (transit.loose.count handle)
    (handle ∈ transit.kept) (issued handle)

/-- A change that gives out no handle keeps the counts right if it keeps them right among the handles
that were given out before. -/
theorem CountsAmong.counts {care : Care} {transit : Transit} {before after : State}
    (among : after.CountsAmong (· < before.heap.next) care transit)
    (next : after.heap.next = before.heap.next) : after.Counts care transit := by
  intro handle
  rw [next]
  exact among handle

/-- A handle that may be counted: its object is not one that must be left alone, and is live where
that is asked for. -/
def Usable (care : Care) (transit : Transit) (state : State) (handle : Handle) : Prop :=
  handle ∉ transit.kept ∧ (care.alive → (state.heap.references? handle).isSome)

theorem occurrences_take (state : State) (scope name : String) (handle : Handle) :
    (state.take scope name).2.storage.occurrences handle +
        Value.occurrencesIn handle (state.take scope name).1.toList =
      state.storage.occurrences handle := by
  unfold take
  cases state.bindingIn? scope name with
  | none => rfl
  | some place =>
    rw [Value.occurrencesIn_toList]
    exact state.storage.occurrences_erase place handle

/-- What is taken out of the state was stored before. -/
theorem occurrences_takeAll (state : State) (scope : String) (names : List String)
    (handle : Handle) :
    (state.takeAll scope names).2.storage.occurrences handle +
        Value.occurrencesIn handle (state.takeAll scope names).1 =
      state.storage.occurrences handle := by
  induction names generalizing state with
  | nil => rfl
  | cons name names ih =>
    have one := state.occurrences_take scope name handle
    have others := ih (state.take scope name).2
    simp only [takeAll, Value.occurrencesIn_append]
    omega

theorem occurrences_reclaim (state : State) (handle : Handle) (className : String)
    (other : Handle) :
    (state.reclaim handle className).2.storage.occurrences other +
        (state.reclaim handle className).1.count other =
      state.storage.occurrences other := by
  unfold reclaim
  rw [Value.count_flatMap_handles]
  exact occurrences_takeAll _ _ _ other

/-- A value in hand is counted. -/
theorem CountsAmong.retain {issued : Handle → Prop} {care : Care} {transit : Transit}
    {state : State} {value : Value}
    (counts : state.CountsAmong issued care (transit.carry value.handles))
    (usable : ∀ handle ∈ value.handles, state.Usable care transit handle) :
    (state.retain value).CountsAmong issued care (transit.hold value.handles) := by
  intro handle
  have fits := counts handle
  simp only [Transit.carry, Transit.hold, State.retain, List.count_append,
    Heap.references?_retainAll] at fits ⊢
  exact fits.retain fun inside => usable handle (List.count_pos_iff.1 inside)

namespace Counts

variable {care : Care} {transit : Transit} {state : State} {handles : List Handle}

theorem retain {value : Value} (counts : state.Counts care (transit.carry value.handles))
    (usable : ∀ handle ∈ value.handles, state.Usable care transit handle) :
    (state.retain value).Counts care (transit.hold value.handles) :=
  (CountsAmong.retain counts usable).counts (Heap.next_retainAll state.heap value.handles)

/-- A value that was counted is in hand again. -/
theorem disown {value : Value} (counts : state.Counts care (transit.hold value.handles)) :
    (state.disown value).Counts care (transit.carry value.handles) := by
  intro handle
  have fits := counts handle
  simp only [Transit.carry, Transit.hold, State.disown, List.count_append,
    Heap.references?_decrementAll, Heap.next_decrementAll] at fits ⊢
  exact fits.disown

theorem carry (counts : state.Counts care transit)
    (issued : ∀ handle ∈ handles, handle < state.heap.next) :
    state.Counts care (transit.carry handles) := by
  intro handle
  simp only [Transit.carry, List.count_append]
  exact (counts handle).carry fun inside => issued handle (List.count_pos_iff.1 inside)

/-- Only the numbers matter. -/
theorem congr (counts : state.Counts care transit) {transit' : Transit}
    (held : ∀ handle, transit'.held.count handle = transit.held.count handle)
    (receivers : transit'.receivers = transit.receivers)
    (loose : ∀ handle, transit'.loose.count handle = transit.loose.count handle)
    (kept : ∀ handle ∈ transit'.kept, handle ∈ transit.kept) : state.Counts care transit' := by
  intro handle
  rw [held, receivers, loose]
  exact (counts handle).mono (kept handle) id

/-- Handles need not be disposed of once something refers to their objects, nor twice. -/
theorem settle (counts : state.Counts care (transit.carry handles))
    (settled : care.tidy → ∀ handle ∈ handles,
      state.heap.references? handle ≠ some 0 ∨ handle ∈ transit.loose) :
    state.Counts care transit := by
  intro handle
  have fits := counts handle
  simp only [Transit.carry, List.count_append] at fits
  refine fits.settle fun tidy inside => ?_
  exact (settled tidy handle (List.count_pos_iff.1 inside)).imp id List.count_pos_iff.2

/-- A new object is in hand, and nothing refers to it. -/
theorem allocate (counts : state.Counts care transit) (className : String) :
    { state with heap := state.heap.allocate className }.Counts care
      ((transit.carry [state.heap.next]).keep state.heap.next) := by
  intro handle
  have fits := counts handle
  simp only [Transit.carry, Transit.keep, List.count_append, List.count_singleton, beq_iff_eq,
    Heap.references?_allocate, Heap.next_allocate, List.mem_cons]
  by_cases new : handle = state.heap.next
  · rw [if_pos new, if_pos new.symm]
    exact fits.allocate (new ▸ Nat.lt_irrefl _) (new ▸ Nat.lt_succ_self _)
  · rw [if_neg new, if_neg (Ne.symm new), Nat.zero_add]
    exact fits.mono (fun inside => inside.resolve_left new) Nat.lt_succ_of_lt

/-- An object need not be left alone any longer. -/
theorem unkeep {handle : Handle} (counts : state.Counts care (transit.keep handle)) :
    state.Counts care transit ∧ state.heap.references? handle = some 0 :=
  ⟨fun other => (counts other).mono (List.mem_cons_of_mem handle) id,
    (counts handle).kept List.mem_cons_self⟩

end Counts

/-- A step of a cascade leaves the counts of other objects alone. -/
theorem references?_decrement_of_ne (heap : Heap) {handle other : Handle}
    (differs : handle ≠ other) :
    (heap.decrement handle).references? other = heap.references? other := by
  rw [Heap.references?_decrement, if_neg differs]
  simp

/-- A cascade leaves no object without a reference that had one. -/
theorem references?_release {state : State} {handle : Handle} (handles : List Handle)
    (referenced : state.heap.references? handle ≠ some 0) :
    (state.release handles).heap.references? handle ≠ some 0 := by
  refine release_induction (motive := fun _ state => state.heap.references? handle ≠ some 0)
    ?_ ?_ referenced
  · intro state other handles referenced settled
    by_cases same : other = handle
    · exact same ▸ settled
    · exact (references?_decrement_of_ne state.heap same).symm ▸ referenced
  · intro state other handles object referenced found unreferenced
    rw [heap_reclaim, Heap.references?_remove]
    split
    · simp
    · next same => exact (references?_decrement_of_ne state.heap same).symm ▸ referenced

/-- A cascade gives out no handle. -/
@[simp] theorem next_release (state : State) (handles : List Handle) :
    (state.release handles).heap.next = state.heap.next := by
  refine release_induction (motive := fun _ later => later.heap.next = state.heap.next) ?_ ?_ rfl
  · intro later handle handles same _
    exact (Heap.next_decrement later.heap handle).trans same
  · intro later handle handles object same _ _
    rw [heap_reclaim, Heap.next_remove]
    exact (Heap.next_decrement later.heap handle).trans same

/-- Handles that were counted are let go; what they were the last reference to is reclaimed, and
what that held is let go in turn. -/
theorem CountsAmong.release {issued : Handle → Prop} {care : Care} {transit : Transit}
    {state : State} {handles : List Handle}
    (counts : state.CountsAmong issued care (transit.hold handles)) :
    (state.release handles).CountsAmong issued care transit := by
  refine release_induction
    (motive := fun handles state => state.CountsAmong issued care (transit.hold handles))
    ?_ ?_ counts
  · intro state handle handles counts settled other
    have fits := counts other
    simp only [Transit.hold, List.cons_append, List.count_cons, beq_iff_eq,
      Heap.references?_decrement] at fits settled ⊢
    rw [Nat.add_comm _ (ite _ _ _)] at fits
    refine fits.disown.settle fun _ same => .inl ?_
    have same : handle = other := by grind
    subst same
    simpa only [if_pos] using settled
  · intro state handle handles object counts found unreferenced other
    have moved := occurrences_reclaim { state with heap := state.heap.decrement handle } handle
      object.className other
    have fits := counts other
    simp only [Transit.hold, List.cons_append, List.count_cons, beq_iff_eq, List.count_append,
      heap_reclaim, Heap.references?_remove] at fits moved ⊢
    rw [Nat.add_comm _ (ite _ _ _)] at fits
    by_cases same : handle = other
    · subst same
      have last : (state.heap.decrement handle).references? handle = some 0 := by
        simp [Heap.references?, found, unreferenced]
      simp only [Heap.references?_decrement, if_pos] at fits last ⊢
      exact (fits.remove last).exchange (by omega)
    · rw [if_neg same, references?_decrement_of_ne state.heap same]
      rw [if_neg same] at fits
      exact fits.exchange (by omega)

theorem Counts.release {care : Care} {transit : Transit} {state : State} {handles : List Handle}
    (counts : state.Counts care (transit.hold handles)) :
    (state.release handles).Counts care transit :=
  (CountsAmong.release counts).counts (next_release state handles)

/-- Only an object without a reference is reclaimed. -/
theorem discardHandle_eq (state : State) (handle : Handle) :
    state.heap.references? handle ≠ some 0 ∧ state.discardHandle handle = state ∨
      state.heap.references? handle = some 0 ∧ ∃ className,
        state.discardHandle handle =
          (state.reclaim handle className).2.release (state.reclaim handle className).1 := by
  unfold discardHandle
  cases found : state.heap.get? handle with
  | none => exact .inl ⟨by simp [Heap.references?, found], rfl⟩
  | some object =>
    by_cases unreferenced : object.references = 0
    · exact .inr ⟨by simp [Heap.references?, found, unreferenced], object.className,
        if_pos unreferenced⟩
    · exact .inl ⟨by simp [Heap.references?, found, unreferenced], if_neg unreferenced⟩

theorem references?_discardHandle {state : State} {handle : Handle} (other : Handle)
    (referenced : state.heap.references? handle ≠ some 0 ∨ handle = other) :
    (state.discardHandle other).heap.references? handle ≠ some 0 := by
  obtain ⟨already, unchanged⟩ | ⟨-, className, reclaimed⟩ := state.discardHandle_eq other
  · rw [unchanged]
    exact referenced.elim id fun same => same ▸ already
  · rw [reclaimed]
    refine references?_release _ ?_
    rw [heap_reclaim, Heap.references?_remove]
    split
    · simp
    · next differs => exact referenced.resolve_right fun same => differs same.symm

namespace Counts

variable {care : Care} {transit : Transit} {state : State} {handles : List Handle}

/-- An object in hand goes if nothing refers to it. -/
theorem discardHandle {handle : Handle} (counts : state.Counts care transit)
    (unkept : handle ∉ transit.kept) : (state.discardHandle handle).Counts care transit := by
  obtain ⟨-, unchanged⟩ | ⟨unreferenced, className, reclaimed⟩ := state.discardHandle_eq handle
  · rw [unchanged]
    exact counts
  · rw [reclaimed]
    refine release fun other => ?_
    have moved := state.occurrences_reclaim handle className other
    have fits := counts other
    simp only [Transit.hold, List.count_append, heap_reclaim, Heap.next_remove,
      Heap.references?_remove] at moved ⊢
    split
    · next same =>
      subst same
      exact (fits.discard unreferenced unkept).exchange (by omega)
    · exact fits.exchange (by omega)

theorem foldl_discardHandle (counts : state.Counts care transit)
    (unkept : ∀ handle ∈ handles, handle ∉ transit.kept) :
    (handles.foldl State.discardHandle state).Counts care transit ∧
      ∀ handle, handle ∈ handles ∨ state.heap.references? handle ≠ some 0 →
        (handles.foldl State.discardHandle state).heap.references? handle ≠ some 0 := by
  induction handles generalizing state with
  | nil => exact ⟨counts, fun handle => by simp⟩
  | cons first handles ih =>
    obtain ⟨unkeptFirst, unkeptRest⟩ := List.forall_mem_cons.1 unkept
    obtain ⟨all, referenced⟩ := ih (counts.discardHandle unkeptFirst) unkeptRest
    refine ⟨all, fun handle given => referenced handle ?_⟩
    rcases given with inside | already
    · rcases List.mem_cons.1 inside with here | later
      · exact .inr (references?_discardHandle first (.inr here))
      · exact .inl later
    · exact .inr (references?_discardHandle first (.inl already))

/-- A value in hand is disposed of. -/
theorem discard {value : Value} (counts : state.Counts care (transit.carry value.handles))
    (unkept : ∀ handle ∈ value.handles, handle ∉ transit.kept) :
    (state.discard value).Counts care (transit.carry value.handles) ∧
      (state.discard value).Counts care transit := by
  obtain ⟨all, referenced⟩ := foldl_discardHandle counts unkept
  exact ⟨all, all.settle fun _ handle inside => .inl (referenced handle (.inl inside))⟩

end Counts

end State

end TagScript
