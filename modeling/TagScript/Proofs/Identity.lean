import TagScript.Proofs.Counts

/-!
# Objects keep their identity

Handles stay in circulation when their objects are gone, and the machine relies on them to find
nothing then. This is a matter of whole histories: requests to a heap come in any order, with handles
of live objects, of removed ones, and some that were never given out. A log is kept of the requests
and the replies. `Heap.Recorded` says how the log accounts for the heap, every request keeps it up,
and from it follows what is known of a heap after any requests (`Heap.KeepsIdentity`).

A request to remove what was never given out removes nothing, and that handle may still be given out
later. Only a removal that finds an object counts as one.
-/

namespace TagScript

/-- What an object keeps as long as it lives. -/
def Instance.identity (object : Instance) : Handle × String :=
  (object.handle, object.className)

namespace Heap

/-- What can be asked of a heap. -/
inductive Request
  | allocate (className : String)
  | get (handle : Handle)
  | retain (handle : Handle)
  | decrement (handle : Handle)
  | remove (handle : Handle)
  deriving DecidableEq, Repr

/-- What a heap replies. -/
inductive Reply
  /-- The handle of a new object. -/
  | issued (handle : Handle)
  /-- The object that the handle led to. -/
  | found (object : Option Instance)
  /-- The references that the object has left. -/
  | left (references : Option Nat)
  | done
  deriving DecidableEq, Repr

/-- The reply to a request, and the heap after it. -/
def serve (heap : Heap) : Request → Reply × Heap
  | .allocate className => (.issued heap.next, heap.allocate className)
  | .get handle => (.found (heap.get? handle), heap)
  | .retain handle => (.done, heap.retain handle)
  | .decrement handle =>
    let later := heap.decrement handle
    (.left (later.references? handle), later)
  | .remove handle => (.found (heap.get? handle), heap.remove handle)

/-- The handle that a request is about. An allocation is about the one that it gives out. -/
def Request.subject (heap : Heap) : Request → Handle
  | .allocate _ => heap.next
  | .get handle | .retain handle | .decrement handle | .remove handle => handle

/-- A request and the reply to it. -/
structure Exchange where
  request : Request
  reply : Reply
  deriving DecidableEq, Repr

/-- The heap after some requests. -/
def after (heap : Heap) (requests : List Request) : Heap :=
  requests.foldl (fun heap request => (heap.serve request).2) heap

/-- What is asked and replied, in order. -/
def log : Heap → List Request → List Exchange
  | _, [] => []
  | heap, request :: requests =>
    let (reply, later) := heap.serve request
    ⟨request, reply⟩ :: later.log requests

@[simp] theorem next_empty : (∅ : Heap).next = 0 :=
  rfl

theorem after_append (heap : Heap) (earlier later : List Request) :
    heap.after (earlier ++ later) = (heap.after earlier).after later :=
  List.foldl_append

theorem log_append (heap : Heap) (earlier later : List Request) :
    heap.log (earlier ++ later) = heap.log earlier ++ (heap.after earlier).log later := by
  induction earlier generalizing heap with
  | nil => rfl
  | cons request earlier ih => exact congrArg (_ :: ·) (ih _)

/-- A request leaves the objects as they were that it is not about. -/
theorem get?_serve_of_ne {heap : Heap} {request : Request} {other : Handle}
    (differs : other ≠ request.subject heap) :
    (heap.serve request).2.get? other = heap.get? other := by
  cases request with
  | allocate className => exact (heap.get?_allocate className other).trans (if_neg differs)
  | get handle => rfl
  | retain handle | decrement handle =>
    exact (heap.get?_modify handle other _).trans (if_neg differs.symm)
  | remove handle => exact (heap.get?_remove handle other).trans (if_neg differs.symm)

/-- A handle finds nothing, and nothing can be done with it. -/
structure Misses (heap : Heap) (handle : Handle) : Prop where
  get : heap.serve (.get handle) = (.found none, heap)
  retain : heap.serve (.retain handle) = (.done, heap)
  decrement : heap.serve (.decrement handle) = (.left none, heap)
  remove : heap.serve (.remove handle) = (.found none, heap)

section Missing

variable {heap : Heap} {handle : Handle} (missing : heap.get? handle = none)
include missing

theorem modify_of_missing (change : Instance → Instance) : heap.modify handle change = heap := by
  refine ext_get? (heap.next_modify handle change) fun other => ?_
  rw [get?_modify]
  split
  next same => rw [← same, missing, Option.map_none]
  · rfl

theorem remove_of_missing : heap.remove handle = heap := by
  refine ext_get? (heap.next_remove handle) fun other => ?_
  rw [get?_remove]
  split
  next same => rw [← same, missing]
  · rfl

theorem misses_of_missing : heap.Misses handle where
  get := by rw [serve, missing]
  retain := by rw [serve, retain, modify_of_missing missing]
  decrement := by
    rw [serve, decrement, modify_of_missing missing, references?, missing, Option.map_none]
  remove := by rw [serve, missing, remove_of_missing missing]

end Missing

/-- Changes that are not about identity keep that of all objects. -/
theorem identity_modify (heap : Heap) (handle other : Handle) {change : Instance → Instance}
    (same : ∀ object, (change object).identity = object.identity) :
    ((heap.modify handle change).get? other).map Instance.identity =
      (heap.get? other).map Instance.identity := by
  rw [get?_modify]
  split
  · rw [Option.map_map]
    exact congrArg (Option.map · _) (funext same)
  · rfl

/-- A log accounts for a heap. -/
structure Recorded (heap : Heap) (log : List Exchange) : Prop where
  /-- Handles below the next one have been given out, and no others. -/
  issued : ∀ {handle}, (∃ request, ⟨request, .issued handle⟩ ∈ log) ↔ handle < heap.next
  /-- An object stands where its handle says, and its class is the one that it was allocated with. -/
  named : ∀ {handle object}, heap.get? handle = some object → object.handle = handle ∧
    ∀ className, ⟨.allocate className, .issued handle⟩ ∈ log ↔ className = object.className
  /-- Of the handles that have been given out those find nothing whose objects were removed. -/
  removed : ∀ {handle}, (∃ object, ⟨.remove handle, .found (some object)⟩ ∈ log) ↔
    handle < heap.next ∧ heap.get? handle = none

namespace Recorded

theorem empty : Recorded ∅ [] where
  issued := by simp
  named := nofun
  removed := by simp

variable {heap : Heap} {past : List Exchange} (recorded : heap.Recorded past)
include recorded

/-- The next handle has not been given out before. -/
theorem unused (request : Request) : ⟨request, .issued heap.next⟩ ∉ past :=
  fun inside => Nat.lt_irrefl _ (recorded.issued.1 ⟨request, inside⟩)

theorem isSome_get?_iff {handle : Handle} :
    (heap.get? handle).isSome ↔ (∃ request, ⟨request, .issued handle⟩ ∈ past) ∧
      ∀ object, ⟨.remove handle, .found (some object)⟩ ∉ past := by
  rw [recorded.issued, ← not_exists, recorded.removed]
  constructor
  · intro live
    obtain ⟨object, found⟩ := Option.isSome_iff_exists.1 live
    exact ⟨lt_next_of_get? found, fun ⟨_, missing⟩ => by simp [found] at missing⟩
  · rintro ⟨known, present⟩
    exact Option.isSome_iff_ne_none.2 fun missing => present ⟨known, missing⟩

/-- No exchange but an allocation and a removal matters, as long as identities are kept. -/
theorem unmoved {later : Heap} {exchange : Exchange}
    (issues : ∀ handle, exchange.reply ≠ .issued handle)
    (removes : ∀ handle object, exchange ≠ ⟨.remove handle, .found (some object)⟩)
    (next : later.next = heap.next)
    (kept : ∀ handle, (later.get? handle).map Instance.identity =
      (heap.get? handle).map Instance.identity) :
    later.Recorded (past ++ [exchange]) := by
  have given {request handle} :
      ⟨request, .issued handle⟩ ∈ past ++ [exchange] ↔ ⟨request, .issued handle⟩ ∈ past := by
    rw [List.mem_append, List.mem_singleton]
    exact or_iff_left fun same => issues handle (same ▸ rfl)
  have taken {handle object} : ⟨.remove handle, .found (some object)⟩ ∈ past ++ [exchange] ↔
      ⟨.remove handle, .found (some object)⟩ ∈ past := by
    rw [List.mem_append, List.mem_singleton]
    exact or_iff_left fun same => removes handle object same.symm
  refine ⟨?_, ?_, ?_⟩
  · simp only [given, next, recorded.issued, implies_true]
  · intro handle object found
    have same := kept handle
    rw [found, Option.map_some] at same
    obtain ⟨original, known, same⟩ := Option.map_eq_some_iff.1 same.symm
    obtain ⟨named, classes⟩ := recorded.named known
    rw [Instance.identity, Instance.identity, Prod.mk.injEq] at same
    simp only [given]
    rw [← same.1, ← same.2]
    exact ⟨named, classes⟩
  · intro handle
    have gone : later.get? handle = none ↔ heap.get? handle = none := by
      rw [← Option.map_eq_none_iff, kept, Option.map_eq_none_iff]
    simp only [taken, next, gone, recorded.removed]

theorem allocate (className : String) : (heap.allocate className).Recorded
    (past ++ [⟨.allocate className, .issued heap.next⟩]) := by
  have unused := recorded.unused
  refine ⟨?_, ?_, ?_⟩
  · intro handle
    simp only [List.mem_append, List.mem_singleton, Exchange.mk.injEq, Reply.issued.injEq, exists_or,
      exists_eq_left, recorded.issued, next_allocate]
    exact Nat.lt_succ_iff_lt_or_eq.symm
  · intro handle object found
    rw [get?_allocate] at found
    split at found
    next newest =>
      cases found
      simp [newest, unused]
    next older =>
      obtain ⟨named, classes⟩ := recorded.named found
      exact ⟨named, by simp [older, classes]⟩
  · intro handle
    rw [get?_allocate, next_allocate, Nat.lt_succ_iff_lt_or_eq]
    by_cases newest : handle = heap.next <;> simp [newest, recorded.removed]

theorem remove {handle : Handle} {object : Instance} (found : heap.get? handle = some object) :
    (heap.remove handle).Recorded (past ++ [⟨.remove handle, .found (some object)⟩]) := by
  refine ⟨?_, ?_, ?_⟩
  · simp [recorded.issued]
  · intro other object' found'
    rw [get?_remove] at found'
    split at found'
    · cases found'
    · simpa using recorded.named found'
  · intro other
    rw [get?_remove, next_remove]
    by_cases same : handle = other
    · subst same
      simp [lt_next_of_get? found]
    · simp [same, Ne.symm same, recorded.removed]

theorem serve (request : Request) :
    (heap.serve request).2.Recorded (past ++ [⟨request, (heap.serve request).1⟩]) := by
  cases request with
  | allocate className => exact recorded.allocate className
  | get handle => exact recorded.unmoved nofun nofun rfl fun _ => rfl
  | retain handle | decrement handle =>
    exact recorded.unmoved nofun nofun (heap.next_modify handle _)
      (heap.identity_modify handle · fun _ => rfl)
  | remove handle =>
    cases found : heap.get? handle with
    | none =>
      -- nothing is removed, be it that the object is gone already or that there was none
      rw [(misses_of_missing found).remove]
      exact recorded.unmoved nofun nofun rfl fun _ => rfl
    | some object =>
      rw [Heap.serve, found]
      exact recorded.remove found

end Recorded

/-- Whatever is asked of a heap, the log goes on accounting for it. -/
theorem Recorded.after {heap : Heap} {past : List Exchange} (recorded : heap.Recorded past)
    (requests : List Request) : (heap.after requests).Recorded (past ++ heap.log requests) := by
  induction requests generalizing heap past with
  | nil => simpa [Heap.after, log] using recorded
  | cons request requests ih =>
    have rest := ih (recorded.serve request)
    rwa [List.append_assoc, List.singleton_append] at rest

/-- What is known of a heap and the log of all that has been asked of it. -/
structure KeepsIdentity (heap : Heap) (log : List Exchange) : Prop where
  /-- A new object gets a handle that has not been given out before. -/
  fresh : ∀ className, ∃ handle, (heap.serve (.allocate className)).1 = .issued handle ∧
    ∀ request, ⟨request, .issued handle⟩ ∉ log
  /-- An object carries the handle under which it is found, and the class that was given at its
  allocation. -/
  named : ∀ handle object, heap.get? handle = some object → object.handle = handle ∧
    ∀ className, ⟨.allocate className, .issued handle⟩ ∈ log ↔ className = object.className
  /-- Objects are found from their allocation on until they are removed. -/
  live : ∀ handle, (heap.get? handle).isSome ↔ (∃ request, ⟨request, .issued handle⟩ ∈ log) ∧
    ∀ object, ⟨.remove handle, .found (some object)⟩ ∉ log
  /-- When an object has been removed, its handle finds nothing and does nothing, whatever is asked
  in the meantime. -/
  gone : ∀ handle object, ⟨.remove handle, .found (some object)⟩ ∈ log →
    ∀ later, (heap.after later).Misses handle
  /-- A request changes no object but the one that it is about. -/
  apart : ∀ request other, other ≠ request.subject heap →
    (heap.serve request).2.get? other = heap.get? other

/-- Handles are never recycled. -/
theorem keepsIdentity_after (requests : List Request) :
    KeepsIdentity ((∅ : Heap).after requests) ((∅ : Heap).log requests) := by
  have recorded (requests : List Request) :
      ((∅ : Heap).after requests).Recorded ((∅ : Heap).log requests) :=
    Recorded.empty.after requests
  refine ⟨fun _ => ⟨_, rfl, (recorded requests).unused⟩, fun _ _ => (recorded requests).named,
    fun _ => (recorded requests).isSome_get?_iff, ?_, fun _ _ => get?_serve_of_ne⟩
  intro handle object removed later
  -- the removal stays in the log, so the invariant of the longer history applies
  have inside : ⟨.remove handle, .found (some object)⟩ ∈ (∅ : Heap).log (requests ++ later) := by
    rw [log_append]
    exact List.mem_append_left _ removed
  rw [← after_append]
  exact misses_of_missing ((recorded _).removed.1 ⟨object, inside⟩).2

/-- Uses handles before they are given out and after their objects are gone. -/
def churn : List Request :=
  [.remove 0, .allocate "A", .allocate "B", .retain 0, .remove 0, .retain 0, .allocate "A",
    .decrement 0, .remove 2, .retain 3, .allocate "C", .remove 0]

/-- The first request for a removal comes too early and the last one too late. In between an object
is removed, and its handle stays dead. The object under the last handle was not there yet when a
reference to it was counted. -/
theorem keepsIdentity_after_churn :
    ⟨.remove 0, .found (some ⟨0, "A", 1⟩)⟩ ∈ (∅ : Heap).log churn ∧
    (∀ later, (((∅ : Heap).after churn).after later).Misses 0) ∧
    ((∅ : Heap).after churn).get? 3 = some ⟨3, "C", 0⟩ ∧
    (∀ className, ⟨.allocate className, .issued 3⟩ ∈ (∅ : Heap).log churn ↔ className = "C") ∧
    (((∅ : Heap).after churn).serve (.allocate "B")).1 = .issued 4 ∧
    ∀ request, ⟨request, .issued 4⟩ ∉ (∅ : Heap).log churn := by
  have removed : ⟨.remove 0, .found (some ⟨0, "A", 1⟩)⟩ ∈ (∅ : Heap).log churn :=
    List.mem_of_getElem? (i := 4) rfl
  have found : ((∅ : Heap).after churn).get? 3 = some ⟨3, "C", 0⟩ := rfl
  have issues : (((∅ : Heap).after churn).serve (.allocate "B")).1 = .issued 4 := rfl
  obtain ⟨fresh, named, -, gone, -⟩ := keepsIdentity_after churn
  obtain ⟨handle, issued, unused⟩ := fresh "B"
  obtain rfl : handle = 4 := Reply.issued.inj (issued.symm.trans issues)
  exact ⟨removed, gone _ _ removed, found, (named _ _ found).2, issues, unused⟩

end Heap

end TagScript
