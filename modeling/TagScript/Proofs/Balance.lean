import TagScript.Proofs.Grammar
import TagScript.Proofs.Locality
import TagScript.Proofs.Movements

/-!
# Balanced states

A state is balanced when its counts are right and the rest of it is in order too: bindings and
stored values correspond, what is declared is proper, and the running frame is the expected one,
with a receiver that is in transit. Each change that the evaluator makes leads from a balanced state
to a balanced one; the lemmas say how the ledger changes with it.
-/

namespace TagScript

open State

/-- Functions and classes are declared under their own names and are proper. -/
structure Declared (functions : Table FunctionDecl) (classes : Table ClassDecl) : Prop where
  function : ∀ {name decl}, functions.get? name = some decl → decl.name = name ∧ decl.IsProper
  className : ∀ {name decl}, classes.get? name = some decl → decl.name = name ∧ decl.IsProper

/-- No function or method has two parameters of one name. -/
structure DistinctParams (functions : Table FunctionDecl) (classes : Table ClassDecl) : Prop where
  function : ∀ {name decl}, functions.get? name = some decl → decl.params.Nodup
  method : ∀ {name decl}, classes.get? name = some decl →
    ∀ method ∈ decl.methods, method.function.params.Nodup

/-- The declarations in force, and how careful the running code is known to be. -/
structure Regime extends Care where
  functions : Table FunctionDecl
  classes : Table ClassDecl
  declared : Declared functions classes
  distinct : tidy → DistinctParams functions classes

/-- What is in transit, and the frame that the code runs in. -/
structure Ledger extends Transit where
  frame : Frame := {}
  plain : Plain frame.scope := by decide
  rooted : ∀ handle, frame.receiver = some handle → handle ∈ held ∨ handle ∈ receivers := by simp

namespace Ledger

/-- Counts further handles. -/
def hold (ledger : Ledger) (handles : List Handle) : Ledger :=
  { ledger with
    held := handles ++ ledger.held
    rooted handle given := (ledger.rooted handle given).imp (List.mem_append_right handles) id }

/-- Has further handles at hand. -/
def carry (ledger : Ledger) (handles : List Handle) : Ledger :=
  { ledger with loose := handles ++ ledger.loose }

/-- Leaves a further object alone. -/
def keep (ledger : Ledger) (handle : Handle) : Ledger :=
  { ledger with kept := handle :: ledger.kept }

theorem hold_append (ledger : Ledger) (first second : List Handle) :
    ledger.hold (first ++ second) = (ledger.hold second).hold first := by
  simp only [hold, List.append_assoc]

end Ledger

/-- A state in which code may run. -/
structure Regime.Balanced (R : Regime) (ledger : Ledger) (state : State) : Prop where
  functions : state.functions = R.functions
  classes : state.classes = R.classes
  frame : state.frame = ledger.frame
  keyed : state.WellKeyed []
  counts : state.Counts R.toCare ledger.toTransit

/-- A value that an expression has produced. It is in hand, and may be stored. -/
structure Regime.Produces (R : Regime) (ledger : Ledger) (value : Value) (state : State) :
    Prop where
  balanced : R.Balanced (ledger.carry value.handles) state
  usable : ∀ handle ∈ value.handles, state.Usable R.toCare ledger.toTransit handle

/-- Handles that are stored or held can be used. -/
theorem State.Counts.usable {care : Care} {transit : Transit} {state : State} {handle : Handle}
    (counts : state.Counts care transit)
    (present : 0 < state.storage.occurrences handle + transit.held.count handle) :
    handle < state.heap.next ∧ state.Usable care transit handle := by
  obtain ⟨counted, issued, alive, tidy, kept⟩ := counts handle
  refine ⟨issued (by omega), fun inside => ?_, fun care => alive care present⟩
  have := counted (kept inside)
  omega

namespace Regime.Balanced

variable {R : Regime} {ledger : Ledger} {state later : State} {value : Value}
  {handles : List Handle}

theorem plainNames (balanced : R.Balanced ledger state) : state.PlainNames where
  function found := by
    rw [balanced.functions] at found
    obtain ⟨rfl, proper⟩ := R.declared.function found
    exact proper.name.plain
  className found := by
    rw [balanced.classes] at found
    exact (R.declared.className found).2.name.plain
  method found method inside := by
    rw [balanced.classes] at found
    exact ((R.declared.className found).2.methods method inside).name.plain
  member found member inside := by
    rw [balanced.classes] at found
    exact ((R.declared.className found).2.attributes member inside).plain

/-- What keeps bindings and the frame in order has only the counts to account for. -/
theorem step (balanced : R.Balanced ledger state) {ledger' : Ledger}
    {touched : String → String → Prop} (keeps : Keeps touched [] state later)
    (frame : later.frame = state.frame) (same : ledger'.frame = ledger.frame)
    (counts : later.Counts R.toCare ledger'.toTransit) : R.Balanced ledger' later where
  functions := keeps.functions.trans balanced.functions
  classes := keeps.classes.trans balanced.classes
  frame := (frame.trans balanced.frame).trans same.symm
  keyed := keeps.keyed
  counts := counts

/-- Counting changes nothing else. -/
theorem heapStep (balanced : R.Balanced ledger state) {ledger' : Ledger} {heap : Heap}
    (same : ledger'.frame = ledger.frame)
    (counts : { state with heap }.Counts R.toCare ledger'.toTransit) :
    R.Balanced ledger' { state with heap } := by
  have keeps : Keeps slots [] state { state with heap } := .heap balanced.keyed heap
  exact balanced.step keeps rfl same counts

/-- The ledger may list the same handles in another order, and leave fewer objects alone. -/
theorem congr (balanced : R.Balanced ledger state) {ledger' : Ledger}
    (frame : ledger'.frame = ledger.frame)
    (held : ∀ handle, ledger'.held.count handle = ledger.held.count handle)
    (receivers : ledger'.receivers = ledger.receivers)
    (loose : ∀ handle, ledger'.loose.count handle = ledger.loose.count handle)
    (kept : ∀ handle ∈ ledger'.kept, handle ∈ ledger.kept) : R.Balanced ledger' state :=
  balanced.heapStep frame (balanced.counts.congr held receivers loose kept)

theorem retain (balanced : R.Balanced (ledger.carry value.handles) state)
    (usable : ∀ handle ∈ value.handles, state.Usable R.toCare ledger.toTransit handle) :
    R.Balanced (ledger.hold value.handles) (state.retain value) :=
  balanced.heapStep rfl (balanced.counts.retain usable)

theorem disown (balanced : R.Balanced (ledger.hold value.handles) state) :
    R.Balanced (ledger.carry value.handles) (state.disown value) :=
  balanced.heapStep rfl balanced.counts.disown

theorem carry (balanced : R.Balanced ledger state)
    (issued : ∀ handle ∈ handles, handle < state.heap.next) :
    R.Balanced (ledger.carry handles) state :=
  balanced.heapStep rfl (balanced.counts.carry issued)

theorem settle (balanced : R.Balanced (ledger.carry handles) state)
    (settled : R.tidy → ∀ handle ∈ handles,
      state.heap.references? handle ≠ some 0 ∨ handle ∈ ledger.loose) :
    R.Balanced ledger state :=
  balanced.heapStep rfl (balanced.counts.settle settled)

/-- Handles in hand may be forgotten when nobody asks for tidiness. -/
theorem abandon (balanced : R.Balanced (ledger.carry handles) state) (untidy : ¬ R.tidy) :
    R.Balanced ledger state :=
  balanced.settle fun tidy => absurd tidy untidy

theorem release (balanced : R.Balanced (ledger.hold handles) state) :
    R.Balanced ledger (state.release handles) :=
  balanced.step (.release balanced.keyed balanced.plainNames handles) (frame_release _ _) rfl
    balanced.counts.release

theorem discardHandle {handle : Handle} (balanced : R.Balanced (ledger.carry [handle]) state)
    (unkept : handle ∉ ledger.kept) : R.Balanced ledger (state.discardHandle handle) := by
  have discarded : R.Balanced (ledger.carry [handle]) (state.discardHandle handle) :=
    balanced.step (.discardHandle balanced.keyed balanced.plainNames handle)
      (frame_discardHandle _ _) rfl (balanced.counts.discardHandle unkept)
  refine discarded.settle fun _ other inside => ?_
  exact .inl (references?_discardHandle handle (.inr (List.mem_singleton.1 inside)))

theorem discard (balanced : R.Balanced (ledger.carry value.handles) state)
    (unkept : ∀ handle ∈ value.handles, handle ∉ ledger.kept) :
    R.Balanced (ledger.carry value.handles) (state.discard value) ∧
      R.Balanced ledger (state.discard value) := by
  obtain ⟨carried, disposed⟩ := balanced.counts.discard unkept
  have keeps := Keeps.discard balanced.keyed balanced.plainNames value
  exact ⟨balanced.step keeps (frame_discard _ _) rfl carried,
    balanced.step keeps (frame_discard _ _) rfl disposed⟩

theorem allocate (balanced : R.Balanced ledger state) (className : String) :
    R.Balanced ((ledger.carry [state.heap.next]).keep state.heap.next)
      { state with heap := state.heap.allocate className } :=
  balanced.heapStep rfl (balanced.counts.allocate className)

theorem unkeep {handle : Handle} (balanced : R.Balanced (ledger.keep handle) state) :
    R.Balanced ledger state ∧ state.heap.references? handle = some 0 :=
  ⟨balanced.heapStep rfl balanced.counts.unkeep.1, balanced.counts.unkeep.2⟩

/-- A value that is stored can be used. -/
theorem produces (balanced : R.Balanced ledger state)
    (stored : ∀ handle ∈ value.handles, 0 < state.storage.occurrences handle) :
    R.Produces ledger value state := by
  have usable (handle : Handle) (inside : handle ∈ value.handles) :=
    balanced.counts.usable (Nat.add_pos_left (stored handle inside) _)
  exact ⟨balanced.carry fun handle inside => (usable handle inside).1,
    fun handle inside => (usable handle inside).2⟩

theorem produces_of_get? (balanced : R.Balanced ledger state) {place : Binding}
    (found : state.storage.get? place = some value) : R.Produces ledger value state :=
  balanced.produces fun handle inside =>
    Nat.lt_of_lt_of_le (Value.mem_handles.1 inside) (Storage.occurrences_le found handle)

theorem produces_scalar (balanced : R.Balanced ledger state) (content : Scalar) :
    R.Produces ledger (.scalar content) state :=
  balanced.produces fun _ inside => absurd inside List.not_mem_nil

end Regime.Balanced

namespace Regime.Produces

variable {R : Regime} {ledger : Ledger} {state : State} {value : Value}

theorem bind (produced : R.Produces ledger value state) {scope name key : String}
    (plain : Plain scope) (isKey : IsKey scope name key) :
    R.Balanced ledger (state.bind scope name key value) ∧
      R.Produces ledger value (state.bind scope name key value) := by
  have balanced := produced.balanced
  have retained : Keeps slots [] state (state.retain value) := .heap balanced.keyed _
  have unlinked := Keeps.unlink retained.keyed (retained.plainNames balanced.plainNames) scope name
  have free := unlinked.keyed.unstored plain isKey
    (bindingIn?_unlink_self (state.retain value) scope name) value.slot
  have bound : R.Balanced ledger (state.bind scope name key value) :=
    balanced.step (.bind balanced.keyed balanced.plainNames plain isKey value)
      (frame_bind _ _ _ _ _) rfl (balanced.counts.bind produced.usable free)
  have stored : (state.bind scope name key value).storage.get? ⟨value.slot, key⟩ = some value :=
    (Storage.get?_insert _ key value _).trans (if_pos rfl)
  exact ⟨bound, bound.produces_of_get? stored⟩

theorem assign (produced : R.Produces ledger value state) (name : String) :
    R.Balanced ledger (state.assign name value none) ∧
      R.Produces ledger value (state.assign name value none) := by
  have plain : Plain state.frame.scope := produced.balanced.frame ▸ ledger.plain
  exact produced.bind plain (.inl rfl)

theorem assignAttribute (produced : R.Produces ledger value state) (handle : Handle)
    {name : String} (plain : Plain name) :
    R.Balanced ledger (state.assignAttribute handle name value) ∧
      R.Produces ledger value (state.assignAttribute handle name value) :=
  produced.bind (by decide) (.inr ⟨rfl, ⟨handle, name, plain, rfl⟩, rfl⟩)

/-- A value stays in hand while it is used. -/
theorem again (produced : R.Produces ledger value state) :
    R.Produces (ledger.carry value.handles) value state := by
  refine ⟨produced.balanced.carry fun handle inside => ?_, produced.usable⟩
  refine (produced.balanced.counts handle).issued ?_
  have inHand : 0 < (value.handles ++ ledger.loose).count handle :=
    List.count_pos_iff.2 (List.mem_append_left _ inside)
  exact Nat.add_pos_right _ inHand

theorem assignPath (produced : R.Produces ledger value state) (name : String) {path : List String}
    (nonempty : path ≠ []) : R.Balanced ledger (state.assignPath name path value none) := by
  have balanced := produced.balanced
  have plain : Plain state.frame.scope := balanced.frame ▸ ledger.plain
  have retained : Keeps slots [] state (state.retain value) := .heap balanced.keyed _
  have names := retained.plainNames balanced.plainNames
  have unlinked := Keeps.unlink retained.keyed names state.frame.scope name
  have free := unlinked.keyed.unstored plain (.inl rfl)
    (bindingIn?_unlink_self (state.retain value) state.frame.scope name) .array
  have opened := Keeps.openArray retained.keyed names plain name
  obtain ⟨stored, isArray⟩ :=
    Option.isSome_iff_exists.1 (opened.keyed.stored (bindingIn?_openArray _ _ _))
  obtain ⟨cells, found, -⟩ := Option.map_eq_some_iff.1 isArray
  exact balanced.step (.assignPath balanced.keyed balanced.plainNames none plain name path value)
    (frame_assignPath _ _ _ _ _) rfl
    (balanced.counts.assignPath produced.usable nonempty free found)

end Regime.Produces

/-- The receiver of the running method is live, if a method is running. -/
def State.receiverIsLive (state : State) : Bool :=
  state.frame.receiver.all fun handle => (state.heap.get? handle).isSome

namespace Regime.Balanced

variable {R : Regime} {ledger : Ledger} {state : State} {value : Value}

/-- The receiver is in transit. It can be used as long as it is live. -/
theorem receiver (balanced : R.Balanced ledger state) {handle : Handle}
    (running : state.frame.receiver = some handle) (live : R.alive → state.receiverIsLive) :
    R.Produces ledger (.object handle) state := by
  obtain ⟨counted, issued, -, -, kept⟩ := balanced.counts handle
  have rooted : 0 < ledger.held.count handle + ledger.receivers.count handle := by
    rcases ledger.rooted handle (balanced.frame ▸ running) with inside | inside
    · exact Nat.add_pos_left (List.count_pos_iff.2 inside) _
    · exact Nat.add_pos_right _ (List.count_pos_iff.2 inside)
  refine ⟨balanced.carry fun other same => ?_,
    fun other same => ⟨fun inside => ?_, fun alive => ?_⟩⟩
  all_goals obtain rfl : other = handle := List.mem_singleton.1 same
  · exact issued (by omega)
  · have := counted (kept inside)
    omega
  · have found := live alive
    rw [State.receiverIsLive, running, Option.all_some] at found
    rwa [Heap.references?, Option.isSome_map]

/-- Reading a variable produces its value. -/
theorem resolve (balanced : R.Balanced ledger state) {name : String}
    (found : state.resolve name none = .ok value)
    (seen : R.alive → state.link name = .ok receiverName → state.receiverIsLive) :
    R.Produces ledger value state := by
  unfold State.resolve at found
  cases linked : state.link name with
  | error fault => rw [linked] at found; contradiction
  | ok target =>
    rw [linked] at found
    obtain ⟨place, stored⟩ | ⟨handle, rfl, running, rfl⟩ := cases_of_readNamed found
    · exact balanced.produces_of_get? stored
    · exact balanced.receiver running fun alive => seen alive linked

theorem readAttribute (balanced : R.Balanced ledger state) {handle : Handle} {name : String}
    (found : state.readAttribute handle name = .ok value) : R.Produces ledger value state :=
  balanced.produces_of_get? (stored_of_readAttribute found).choose_spec

theorem readPath (balanced : R.Balanced ledger state) {name : String} {path : List String}
    (found : state.readPath name path none = .ok value) : R.Produces ledger value state :=
  balanced.produces fun _ => occurrences_of_readPath found

end Regime.Balanced

end TagScript
