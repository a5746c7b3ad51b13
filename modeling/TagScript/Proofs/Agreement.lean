import TagScript.Proofs.Activations

/-!
# States that look alike

Running code sees the variables of its own scope and those of the global one. The variables of other
activations are part of the state, but out of sight. `State.Agrees` relates two states that may
differ in whatever is out of sight. Reading gives the same in both, and a change that concerns
scopes in sight leads to states that agree again.

Calls are where sight changes. The scope of a call starts out empty in both states, whatever an
earlier activation left in it, so it is in sight while the body runs; and when the call ends, the
scopes that were in sight before are as they were (`State.Agrees.endCall`).
-/

namespace TagScript

/-- Arrays are what is stored at places for arrays. -/
theorem Storage.arrays_get?_of_get? {first second : Storage} {key : String}
    (same : second.get? ⟨.array, key⟩ = first.get? ⟨.array, key⟩) :
    second.arrays.get? key = first.arrays.get? key :=
  Option.map_injective (fun _ _ => Value.array.inj) same

namespace State

/-- A place that a name in sight leads to, or that is pending. -/
def Sees (visible : String → Prop) (pending : List Binding) (state : State) (place : Binding) :
    Prop :=
  place ∈ pending ∨ ∃ scope name, visible scope ∧ state.bindingIn? scope name = some place

/-- The states differ only in what is bound in scopes out of sight, and in what is stored at places
that nothing in sight leads to. -/
structure Agrees (visible : String → Prop) (pending : List Binding) (first second : State) :
    Prop where
  heap : second.heap = first.heap
  functions : second.functions = first.functions
  classes : second.classes = first.classes
  frame : second.frame = first.frame
  binding : ∀ {scope}, visible scope → ∀ name,
    second.bindingIn? scope name = first.bindingIn? scope name
  value : ∀ {place}, first.Sees visible pending place →
    second.storage.get? place = first.storage.get? place

namespace Agrees

variable {visible visible' : String → Prop} {pending pending' : List Binding}
  {first second : State}

theorem refl (state : State) : Agrees visible pending state state :=
  ⟨rfl, rfl, rfl, rfl, fun _ _ => rfl, fun _ => rfl⟩

/-- What a name in sight leads to is stored alike. -/
theorem stored (agrees : Agrees visible pending first second) {scope name : String}
    {place : Binding} (inSight : visible scope)
    (bound : first.bindingIn? scope name = some place) :
    second.storage.get? place = first.storage.get? place :=
  agrees.value (.inr ⟨scope, name, inSight, bound⟩)

theorem mono (agrees : Agrees visible pending first second)
    (fewer : ∀ scope, visible' scope → visible scope)
    (less : ∀ place ∈ pending', place ∈ pending) : Agrees visible' pending' first second where
  heap := agrees.heap
  functions := agrees.functions
  classes := agrees.classes
  frame := agrees.frame
  binding inSight := agrees.binding (fewer _ inSight)
  value sees := agrees.value (sees.imp (less _) fun ⟨scope, name, inSight, bound⟩ =>
    ⟨scope, name, fewer _ inSight, bound⟩)

/-- Neither the heap nor the frame has to do with what is stored. -/
theorem withHeapAndFrame (agrees : Agrees visible pending first second) (heap : Heap)
    (frame : Frame) :
    Agrees visible pending { first with heap, frame } { second with heap, frame } :=
  ⟨rfl, agrees.functions, agrees.classes, rfl, agrees.binding, agrees.value⟩

theorem withHeap (agrees : Agrees visible pending first second) (change : Heap → Heap) :
    Agrees visible pending { first with heap := change first.heap }
      { second with heap := change second.heap } := by
  have changed := agrees.withHeapAndFrame (change first.heap) first.frame
  rw [agrees.heap]
  exact ⟨rfl, agrees.functions, agrees.classes, agrees.frame, changed.binding, changed.value⟩

theorem retain (agrees : Agrees visible pending first second) (value : Value) :
    Agrees visible pending (first.retain value) (second.retain value) :=
  agrees.withHeap (·.retainAll value.handles)

theorem disown (agrees : Agrees visible pending first second) (value : Value) :
    Agrees visible pending (first.disown value) (second.disown value) :=
  agrees.withHeap (·.decrementAll value.handles)

theorem enter (agrees : Agrees visible pending first second) (frame : Frame) :
    Agrees visible pending (first.enter frame) (second.enter frame) :=
  ⟨agrees.heap, agrees.functions, agrees.classes, rfl, agrees.binding, agrees.value⟩

section Reading

variable (agrees : Agrees visible pending first second) (global : visible globalScope)
  (running : visible first.frame.scope)
include agrees

theorem readAttribute (global : visible globalScope) (handle : Handle) (name : String) :
    second.readAttribute handle name = first.readAttribute handle name := by
  unfold State.readAttribute
  rw [agrees.binding global]
  cases bound : first.bindingIn? globalScope (attributeSlot handle name) with
  | none => rfl
  | some place => simp only [Option.bind_some, agrees.stored global bound]

include global running

theorem binding? (name : String) : second.binding? name none = first.binding? name none := by
  simp only [State.binding?, Option.getD_none, agrees.frame, agrees.binding running,
    agrees.binding global]

/-- A name that code finds leads to a place in sight. -/
theorem stored_of_binding? {name : String} {place : Binding}
    (found : first.binding? name none = some place) :
    second.storage.get? place = first.storage.get? place := by
  unfold State.binding? at found
  cases bound : first.bindingIn? first.frame.scope name with
  | some own =>
    rw [Option.getD_none, bound] at found
    cases found
    exact agrees.stored running bound
  | none =>
    rw [Option.getD_none, bound] at found
    exact agrees.stored global found

theorem readNamed (name : String) : second.readNamed name none = first.readNamed name none := by
  have stored : readNamed.stored second name none = readNamed.stored first name none := by
    unfold readNamed.stored
    rw [agrees.binding? global running]
    cases found : first.binding? name none with
    | none => rfl
    | some place => simp only [Option.bind_some, agrees.stored_of_binding? global running found]
  unfold State.readNamed
  rw [agrees.frame, stored]

theorem linkCharacters (characters : List Char) :
    second.linkCharacters characters = first.linkCharacters characters := by
  induction characters with
  | nil => rfl
  | cons c rest ih =>
    unfold State.linkCharacters
    split
    · next inner same =>
      cases same
      rw [ih]
      simp only [agrees.readNamed global running]
    · rfl

theorem link (name : String) : second.link name = first.link name :=
  agrees.linkCharacters global running name.toList

theorem resolve (name : String) : second.resolve name none = first.resolve name none := by
  unfold State.resolve
  rw [agrees.link global running]
  simp only [agrees.readNamed global running]

theorem readPath (name : String) (path : List String) :
    second.readPath name path none = first.readPath name path none := by
  unfold State.readPath
  rw [agrees.link global running]
  congr 1
  funext name
  rw [agrees.binding? global running]
  cases found : first.binding? name none with
  | none => rfl
  | some place =>
    obtain ⟨slot, key⟩ := place
    cases slot with
    | array =>
      have same := agrees.stored_of_binding? global running found
      simp only [Storage.arrays_get?_of_get? same]
    | scalar | object => rfl

end Reading

section Writing

variable (agrees : Agrees visible pending first second)
include agrees

/-- What is taken out of a scope in sight is the same, and so is what remains. -/
theorem take {scope : String} (inSight : visible scope) (name : String) :
    (second.take scope name).1 = (first.take scope name).1 ∧
      Agrees visible pending (first.take scope name).2 (second.take scope name).2 := by
  cases bound : first.bindingIn? scope name with
  | none =>
    have missing := (agrees.binding inSight name).trans bound
    simpa only [State.take, bound, missing, true_and] using agrees
  | some place =>
    have bound' := (agrees.binding inSight name).trans bound
    have taken : first.take scope name = (first.storage.get? place, { first with
        storage := first.storage.erase place
        scopes := first.scopes.insert scope ((first.bindings scope).erase name) }) := by
      simp only [State.take, bound]
    have taken' : second.take scope name = (second.storage.get? place, { second with
        storage := second.storage.erase place
        scopes := second.scopes.insert scope ((second.bindings scope).erase name) }) := by
      simp only [State.take, bound']
    refine ⟨?_, ?_, ?_, ?_, ?_, fun {scope'} inSight' name' => ?_, fun {place'} sees => ?_⟩
    · rw [taken, taken']
      exact agrees.stored inSight bound
    · rw [heap_take, heap_take, agrees.heap]
    · rw [taken, taken']
      exact agrees.functions
    · rw [taken, taken']
      exact agrees.classes
    · rw [frame_take, frame_take, agrees.frame]
    · rw [bindingIn?_take, bindingIn?_take, agrees.binding inSight']
    · have earlier : first.Sees visible pending place' := by
        refine sees.imp id ?_
        rintro ⟨scope', name', inSight', left⟩
        refine ⟨scope', name', inSight', ?_⟩
        rw [bindingIn?_take] at left
        split at left
        · contradiction
        · exact left
      rw [taken, taken']
      change (second.storage.erase place).get? place' = (first.storage.erase place).get? place'
      rw [Storage.get?_erase, Storage.get?_erase, agrees.value earlier]

theorem takeAll {scope : String} (inSight : visible scope) (names : List String) :
    (second.takeAll scope names).1 = (first.takeAll scope names).1 ∧
      Agrees visible pending (first.takeAll scope names).2 (second.takeAll scope names).2 := by
  induction names generalizing first second with
  | nil => exact ⟨rfl, agrees⟩
  | cons name names ih =>
    obtain ⟨same, one⟩ := agrees.take inSight name
    obtain ⟨rest, more⟩ := ih one
    exact ⟨by simp only [State.takeAll, same, rest], more⟩

/-- Binding a name in sight to a value, under the same key. -/
theorem setBinding (scope name key : String) (value : Value) :
    Agrees visible pending (first.setBinding scope name key value)
      (second.setBinding scope name key value) := by
  refine ⟨agrees.heap, agrees.functions, agrees.classes, agrees.frame,
    fun inSight' name' => ?_, fun {place} sees => ?_⟩
  · rw [bindingIn?_setBinding, bindingIn?_setBinding, agrees.binding inSight']
  · change (second.storage.insert key value).get? place =
      (first.storage.insert key value).get? place
    rw [Storage.get?_insert, Storage.get?_insert]
    split
    · rfl
    · next other =>
      refine agrees.value (sees.imp id fun ⟨scope', name', inSight', bound⟩ =>
        ⟨scope', name', inSight', ?_⟩)
      rw [bindingIn?_setBinding] at bound
      split at bound
      · cases bound
        exact absurd rfl other
      · exact bound

variable (global : visible globalScope)
include global

theorem reclaim (handle : Handle) (className : String) :
    (second.reclaim handle className).1 = (first.reclaim handle className).1 ∧
      Agrees visible pending (first.reclaim handle className).2
        (second.reclaim handle className).2 := by
  have slots : second.attributeSlots handle className = first.attributeSlots handle className := by
    simp only [attributeSlots, agrees.classes]
  obtain ⟨same, remain⟩ := (agrees.withHeap (·.remove handle)).takeAll global
    (first.attributeSlots handle className)
  unfold State.reclaim
  rw [slots]
  exact ⟨congrArg (List.flatMap Value.handles) same, remain⟩

/-- A cascade of releases takes the same course in both states. -/
theorem release (handles : List Handle) :
    Agrees visible pending (first.release handles) (second.release handles) := by
  -- While the first state is released step by step, the second one keeps up with it.
  have followed : ∃ other, Agrees visible pending (first.release handles) other ∧
      other.release [] = second.release handles := by
    refine release_induction (motive := fun rest state => ∃ other,
      Agrees visible pending state other ∧ other.release rest = second.release handles) ?_ ?_
      ⟨second, agrees, rfl⟩
    · rintro state handle rest ⟨other, agrees', same⟩ referenced
      refine ⟨_, agrees'.withHeap (·.decrement handle), ?_⟩
      rw [← same, release_cons_of_referenced rest (by rwa [agrees'.heap])]
    · rintro state handle rest object ⟨other, agrees', same⟩ found unreferenced
      have counted := agrees'.withHeap (·.decrement handle)
      obtain ⟨handles, remain⟩ := counted.reclaim global handle object.className
      refine ⟨_, remain, ?_⟩
      rw [← same, ← handles,
        release_cons_of_unreferenced rest (by rwa [agrees'.heap]) unreferenced]
  obtain ⟨other, agrees', ended⟩ := followed
  rw [release_nil] at ended
  exact ended ▸ agrees'

theorem discardHandle (handle : Handle) :
    Agrees visible pending (first.discardHandle handle) (second.discardHandle handle) := by
  unfold State.discardHandle
  rw [agrees.heap]
  split
  · exact agrees
  · next object _ =>
    split
    · obtain ⟨same, remain⟩ := agrees.reclaim global handle object.className
      dsimp only
      rw [same]
      exact remain.release global _
    · exact agrees

theorem unlink {scope : String} (inSight : visible scope) (name : String) :
    Agrees visible pending (first.unlink scope name) (second.unlink scope name) := by
  obtain ⟨same, remain⟩ := agrees.take inSight name
  rw [unlink_eq, unlink_eq, same]
  exact remain.release global _

theorem bind {scope : String} (inSight : visible scope) (name key : String) (value : Value) :
    Agrees visible pending (first.bind scope name key value)
      (second.bind scope name key value) :=
  ((agrees.retain value).unlink global inSight name).setBinding scope name key value

theorem assignAttribute (handle : Handle) (name : String) (value : Value) :
    Agrees visible pending (first.assignAttribute handle name value)
      (second.assignAttribute handle name value) :=
  agrees.bind global global _ _ value

theorem openArray {scope : String} (inSight : visible scope) (name : String) :
    (second.openArray scope name).1 = (first.openArray scope name).1 ∧
      Agrees visible pending (first.openArray scope name).2 (second.openArray scope name).2 := by
  have opened := (agrees.unlink global inSight name).setBinding scope name
    (variableKey scope name) (.array [])
  unfold State.openArray
  rw [agrees.binding inSight]
  split
  · exact ⟨rfl, agrees⟩
  · exact ⟨rfl, opened⟩

omit global in
/-- Cells are written alike in an array that a name in sight leads to. -/
theorem writeCells {key : String} (sees : first.Sees visible pending ⟨.array, key⟩)
    (path : List String) (value : Value) :
    (second.writeCells key path value).1 = (first.writeCells key path value).1 ∧
      Agrees visible pending (first.writeCells key path value).2
        (second.writeCells key path value).2 := by
  unfold State.writeCells
  rw [Storage.arrays_get?_of_get? (agrees.value sees)]
  split
  · exact ⟨rfl, agrees⟩
  · next cells _ =>
    refine ⟨rfl, agrees.heap, agrees.functions, agrees.classes, agrees.frame, agrees.binding,
      fun {place} sees' => ?_⟩
    change (second.storage.insert key _).get? place = (first.storage.insert key _).get? place
    rw [Storage.get?_insert, Storage.get?_insert, agrees.value sees']

variable (running : visible first.frame.scope)
include running

theorem assign (name : String) (value : Value) :
    Agrees visible pending (first.assign name value none) (second.assign name value none) := by
  unfold State.assign
  rw [agrees.frame]
  exact agrees.bind global running name _ value

theorem assignPath (name : String) (path : List String) (value : Value) :
    Agrees visible pending (first.assignPath name path value none)
      (second.assignPath name path value none) := by
  unfold State.assignPath
  rw [agrees.frame]
  obtain ⟨key, opened⟩ := (agrees.retain value).openArray global running name
  have sees : ((first.retain value).openArray first.frame.scope name).2.Sees visible pending
      ⟨.array, ((first.retain value).openArray first.frame.scope name).1⟩ :=
    .inr ⟨_, name, running, bindingIn?_openArray _ _ _⟩
  obtain ⟨handles, written⟩ := opened.writeCells sees path value
  simp only [Option.getD_none, key, handles]
  exact written.release global _

theorem bindArguments (params : List String) (values : List Value) :
    Agrees visible pending (first.bindArguments params values)
      (second.bindArguments params values) := by
  have disowned {first second : State} (agrees : Agrees visible pending first second)
      (values : List Value) :
      Agrees visible pending (values.foldl State.disown first)
        (values.foldl State.disown second) := by
    induction values generalizing first second with
    | nil => exact agrees
    | cons value values ih => exact ih (agrees.disown value)
  refine disowned ?_ values
  induction values generalizing first second with
  | nil => exact agrees
  | cons value values ih =>
    have assigned := agrees.assign global running (argumentName params first.frame.passed) value
    have one : Agrees visible pending (first.bindArgument params value)
        (second.bindArgument params value) := by
      simp only [bindArgument, frame_assign, agrees.frame]
      exact assigned.enter _
    refine ih one ?_
    rw [frame_bindArgument]
    exact running

end Writing

end Agrees

theorem erase_of_missing {state : State} {scope : String}
    (missing : state.scopes.get? scope = none) :
    state.scopes.erase scope = state.scopes ∧ (state.bindings scope).values = [] := by
  refine ⟨Table.erase_of_none missing, ?_⟩
  simp only [bindings, missing]
  rfl

/-- A scope that does not exist is as good as an empty one. -/
theorem drop_eq (state : State) (scope : String) :
    state.drop scope = { state with scopes := state.scopes.erase scope }.clear
      (state.bindings scope).values := by
  unfold drop
  split
  · next missing =>
    rw [(erase_of_missing missing).1, (erase_of_missing missing).2]
    rfl
  · next table found => simp only [bindings, found, Option.getD_some]

theorem suspend_snd (state : State) (scope : String) :
    (state.suspend scope).2 = { state with
      scopes := state.scopes.erase scope
      storage := (state.storage.takeAll (state.bindings scope).values).2 } := by
  unfold suspend
  split
  · next missing =>
    rw [(erase_of_missing missing).1, (erase_of_missing missing).2]
    rfl
  · next table found => simp only [bindings, found, Option.getD_some]

/-- The places of one scope are not those of another. -/
theorem WellKeyed.not_mem_values {state : State} (keyed : state.WellKeyed [])
    {scope scope' name : String} {place : Binding}
    (bound : state.bindingIn? scope name = some place) (differs : scope ≠ scope') :
    place ∉ (state.bindings scope').values := by
  intro inside
  obtain ⟨name', bound'⟩ := (Table.mem_values _ _).1 inside
  exact differs (keyed.inj bound bound' rfl).1

namespace Agrees

variable {visible : String → Prop} {pending : List Binding} {first second : State}

/-- Clearing places at which the same is stored. -/
theorem clear {places : List Binding} (agrees : Agrees visible places first second)
    (global : visible globalScope) :
    Agrees visible [] (first.clear places) (second.clear places) := by
  induction places generalizing first second with
  | nil => exact agrees
  | cons place places ih =>
    have fewer : Agrees visible places first second :=
      agrees.mono (fun _ => id) fun _ => List.mem_cons_of_mem _
    have same := agrees.value (.inl List.mem_cons_self)
    unfold State.clear
    rw [same]
    split
    · exact ih fewer
    · next value _ =>
      have erased : Agrees visible places { first with storage := first.storage.erase place }
          { second with storage := second.storage.erase place } := by
        refine ⟨agrees.heap, agrees.functions, agrees.classes, agrees.frame, agrees.binding,
          fun {place'} sees => ?_⟩
        change (second.storage.erase place).get? place' = (first.storage.erase place).get? place'
        rw [Storage.get?_erase, Storage.get?_erase, fewer.value sees]
      exact ih (erased.release global value.handles)

theorem drop (agrees : Agrees visible [] first second) (global : visible globalScope)
    {scope : String} (inSight : visible scope) :
    Agrees visible [] (first.drop scope) (second.drop scope) := by
  have same : second.bindings scope = first.bindings scope :=
    Table.ext_get? (agrees.binding inSight)
  rw [drop_eq, drop_eq, same]
  refine clear ⟨agrees.heap, agrees.functions, agrees.classes, agrees.frame,
    fun inSight' name => ?_, fun {place} sees => ?_⟩ global
  · rw [bindingIn?_erase, bindingIn?_erase, agrees.binding inSight']
  · obtain inside | ⟨scope', name, inSight', bound⟩ := sees
    · obtain ⟨name, bound⟩ := (Table.mem_values _ _).1 inside
      exact agrees.stored inSight bound
    · rw [bindingIn?_erase] at bound
      split at bound
      · contradiction
      · exact agrees.stored inSight' bound

/-- A scope that has been suspended is empty in both states, whether it was in sight or not. -/
theorem suspend (agrees : Agrees visible [] first second) (keyed₁ : first.WellKeyed [])
    (keyed₂ : second.WellKeyed []) (scope : String) :
    Agrees (fun other => visible other ∨ other = scope) [] (first.suspend scope).2
      (second.suspend scope).2 := by
  rw [suspend_snd, suspend_snd]
  refine ⟨agrees.heap, agrees.functions, agrees.classes, agrees.frame,
    fun {scope'} inSight name => ?_, fun {place} sees => ?_⟩
  · rw [bindingIn?_erase, bindingIn?_erase]
    split
    · rfl
    · next differs => exact agrees.binding (inSight.resolve_right (Ne.symm differs)) name
  · obtain none | ⟨scope', name, inSight, bound⟩ := sees
    · contradiction
    · rw [bindingIn?_erase] at bound
      split at bound
      · contradiction
      · next differs =>
        have inSight := inSight.resolve_right (Ne.symm differs)
        have bound' := (agrees.binding inSight name).trans bound
        rw [Storage.get?_takeAll, Storage.get?_takeAll,
          if_neg (keyed₁.not_mem_values bound (Ne.symm differs)),
          if_neg (keyed₂.not_mem_values bound' (Ne.symm differs))]
        exact agrees.stored inSight bound

theorem holdReceiver (agrees : Agrees visible pending first second)
    (receiver : Option Receiver) :
    Agrees visible pending (first.holdReceiver receiver) (second.holdReceiver receiver) := by
  cases receiver with
  | none => exact agrees
  | some receiver => exact agrees.withHeap (·.retain receiver.handle)

/-- The body of a call sees what its caller sees, and its own scope. -/
theorem beginCall (agrees : Agrees visible [] first second) (keyed₁ : first.WellKeyed [])
    (keyed₂ : second.WellKeyed []) (frame : Frame) (receiver : Option Receiver) :
    Agrees (fun scope => visible scope ∨ scope = frame.scope) []
      (first.beginCall frame receiver).2 (second.beginCall frame receiver).2 := by
  have held₁ : Keeps slots [] first (first.holdReceiver receiver) := .holdReceiver keyed₁ receiver
  have held₂ : Keeps slots [] second (second.holdReceiver receiver) :=
    .holdReceiver keyed₂ receiver
  rw [beginCall_eq, beginCall_eq]
  exact ((agrees.holdReceiver receiver).suspend held₁.keyed held₂.keyed frame.scope).enter frame

theorem holdResult (agrees : Agrees visible pending first second) (result : Option Value) :
    Agrees visible pending (first.holdResult result) (second.holdResult result) := by
  cases result with
  | none => exact agrees
  | some value => exact agrees.retain value

theorem disownResult (agrees : Agrees visible pending first second) (result : Option Value) :
    Agrees visible pending (first.disownResult result) (second.disownResult result) := by
  cases result with
  | none => exact agrees
  | some value => exact agrees.disown value

theorem letGoReceiver (agrees : Agrees visible pending first second)
    (global : visible globalScope) (result : Option Value) (receiver : Option Receiver) :
    Agrees visible pending (first.letGoReceiver result receiver)
      (second.letGoReceiver result receiver) := by
  cases receiver with
  | none => exact agrees
  | some receiver =>
    unfold State.letGoReceiver State.letGo
    dsimp only
    split
    · exact agrees.withHeap (·.decrement receiver.handle)
    · exact agrees.release global [receiver.handle]

end Agrees

section Resumption

variable {state base : State} {scope scope' : String} (differs : scope ≠ scope')
include differs

theorem bindingIn?_resumeEarlier (name : String) :
    (state.resumeEarlier (base.suspend scope).1).bindingIn? scope' name =
      state.bindingIn? scope' name := by
  cases given : (base.suspend scope).1 with
  | none => rfl
  | some suspended => exact (bindingIn?_resume (from_of_suspend given) _ _).trans (if_neg differs)

theorem get?_resumeEarlier (keyed : base.WellKeyed []) (keyed' : state.WellKeyed [])
    {name : String} {place : Binding} (bound : state.bindingIn? scope' name = some place) :
    (state.resumeEarlier (base.suspend scope).1).storage.get? place =
      state.storage.get? place := by
  cases given : (base.suspend scope).1 with
  | none => rfl
  | some suspended => exact get?_resume_other (from_of_suspend given) keyed keyed' differs bound

end Resumption

namespace Agrees

variable {visible : String → Prop} {first second later₁ later₂ : State} {frame : Frame}
  {receiver : Option Receiver} (agrees : Agrees visible [] first second)
  (keyed₁ : first.WellKeyed []) (keyed₂ : second.WellKeyed []) (names₁ : first.PlainNames)
  (names₂ : second.PlainNames) (own : frame.scope ≠ globalScope)
  (body₁ : Keeps (slotsAndScope frame.scope) [] (first.beginCall frame receiver).2 later₁)
  (body₂ : Keeps (slotsAndScope frame.scope) [] (second.beginCall frame receiver).2 later₂)
  (inside : Agrees (fun scope => scope = globalScope ∨ scope = frame.scope) [] later₁ later₂)
  (result : Option Value)
include agrees keyed₁ keyed₂ names₁ names₂ own body₁ body₂ inside

/-- When a call ends, the global scope is as its body left it, in both states alike. Every other
scope is as it was before the call. -/
theorem resumeBody :
    Agrees visible []
      (((later₁.holdResult result).drop frame.scope).resumeEarlier
        ((first.holdReceiver receiver).suspend frame.scope).1)
      (((later₂.holdResult result).drop frame.scope).resumeEarlier
        ((second.holdReceiver receiver).suspend frame.scope).1) := by
  have dropped := (inside.holdResult result).drop (.inl rfl) (.inr rfl)
  have held₁ : Keeps slots [] first (first.holdReceiver receiver) := .holdReceiver keyed₁ receiver
  have held₂ : Keeps slots [] second (second.holdReceiver receiver) :=
    .holdReceiver keyed₂ receiver
  have dropped₁ := Keeps.dropBody keyed₁ names₁ result body₁
  have dropped₂ := Keeps.dropBody keyed₂ names₂ result body₂
  have resumed₁ := Keeps.resumeBody keyed₁ names₁ result body₁
  have resumed₂ := Keeps.resumeBody keyed₂ names₂ result body₂
  have unchanged (state : State) (earlier : Option Suspended) :
      (state.resumeEarlier earlier).heap = state.heap ∧
        (state.resumeEarlier earlier).frame = state.frame := by
    cases earlier <;> exact ⟨rfl, rfl⟩
  refine ⟨?_, ?_, ?_, ?_, fun {scope} inSight name => ?_, fun {place} sees => ?_⟩
  · rw [(unchanged _ _).1, (unchanged _ _).1, dropped.heap]
  · rw [resumed₁.functions, resumed₂.functions, agrees.functions]
  · rw [resumed₁.classes, resumed₂.classes, agrees.classes]
  · rw [(unchanged _ _).2, (unchanged _ _).2, dropped.frame]
  · by_cases global : scope = globalScope
    · subst global
      rw [bindingIn?_resumeEarlier own, bindingIn?_resumeEarlier own, dropped.binding (.inl rfl)]
    · have untouched : ¬ slots scope name := fun slot => global slot.1
      rw [resumed₁.binding untouched, resumed₂.binding untouched, agrees.binding inSight]
  · obtain none | ⟨scope, name, inSight, bound⟩ := sees
    · contradiction
    · by_cases global : scope = globalScope
      · subst global
        rw [bindingIn?_resumeEarlier own] at bound
        have bound' := (dropped.binding (.inl rfl) name).trans bound
        rw [get?_resumeEarlier own held₁.keyed dropped₁.keyed bound,
          get?_resumeEarlier own held₂.keyed dropped₂.keyed bound',
          dropped.stored (.inl rfl) bound]
      · have untouched : ¬ slots scope name := fun slot => global slot.1
        rw [resumed₁.binding untouched] at bound
        have bound' := (agrees.binding inSight name).trans bound
        rw [resumed₁.value untouched bound, resumed₂.value untouched bound',
          agrees.stored inSight bound]

/-- A call from states that agree ends in states that agree on the same scopes, if its body sees no
difference. -/
theorem endCall (global : visible globalScope) :
    Agrees visible [] (later₁.endCall (first.beginCall frame receiver).1 result)
      (later₂.endCall (second.beginCall frame receiver).1 result) := by
  have resumed := agrees.resumeBody keyed₁ keyed₂ names₁ names₂ own body₁ body₂ inside result
  rw [beginCall_eq, beginCall_eq, endCall_eq, endCall_eq, agrees.frame]
  exact ((resumed.enter first.frame).letGoReceiver global result receiver).disownResult result

end Agrees

end State

end TagScript
