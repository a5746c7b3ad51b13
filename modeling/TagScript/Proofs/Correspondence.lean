import Mathlib.Algebra.GroupWithZero.Nat
import Mathlib.Data.List.Permutation
import TagScript.Proofs.Activations

/-!
# Bindings and stored values correspond

Variables, attributes and arrays are written under keys of different forms, into three stores, and a
release in the middle of a write may unbind other names. Whatever sequence of operations has been
performed on the state, every binding leads to a value of its own, and no value is stored that no
binding leads to. `State.WellKeyed` is the invariant behind this, and it implies that there are as
many stored values as there are bindings.

A scope that was suspended is put back only where nothing of that name is left, so the operations
are performed in a `Workspace`, which keeps the suspended scopes and knows what was dropped last.
-/

namespace TagScript

/-- The places at which the entries of a table are stored. -/
def Table.places {α : Type} (table : Table α) (slot : Slot) : List Binding :=
  table.entries.map fun entry => ⟨slot, entry.1⟩

namespace Table

variable {α : Type} (table : Table α)

theorem length_places (slot : Slot) : (table.places slot).length = table.size := by
  simp [places, size]

theorem mem_places {slot : Slot} {place : Binding} :
    place ∈ table.places slot ↔ place.slot = slot ∧ (table.get? place.key).isSome := by
  simp only [places, List.mem_map, Option.isSome_iff_exists, ← mem_entries]
  constructor
  · rintro ⟨⟨key, value⟩, inside, rfl⟩
    exact ⟨rfl, value, inside⟩
  · rintro ⟨rfl, value, inside⟩
    exact ⟨(place.key, value), inside, rfl⟩

theorem nodup_places (slot : Slot) : (table.places slot).Nodup := by
  refine List.pairwise_map.2 ((List.pairwise_map.1 table.ascending).imp ?_)
  intro first second below same
  rw [(Binding.mk.inj same).2] at below
  exact String.lt_irrefl _ below

end Table

namespace Storage

/-- All places at which something is stored. -/
def places (storage : Storage) : List Binding :=
  storage.scalars.places .scalar ++ storage.arrays.places .array ++
    storage.handles.places .object

theorem length_places (storage : Storage) : storage.places.length = storage.size := by
  simp [places, size, Table.length_places, Nat.add_assoc]

theorem mem_places {storage : Storage} {place : Binding} :
    place ∈ storage.places ↔ (storage.get? place).isSome := by
  obtain ⟨slot, key⟩ := place
  cases slot <;> simp [places, Table.mem_places, get?]

theorem nodup_places (storage : Storage) : storage.places.Nodup := by
  refine List.nodup_append.2 ⟨List.nodup_append.2 ⟨Table.nodup_places _ _, Table.nodup_places _ _,
    ?_⟩, Table.nodup_places _ _, ?_⟩
  all_goals
    intro first inside second inside' same
    simp only [List.mem_append, Table.mem_places] at inside inside'
    grind

end Storage

namespace State

/-- The number of bindings, in all scopes. -/
def bindingCount (state : State) : Nat :=
  (state.scopes.values.map Table.size).sum

/-- All places that bindings lead to. -/
def places (state : State) : List Binding :=
  state.scopes.entries.flatMap fun entry => entry.2.values

theorem length_places (state : State) : state.places.length = state.bindingCount := by
  simp [places, bindingCount, List.length_flatMap, Table.values, Table.size, Function.comp_def]

/-- The bindings of a scope, by its entry. -/
theorem mem_values_of_entry {state : State} {entry : String × Table Binding}
    (inside : entry ∈ state.scopes.entries) {place : Binding} :
    place ∈ entry.2.values ↔ ∃ name, state.bindingIn? entry.1 name = some place := by
  have found : state.scopes.get? entry.1 = some entry.2 := state.scopes.mem_entries.1 inside
  simp only [Table.mem_values, bindingIn?_of_get? found]

theorem mem_places {state : State} {place : Binding} :
    place ∈ state.places ↔ ∃ scope name, state.bindingIn? scope name = some place := by
  rw [places, List.mem_flatMap]
  constructor
  · rintro ⟨entry, inside, bound⟩
    exact ⟨entry.1, (mem_values_of_entry inside).1 bound⟩
  · rintro ⟨scope, name, bound⟩
    cases found : state.scopes.get? scope with
    | none => simp [bindingIn?_of_missing found] at bound
    | some table =>
      have inside := state.scopes.mem_entries.2 found
      exact ⟨(scope, table), inside, (mem_values_of_entry inside).2 ⟨name, bound⟩⟩

/-- No two bindings lead to one place, be they in the same scope or in different ones. -/
theorem WellKeyed.nodup_places {state : State} (keyed : state.WellKeyed []) :
    state.places.Nodup := by
  refine List.pairwise_flatMap.2 ⟨fun entry inside => ?_, ?_⟩
  · have found : state.scopes.get? entry.1 = some entry.2 := state.scopes.mem_entries.1 inside
    refine List.pairwise_map.2 ((List.pairwise_map.1 entry.2.ascending).imp_of_mem ?_)
    intro first second here here' below same
    have bound := bindingIn?_of_get? found first.1
    have bound' := bindingIn?_of_get? found second.1
    rw [entry.2.mem_entries.1 here] at bound
    rw [entry.2.mem_entries.1 here'] at bound'
    rw [(keyed.inj bound bound' (congrArg Binding.key same)).2] at below
    exact String.lt_irrefl _ below
  · refine (List.pairwise_map.1 state.scopes.ascending).imp_of_mem ?_
    rintro first second here here' below place inside _ inside' rfl
    obtain ⟨name, bound⟩ := (mem_values_of_entry here).1 inside
    obtain ⟨name', bound'⟩ := (mem_values_of_entry here').1 inside'
    rw [(keyed.inj bound bound' rfl).1] at below
    exact String.lt_irrefl _ below

/-- Bindings and stored values are in one-to-one correspondence. -/
structure Corresponds (state : State) : Prop where
  /-- A value is stored where a binding leads to. -/
  stored : ∀ {scope name place}, state.bindingIn? scope name = some place →
    (state.storage.get? place).isSome
  /-- Bindings do not share keys. -/
  distinct : ∀ {scope name place scope' name' place'},
    state.bindingIn? scope name = some place → state.bindingIn? scope' name' = some place' →
    place.key = place'.key → scope = scope' ∧ name = name'
  /-- Stores do not share keys. -/
  single : ∀ {slot slot' key}, (state.storage.get? ⟨slot, key⟩).isSome →
    (state.storage.get? ⟨slot', key⟩).isSome → slot = slot'
  /-- Some binding leads to where a value is stored. -/
  bound : ∀ {place}, (state.storage.get? place).isSome →
    ∃ scope name, state.bindingIn? scope name = some place
  count : state.storage.size = state.bindingCount

theorem WellKeyed.corresponds {state : State} (keyed : state.WellKeyed []) :
    state.Corresponds := by
  have bound {place : Binding} (stored : (state.storage.get? place).isSome) :
      ∃ scope name, state.bindingIn? scope name = some place :=
    (keyed.bound stored).resolve_left List.not_mem_nil
  refine ⟨keyed.stored, keyed.inj, fun {slot slot' key} stored stored' => ?_, bound, ?_⟩
  · obtain ⟨scope, name, found⟩ := bound stored
    obtain ⟨scope', name', found'⟩ := bound stored'
    obtain ⟨rfl, rfl⟩ := keyed.inj found found' rfl
    rw [found] at found'
    exact (Binding.mk.inj (Option.some.inj found')).1
  · have same : state.storage.places.Perm state.places := by
      refine (List.perm_ext_iff_of_nodup state.storage.nodup_places keyed.nodup_places).2
        fun place => ?_
      rw [Storage.mem_places, State.mem_places]
      exact ⟨bound, fun ⟨_, _, found⟩ => keyed.stored found⟩
    rw [← Storage.length_places, ← State.length_places, same.length_eq]

end State

/-- Names of a class that may occur in scopes and slots. -/
def ClassDecl.HasPlainNames (decl : ClassDecl) : Prop :=
  Plain decl.name ∧ (∀ method ∈ decl.methods, Plain method.function.name) ∧
    ∀ member ∈ decl.attributes, Plain member.name

instance : DecidablePred ClassDecl.HasPlainNames := fun _ =>
  inferInstanceAs (Decidable (_ ∧ _))

/-- What can be done to a state. Classes and objects are among it, for without them no release would
lead to another. -/
inductive Operation
  | declareClass (decl : ClassDecl)
  | allocate (className : String)
  | assign (name : String) (value : Value) (scope : Option String)
  | assignAttribute (handle : Handle) (name : String) (value : Value)
  | assignPath (name : String) (path : List String) (value : Value) (scope : Option String)
  | unlink (scope name : String)
  | drop (scope : String)
  | suspend (scope : String)
  /-- Puts back the scope that was suspended last. -/
  | resume

/-- A state that operations are performed on. -/
structure Workspace where
  state : State := .initial
  /-- The scopes that are suspended, the last one first. -/
  suspended : List Suspended := []
  /-- The scope that was dropped, if that was the last operation. -/
  dropped : Option String := none

namespace Workspace

/-- Another state in place of the current one. -/
def put (workspace : Workspace) (state : State) : Workspace :=
  { workspace with state, dropped := none }

/-- Performs an operation. Scopes and attributes that are written have to have plain names, and a
scope is put back only directly after the one in its place has been dropped. -/
def perform (workspace : Workspace) : Operation → Option Workspace
  | .declareClass decl =>
    match workspace.state.declareClass decl with
    | .ok state => if decl.HasPlainNames then some (workspace.put state) else none
    | .error _ => none
  | .allocate className =>
    let heap := workspace.state.heap.allocate className
    some (workspace.put { workspace.state with heap })
  | .assign name value scope =>
    if Plain (scope.getD workspace.state.frame.scope) then
      some (workspace.put (workspace.state.assign name value scope))
    else none
  | .assignAttribute handle name value =>
    if Plain name then some (workspace.put (workspace.state.assignAttribute handle name value))
    else none
  | .assignPath name path value scope =>
    if Plain (scope.getD workspace.state.frame.scope) then
      some (workspace.put (workspace.state.assignPath name path value scope))
    else none
  | .unlink scope name => some (workspace.put (workspace.state.unlink scope name))
  | .drop scope =>
    some { workspace with state := workspace.state.drop scope, dropped := some scope }
  | .suspend scope =>
    let (suspended, state) := workspace.state.suspend scope
    some { state, suspended := suspended.toList ++ workspace.suspended }
  | .resume =>
    match workspace.suspended with
    | [] => none
    | last :: earlier =>
      if workspace.dropped = some last.name then
        some { state := workspace.state.resume last, suspended := earlier }
      else none

/-- Performs operations in order, from the initial state on. -/
def performAll (operations : List Operation) : Option Workspace :=
  operations.foldlM perform {}

open State

/-- What the operations keep up. -/
structure Sound (workspace : Workspace) : Prop where
  keyed : workspace.state.WellKeyed []
  names : workspace.state.PlainNames
  suspended : ∀ suspended ∈ workspace.suspended,
    ∃ origin : State, origin.WellKeyed [] ∧ suspended.From origin suspended.name
  dropped : ∀ scope ∈ workspace.dropped, ∀ name, workspace.state.bindingIn? scope name = none

namespace Sound

theorem initial : Sound {} where
  keyed := .initial
  names := ⟨nofun, nofun, nofun, nofun⟩
  suspended := nofun
  dropped := nofun

variable {workspace : Workspace} (sound : workspace.Sound)
include sound

/-- An operation that keeps everything it does not touch. -/
theorem step {touched : String → String → Prop} {state : State}
    (keeps : Keeps touched [] workspace.state state) :
    (workspace.put state).Sound where
  keyed := keeps.keyed
  names := keeps.plainNames sound.names
  suspended := sound.suspended
  dropped := nofun

theorem declareClass {decl : ClassDecl} (plain : decl.HasPlainNames) {state : State}
    (declares : workspace.state.declareClass decl = .ok state) :
    (workspace.put state).Sound := by
  obtain ⟨className, methods, members⟩ := plain
  obtain ⟨names, classes, methods', members'⟩ := sound.names
  rw [eq_of_declareClass declares]
  refine ⟨sound.keyed.congr rfl rfl, ⟨names, ?_, ?_, ?_⟩, sound.suspended, nofun⟩
  · exact Table.forall_insert className fun _ _ => classes
  · exact Table.forall_insert methods fun _ _ => methods'
  · exact Table.forall_insert members fun _ _ => members'

theorem suspend (scope : String) :
    Sound { state := (workspace.state.suspend scope).2,
            suspended := (workspace.state.suspend scope).1.toList ++ workspace.suspended } where
  keyed := (Keeps.suspend sound.keyed scope).keyed
  names := (Keeps.suspend sound.keyed scope).plainNames sound.names
  suspended := by
    intro suspended inside
    obtain given | earlier := List.mem_append.1 inside
    · have taken := from_of_suspend (Option.mem_toList.1 given)
      exact ⟨workspace.state, sound.keyed, taken.name.symm ▸ taken⟩
    · exact sound.suspended suspended earlier
  dropped := nofun

theorem resume {last : Suspended} {earlier : List Suspended}
    (given : workspace.suspended = last :: earlier)
    (dropped : workspace.dropped = some last.name) :
    Sound { state := workspace.state.resume last, suspended := earlier } := by
  have inside : last ∈ workspace.suspended := given ▸ List.mem_cons_self
  obtain ⟨origin, keyed, taken⟩ := sound.suspended last inside
  have empty := sound.dropped last.name dropped
  refine ⟨.resume taken keyed sound.keyed empty, ?_, fun suspended older => ?_, nofun⟩
  · exact ⟨sound.names.function, sound.names.className, sound.names.method, sound.names.member⟩
  · exact sound.suspended suspended (given ▸ List.mem_cons_of_mem _ older)

/-- Every operation leads from one sound workspace to another. -/
theorem perform {operation : Operation} {later : Workspace}
    (performed : workspace.perform operation = some later) : later.Sound := by
  cases operation with
  | declareClass decl =>
    simp only [Workspace.perform] at performed
    split at performed
    next state declares =>
      simp only [Option.ite_none_right_eq_some, Option.some.injEq] at performed
      obtain ⟨names, rfl⟩ := performed
      exact sound.declareClass names declares
    · contradiction
  | allocate className =>
    cases performed
    exact sound.step (Keeps.heap sound.keyed _ : Keeps slots [] _ _)
  | assign name value scope =>
    simp only [Workspace.perform, Option.ite_none_right_eq_some, Option.some.injEq] at performed
    obtain ⟨plain, rfl⟩ := performed
    exact sound.step (.bind sound.keyed sound.names plain (.inl rfl) value)
  | assignAttribute handle name value =>
    simp only [Workspace.perform, Option.ite_none_right_eq_some, Option.some.injEq] at performed
    obtain ⟨plain, rfl⟩ := performed
    exact sound.step (.assignAttribute sound.keyed sound.names handle plain value)
  | assignPath name path value scope =>
    simp only [Workspace.perform, Option.ite_none_right_eq_some, Option.some.injEq] at performed
    obtain ⟨plain, rfl⟩ := performed
    exact sound.step (.assignPath sound.keyed sound.names scope plain name path value)
  | unlink scope name =>
    cases performed
    exact sound.step (.unlink sound.keyed sound.names scope name)
  | drop scope =>
    cases performed
    have keeps := Keeps.drop sound.keyed sound.names scope
    refine ⟨keeps.keyed, keeps.plainNames sound.names, sound.suspended, ?_⟩
    rintro _ ⟨⟩ name
    exact bindingIn?_drop_self workspace.state scope name
  | suspend scope =>
    cases performed
    exact sound.suspend scope
  | resume =>
    simp only [Workspace.perform] at performed
    split at performed
    · contradiction
    next last earlier given =>
      simp only [Option.ite_none_right_eq_some, Option.some.injEq] at performed
      obtain ⟨dropped, rfl⟩ := performed
      exact sound.resume given dropped

end Sound

/-- What any number of operations leads to is sound. -/
theorem Sound.foldlM {workspace later : Workspace} (sound : workspace.Sound)
    {operations : List Operation}
    (performed : operations.foldlM Workspace.perform workspace = some later) : later.Sound := by
  induction operations generalizing workspace with
  | nil =>
    cases performed
    exact sound
  | cons operation operations ih =>
    rw [List.foldlM_cons, Option.bind_eq_bind, Option.bind_eq_some_iff] at performed
    obtain ⟨next, first, rest⟩ := performed
    exact ih (sound.perform first) rest

end Workspace

/-- Whatever is performed on the initial state, bindings and stored values stay in one-to-one
correspondence. -/
theorem performAll_corresponds {operations : List Operation} {workspace : Workspace}
    (performed : Workspace.performAll operations = some workspace) :
    workspace.state.Corresponds :=
  (Workspace.Sound.initial.foldlM performed).keyed.corresponds

/-- An object that a suspended scope refers to dies when the scope has been put back, and its
attribute goes with it. The attribute holds another object, and variables have names that look like
the slot of an attribute and like a key. -/
def reuse : List Operation :=
  let box : ClassDecl := ⟨.anyone, "Box", [⟨.anyone, "inner", none⟩], []⟩
  [.declareClass box, .allocate "Box", .allocate "Box",
    .assignAttribute 0 "inner" (.object 1), .assign "box" (.object 0) (some "f"),
    .assign "0::inner" (.text "local") (some "f"), .suspend "f",
    .assign "box" (.int 1) (some "f"), .assign "f#box" (.int 2) none, .suspend "f",
    .assignPath "f#box" ["first", "second"] (.object 1) none, .drop "f", .resume,
    .drop "f", .resume, .assign "box" (.array []) (some "f")]

/-- Three variables are left at the end, and the slot of the attribute is not. -/
theorem performAll_corresponds_of_reuse : ∃ workspace,
    Workspace.performAll reuse = some workspace ∧ workspace.state.storage.size = 3 ∧
      workspace.state.Corresponds := by
  have counted : (Workspace.performAll reuse).map (·.state.storage.size) = some 3 := by cbv
  obtain ⟨workspace, performed, size⟩ := Option.map_eq_some_iff.1 counted
  exact ⟨workspace, performed, size, performAll_corresponds performed⟩

end TagScript
