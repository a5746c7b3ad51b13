import TagScript.Proofs.Agreement
import TagScript.Proofs.Soundness

/-!
# Variables are kept apart

A script can compute the name of a variable, and the key that a value is stored under is a text put
together from names. Still every variable has a place of its own: writing one leaves all others
bound as they were and to the same values. What the old value held is released, though, and that may
reclaim objects together with their attributes. A variable of the global scope that is called like
an attribute of such an object goes with it, so the law is about names without a double colon
(`assign_separates`).

A list of writes touches no more than a single write does (`State.Sweeps.writeAll`). So an array
that was copied stays as it is, whatever is written to the original, and the other way round.
-/

namespace TagScript

/-- The sign between the handle and the attribute in the name of a slot. -/
def HasDoubleColon (name : String) : Prop :=
  [':', ':'] <:+: name.toList

instance : DecidablePred HasDoubleColon := fun name =>
  inferInstanceAs (Decidable ([':', ':'] <:+: name.toList))

theorem hasDoubleColon_attributeSlot (handle : Handle) (member : String) :
    HasDoubleColon (attributeSlot handle member) := by
  apply List.infix_iff_prefix_suffix.2
  exact ⟨':' :: ':' :: member.toList, List.prefix_append [':', ':'] member.toList,
    ⟨Nat.toDigits 10 handle, (toList_attributeSlot handle member).symm⟩⟩

namespace State

theorem not_lost_of_not_hasDoubleColon {before after : State} {name : String}
    (single : ¬ HasDoubleColon name) (scope : String) : ¬ Lost before after scope name := by
  rintro ⟨-, handle, member, rfl, -⟩
  exact single (hasDoubleColon_attributeSlot handle member)

/-- A variable that was neither touched nor lost leads to the same value. -/
theorem Sweeps.valueIn? {touched : String → String → Prop} {pending : List Binding}
    {first second : State} (sweeps : Sweeps touched pending first second) {scope name : String}
    (untouched : ¬ touched scope name) (kept : ¬ Lost first second scope name) :
    second.bindingIn? scope name = first.bindingIn? scope name ∧
      second.valueIn? scope name = first.valueIn? scope name := by
  have neither : ¬ (touched scope name ∨ Lost first second scope name) :=
    not_or.2 ⟨untouched, kept⟩
  exact ⟨sweeps.keeps.binding neither, sweeps.keeps.valueIn? neither⟩

end State

/-- A write to a variable: to all of it, or to a cell at the end of a path. -/
inductive Write
  | whole (value : Value)
  | cell (path : List String) (value : Value)

namespace State

/-- Writes to a variable. -/
def write (state : State) (scope name : String) : Write → State
  | .whole value => state.assign name value (some scope)
  | .cell path value => state.assignPath name path value (some scope)

/-- Writes to a variable again and again. -/
def writeAll (state : State) (scope name : String) (writes : List Write) : State :=
  writes.foldl (fun state write => state.write scope name write) state

theorem frame_write (state : State) (scope name : String) (write : Write) :
    (state.write scope name write).frame = state.frame := by
  cases write with
  | whole value => exact frame_assign state name value (some scope)
  | cell path value => exact frame_assignPath state name path value (some scope)

theorem frame_writeAll (state : State) (scope name : String) (writes : List Write) :
    (state.writeAll scope name writes).frame = state.frame := by
  induction writes generalizing state with
  | nil => rfl
  | cons write writes ih => exact (ih _).trans (frame_write state scope name write)

theorem Sweeps.write {state : State} (keyed : state.WellKeyed []) {scope : String}
    (plain : Plain scope) (name : String) (write : Write) :
    Sweeps (atName scope name) [] state (state.write scope name write) := by
  cases write with
  | whole value => exact .assign keyed name value (some scope) plain
  | cell path value => exact .assignPath keyed name path value (some scope) plain

/-- However often a variable is written, other variables are kept. -/
theorem Sweeps.writeAll {state : State} (keyed : state.WellKeyed []) {scope : String}
    (plain : Plain scope) (name : String) (writes : List Write) :
    Sweeps (atName scope name) [] state (state.writeAll scope name writes) := by
  induction writes generalizing state with
  | nil => exact .refl keyed
  | cons write writes ih =>
    have one := Sweeps.write keyed plain name write
    exact one.trans (ih one.keyed)

end State

/-- A name that stands for itself, and not for what a variable holds. -/
def IsDirect (name : String) : Prop :=
  name.toList.head? ≠ some '$'

instance : DecidablePred IsDirect := fun name =>
  inferInstanceAs (Decidable (name.toList.head? ≠ some '$'))

namespace State

theorem link_of_isDirect {name : String} (direct : IsDirect name) (state : State) :
    state.link name = .ok name := by
  unfold link linkCharacters
  split
  · next inner dollar =>
    rw [IsDirect, dollar] at direct
    contradiction
  · rw [String.ofList_toList]

/-- A name that is read in a scope means a variable: that of this scope, or the one of the global
scope where this scope has none. -/
def Means (state : State) (reader : Option String) (scope name : String) : Prop :=
  scope = reader.getD state.frame.scope ∨
    scope = globalScope ∧ state.bindingIn? (reader.getD state.frame.scope) name = none

section Bound

variable {state : State} {scope name : String} {reader : Option String} {place : Binding}
  {value : Value}

theorem binding?_of_means (means : state.Means reader scope name)
    (bound : state.bindingIn? scope name = some place) :
    state.binding? name reader = some place := by
  unfold binding?
  rcases means with rfl | ⟨rfl, missing⟩
  · rw [bound]
    rfl
  · rw [missing, bound]
    rfl

/-- A variable reads as the value that it leads to, unless it is the receiver of a method. -/
theorem resolve_of_valueIn? (direct : IsDirect name) (means : state.Means reader scope name)
    (found : state.valueIn? scope name = some value)
    (free : name = receiverName → state.frame.receiver = none) :
    state.resolve name reader = .ok value := by
  rcases Option.bind_eq_some_iff.1 found with ⟨place, bound, stored⟩
  have read : readNamed.stored state name reader = .ok value := by
    simp only [readNamed.stored, binding?_of_means means bound, Option.bind_some, stored]
  show (do state.readNamed (← state.link name) reader) = _
  rw [link_of_isDirect direct]
  show state.readNamed name reader = _
  unfold readNamed
  split
  · next handle running =>
    rw [if_neg, read]
    intro isReceiver
    rw [free isReceiver] at running
    contradiction
  · exact read

end Bound

/-- Whatever is read of a variable, the whole or a cell, is the same in both states, from wherever
its name means it in both of them. -/
def ReadsAlike (scope name : String) (first second : State) : Prop :=
  ∀ reader : Option String, first.Means reader scope name → second.Means reader scope name →
    second.resolve name reader = first.resolve name reader ∧
      ∀ path, second.readPath name path reader = first.readPath name path reader

/-- Reads depend on the frame, on the binding and on the value that it leads to. -/
theorem readsAlike {first second : State} {scope name : String} {place : Binding}
    (direct : IsDirect name) (frame : second.frame = first.frame)
    (bound : first.bindingIn? scope name = some place)
    (bound' : second.bindingIn? scope name = some place)
    (stored : second.storage.get? place = first.storage.get? place) :
    ReadsAlike scope name first second := by
  intro reader means means'
  have found := binding?_of_means means bound
  have found' := binding?_of_means means' bound'
  constructor
  · have same : readNamed.stored second name reader = readNamed.stored first name reader := by
      simp only [readNamed.stored, found, found', Option.bind_some, stored]
    show (do second.readNamed (← second.link name) reader) =
      (do first.readNamed (← first.link name) reader)
    rw [link_of_isDirect direct, link_of_isDirect direct]
    show second.readNamed name reader = first.readNamed name reader
    unfold readNamed
    rw [frame, same]
  · intro path
    unfold readPath
    rw [link_of_isDirect direct, link_of_isDirect direct]
    simp only [Bind.bind, Except.bind, found, found']
    rcases place with ⟨slot, key⟩
    cases slot with
    | scalar | object => rfl
    | array => simp only [Storage.arrays_get?_of_get? stored]

/-- Writing one variable, however often, changes nothing that is read of another one. -/
theorem readsAlike_writeAll {state : State} (keyed : state.WellKeyed []) {scope name : String}
    (plain : Plain scope) {scope' name' : String} (differs : ¬ atName scope name scope' name')
    (direct : IsDirect name') (single : ¬ HasDoubleColon name')
    (bound : (state.valueIn? scope' name').isSome) (writes : List Write) :
    ReadsAlike scope' name' state (state.writeAll scope name writes) := by
  have sweeps := Sweeps.writeAll keyed plain name writes
  have lost : ¬ Lost state (state.writeAll scope name writes) scope' name' :=
    not_lost_of_not_hasDoubleColon single scope'
  rcases sweeps.valueIn? differs lost with ⟨binding, -⟩
  rcases Option.isSome_iff_exists.1 bound with ⟨value, found⟩
  rcases Option.bind_eq_some_iff.1 found with ⟨place, bound, -⟩
  exact readsAlike direct (frame_writeAll state scope name writes) bound (binding.trans bound)
    (sweeps.keeps.value (not_or.2 ⟨differs, lost⟩) bound)

end State

open State

/-- In a well-keyed state a variable that is assigned reads back as the value, and all variables but
this one are bound as before and to the same values. So a copy and its original are independent: no
sequence of writes to one of them, as a whole or into its cells, changes anything that is read of
the other. -/
theorem assign_separates {state : State} (keyed : state.WellKeyed []) {name : String}
    (direct : IsDirect name) (single : ¬ HasDoubleColon name) (value : Value)
    (scope : Option String) (plain : Plain (scope.getD state.frame.scope)) :
    ((name = receiverName → state.frame.receiver = none) →
      (state.assign name value scope).resolve name scope = .ok value) ∧
    (∀ scope' name', ¬ (scope' = scope.getD state.frame.scope ∧ name' = name) →
      ¬ HasDoubleColon name' →
      (state.assign name value scope).bindingIn? scope' name' = state.bindingIn? scope' name' ∧
        (state.assign name value scope).valueIn? scope' name' = state.valueIn? scope' name') ∧
    ∀ scope' name', ¬ (scope' = scope.getD state.frame.scope ∧ name' = name) →
      IsDirect name' → ¬ HasDoubleColon name' → state.valueIn? scope' name' = some value →
      ∀ writes : List Write,
        ReadsAlike (scope.getD state.frame.scope) name (state.assign name value scope)
          ((state.assign name value scope).writeAll scope' name' writes) ∧
        ReadsAlike scope' name' (state.assign name value scope)
          ((state.assign name value scope).writeAll (scope.getD state.frame.scope) name
            writes) := by
  have assigned := Sweeps.assign keyed name value scope plain
  have own : (state.assign name value scope).valueIn? (scope.getD state.frame.scope) name =
      some value := valueIn?_bind state _ name _ value
  have others {scope' name' : String}
      (differs : ¬ (scope' = scope.getD state.frame.scope ∧ name' = name))
      (single' : ¬ HasDoubleColon name') :=
    assigned.valueIn? differs (not_lost_of_not_hasDoubleColon single' scope')
  refine ⟨fun free => ?_, fun scope' name' => others, ?_⟩
  · apply resolve_of_valueIn? direct _ own
    · rw [frame_assign]
      exact free
    · exact .inl (by rw [frame_assign])
  · intro scope' name' differs direct' single' found writes
    have original : (state.assign name value scope).valueIn? scope' name' = some value :=
      (others differs single').2.trans found
    rcases Option.bind_eq_some_iff.1 found with ⟨place, bound, -⟩
    constructor
    · apply readsAlike_writeAll assigned.keyed (keyed.plain bound) _ direct single
      · rw [own]
        rfl
      · rintro ⟨rfl, rfl⟩
        exact differs ⟨rfl, rfl⟩
    · apply readsAlike_writeAll assigned.keyed plain differs direct' single'
      rw [original]
      rfl

/-- A variable of a function holds an array of arrays. -/
def State.tabled : State :=
  State.initial.assign "t" (.array [("k", .array [("l", .int 1)])]) (some "f")

/-- The array is copied to a global variable whose name looks like a key of the function's scope.
Then each of the two is written, at a cell and as a whole. -/
theorem assign_separates_of_tabled :
    let copied := State.tabled.assign "f#t" (.array [("k", .array [("l", .int 1)])]) none
    let writes : List Write := [.cell ["k", "l", "m"] (.int 2), .whole (.int 3)]
    copied.resolve "f#t" none = .ok (.array [("k", .array [("l", .int 1)])]) ∧
    copied.valueIn? "f" "t" = State.tabled.valueIn? "f" "t" ∧
    ReadsAlike globalScope "f#t" copied (copied.writeAll "f" "t" writes) ∧
    ReadsAlike "f" "t" copied (copied.writeAll globalScope "f#t" writes) := by
  intro copied writes
  have keyed : State.tabled.WellKeyed [] :=
    WellKeyed.initial.bind (by decide) (.inl rfl) _
  have frame : State.tabled.frame = {} := frame_assign State.initial "t" _ (some "f")
  have direct : IsDirect "f#t" := by decide
  have single : ¬ HasDoubleColon "f#t" := by decide
  have law := assign_separates keyed direct single
    (.array [("k", .array [("l", .int 1)])]) none (by rw [frame]; decide)
  have differs : ¬ ("f" = Option.getD none State.tabled.frame.scope ∧ "t" = "f#t") := by decide
  have found : State.tabled.valueIn? "f" "t" = some (.array [("k", .array [("l", .int 1)])]) :=
    valueIn?_bind State.initial "f" "t" _ _
  have reads := law.2.2 "f" "t" differs (by decide) (by decide) found writes
  rw [frame] at reads
  exact ⟨law.1 fun _ => by rw [frame], (law.2.1 "f" "t" differs (by decide)).2, reads⟩

end TagScript
