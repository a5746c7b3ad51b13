import TagScript.Proofs.Activations
import TagScript.Proofs.Discipline

/-!
# What a running node touches

A node touches variables of the running scope and slots of attributes, and nothing else. For a call
this leaves slots only, since the variables of its own scope go when it ends. Both are kept by every
run: `isolation` is a discipline.
-/

namespace TagScript

open State

/-- The scope of a method is plain when the class and the method are. -/
theorem plain_methodScope {decl : ClassDecl} {name : String} (plainClass : Plain decl.name)
    (plainName : Plain name) : Plain (Eval.methodScope decl name) := by
  have scope : Eval.methodScope decl name = decl.name ++ "::" ++ name := by
    simp [Eval.methodScope, toString]
  rw [scope]
  exact plain_append (plain_append plainClass (by decide)) plainName

/-- No method runs in the global scope. -/
theorem methodScope_ne_globalScope (decl : ClassDecl) (name : String) :
    Eval.methodScope decl name ≠ globalScope := by
  intro same
  have colon : ':' ∈ (Eval.methodScope decl name).toList := by
    simp [Eval.methodScope, toString]
  rw [same] at colon
  exact absurd colon (by decide)

/-- Declared functions and methods run in scopes with plain names. -/
theorem Frame.IsBuilt.plain {state : State} {frame : Frame} (names : state.PlainNames)
    (built : frame.IsBuilt state.functions state.classes) : Plain frame.scope := by
  cases built with
  | function found => exact names.function found
  | method found declared handle =>
    exact plain_methodScope (names.className found) (names.method found _ declared)

/-- The members that a class declares have plain names. -/
theorem Table.DeclaresMember.plain {state : State} {name : String} (names : state.PlainNames)
    (declares : state.classes.DeclaresMember name) : Plain name := by
  obtain ⟨className, decl, found, visible⟩ := declares
  unfold ClassDecl.visibility? at visible
  cases method : decl.method? name with
  | some member =>
    have named : member.function.name = name := by simpa using List.find?_some method
    exact named ▸ names.method found member (List.mem_of_find?_eq_some method)
  | none =>
    cases attribute' : decl.attribute? name with
    | some member =>
      have named : member.name = name := by simpa using List.find?_some attribute'
      exact named ▸ names.member found member (List.mem_of_find?_eq_some attribute')
    | none => simp [method, attribute'] at visible

/-- States with the declarations of a given one, well keyed, in a frame whose scope is plain. -/
structure State.Isolates (origin state : State) : Prop where
  functions : state.functions = origin.functions
  classes : state.classes = origin.classes
  keyed : state.WellKeyed []
  scope : Plain state.frame.scope

/-- The second state differs from the first one in the running scope and in slots only. -/
def State.StaysWithin (before after : State) : Prop :=
  Keeps (slotsAndScope before.frame.scope) [] before after ∧ after.frame = before.frame

namespace State.Isolates

variable {origin first second : State} {touched : String → String → Prop}

theorem plainNames (ready : origin.Isolates first) (names : origin.PlainNames) :
    first.PlainNames := by
  obtain ⟨function, className, method, member⟩ := names
  constructor <;> simpa only [ready.functions, ready.classes]

/-- What keeps all but the running scope and slots leads from one such state to another. -/
theorem step (ready : origin.Isolates first) (keeps : Keeps touched [] first second)
    (within : ∀ scope name, touched scope name → slotsAndScope first.frame.scope scope name)
    (frame : second.frame = first.frame) :
    origin.Isolates second ∧ first.StaysWithin second :=
  ⟨⟨keeps.functions.trans ready.functions, keeps.classes.trans ready.classes, keeps.keyed,
    frame ▸ ready.scope⟩, keeps.mono within, frame⟩

/-- Steps that touch slots only. -/
theorem slotStep (ready : origin.Isolates first) (keeps : Keeps slots [] first second)
    (frame : second.frame = first.frame) :
    origin.Isolates second ∧ first.StaysWithin second :=
  ready.step keeps (fun _ _ => .inl) frame

theorem variable_within {name : String} (scope' name' : String)
    (inside : slotsAnd first.frame.scope name scope' name') :
    slotsAndScope first.frame.scope scope' name' :=
  inside.imp id fun same => same.1

end State.Isolates

namespace State

variable {state later : State} {frame : Frame} (keyed : state.WellKeyed [])
  (names : state.PlainNames) (plain : Plain frame.scope)
include keyed names plain

/-- The body of a call starts in a state that is isolated again. -/
theorem Isolates.beginCall (receiver : Option Receiver) (params : List String)
    (values : List Value) :
    Keeps (slotsAndScope frame.scope) [] (state.beginCall frame receiver).2
        ((state.beginCall frame receiver).2.bindArguments params values) ∧
      state.Isolates ((state.beginCall frame receiver).2.bindArguments params values) := by
  rw [beginCall_eq]
  dsimp only
  have held : Keeps (slotsAndScope frame.scope) [] state (state.holdReceiver receiver) :=
    .holdReceiver keyed receiver
  have suspended := held.trans (.suspend held.keyed frame.scope)
  have entered := suspended.trans (.enter suspended.keyed frame)
  have bound := Keeps.bindArguments entered.keyed (entered.plainNames names) plain params values
  have both := entered.trans bound
  refine ⟨bound, both.functions, both.classes, bound.keyed, ?_⟩
  rw [frame_bindArguments]
  exact plain

/-- A body that stays within its scope and slots once its arguments are bound has done so from the
start of the call. -/
theorem StaysWithin.body {receiver : Option Receiver} {params : List String}
    {values : List Value}
    (within : ((state.beginCall frame receiver).2.bindArguments params values).StaysWithin later) :
    Keeps (slotsAndScope frame.scope) [] (state.beginCall frame receiver).2 later := by
  have scope : ((state.beginCall frame receiver).2.bindArguments params values).frame.scope =
      frame.scope := by
    rw [frame_bindArguments, beginCall_eq]
    rfl
  obtain ⟨body, -⟩ := within
  rw [scope] at body
  exact (Isolates.beginCall keyed names plain receiver params values).1.trans body

/-- If the body of a call stays within its scope and slots, the call stays within slots. -/
theorem StaysWithin.endCall {receiver : Option Receiver} {params : List String}
    {values : List Value} (result : Option Value)
    (within : ((state.beginCall frame receiver).2.bindArguments params values).StaysWithin later) :
    Keeps slots [] state (later.endCall (state.beginCall frame receiver).1 result) :=
  .call keyed names result (within.body keyed names plain)

end State

/-- While nodes run, only variables of the running scope and slots of attributes are touched. -/
def isolation (origin : State) (names : origin.PlainNames) : Discipline where
  functions := origin.functions
  classes := origin.classes
  ready := origin.Isolates
  related := State.StaysWithin
  known _ _ := True
  admitted frame := Plain frame.scope
  built built := built.plain names
  declared ready := ⟨ready.functions, ready.classes⟩
  refl ready := ⟨.refl ready.keyed, rfl⟩
  trans := by
    rintro first second third ⟨one, frame⟩ ⟨two, frame'⟩
    rw [frame] at two
    exact ⟨one.trans two, frame'.trans frame⟩
  kept _ _ := trivial
  reached _ _ _ := trivial
  retain ready value := ready.slotStep (.heap ready.keyed _) rfl
  disown ready value := ready.slotStep (.heap ready.keyed _) rfl
  release ready handles :=
    ready.slotStep (.release ready.keyed (ready.plainNames names) handles) (frame_release _ _)
  discardHandle ready handle :=
    ready.slotStep (.discardHandle ready.keyed (ready.plainNames names) handle)
      (frame_discardHandle _ _)
  assign ready name value _ :=
    ready.step (.assign ready.keyed (ready.plainNames names) ready.scope name value)
      State.Isolates.variable_within (frame_assign _ _ _ _)
  assignPath ready name path value _ :=
    ready.step (.assignPath ready.keyed (ready.plainNames names) none ready.scope name path value)
      State.Isolates.variable_within (frame_assignPath _ _ _ _ _)
  call := by
    intro state ready frame plain _ receiver params values _
    have names' := ready.plainNames names
    have begun := (State.Isolates.beginCall ready.keyed names' plain receiver params values).2
    refine ⟨⟨begun.functions.trans ready.functions, begun.classes.trans ready.classes,
      begun.keyed, begun.scope⟩, fun {later} _ within result _ => ⟨?_, fun _ _ => trivial⟩⟩
    refine ready.slotStep (within.endCall ready.keyed names' plain result) ?_
    rw [frame_endCall, beginCall_eq]

theorem isolation_writesFreely {origin : State} (names : origin.PlainNames) :
    (isolation origin names).WritesFreely where
  allocate ready _ := ⟨ready.slotStep (.heap ready.keyed _) rfl, trivial⟩
  assignAttribute ready handle _ declares value _ :=
    ready.slotStep (.assignAttribute ready.keyed (ready.plainNames names) handle
      (declares.plain names) value) (frame_assignAttribute _ _ _ _)

end TagScript
