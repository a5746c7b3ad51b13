import TagScript.Proofs.Coupling

/-!
# What running a node can do to the state

The evaluator changes the state in a few ways only: it counts references, writes variables,
attributes and array cells, makes objects, and starts and ends calls. A `Discipline` is a condition
on states together with a relation between states that these respect. A run that is coupled with
itself keeps it: whatever a discipline promises of the single changes holds from the beginning to
the end of every run, whether it yields a value, returns or fails.
-/

namespace TagScript

/-- Conditions on states that the evaluator respects. -/
structure Discipline where
  functions : Table FunctionDecl
  classes : Table ClassDecl
  /-- The states in which nodes may run. -/
  ready : State → Prop
  /-- What has to hold between the state before and the state after. -/
  related : State → State → Prop
  /-- The handles that running code may have in hand. -/
  known : State → Handle → Prop
  /-- The frames that calls may run in. -/
  admitted : Frame → Prop
  built : ∀ {frame : Frame}, frame.IsBuilt functions classes → admitted frame
  declared : ∀ {state}, ready state → state.functions = functions ∧ state.classes = classes
  refl : ∀ {state}, ready state → related state state
  trans : ∀ {first second third}, related first second → related second third →
    related first third
  kept : ∀ {before after handle}, related before after → known before handle → known after handle
  reached : ∀ {state}, ready state → ∀ {handle}, state.Reaches handle → known state handle
  retain : ∀ {state}, ready state → ∀ value,
    ready (state.retain value) ∧ related state (state.retain value)
  disown : ∀ {state}, ready state → ∀ value,
    ready (state.disown value) ∧ related state (state.disown value)
  release : ∀ {state}, ready state → ∀ handles,
    ready (state.release handles) ∧ related state (state.release handles)
  discardHandle : ∀ {state}, ready state → ∀ handle,
    ready (state.discardHandle handle) ∧ related state (state.discardHandle handle)
  assign : ∀ {state}, ready state → ∀ name {value : Value},
    (∀ handle ∈ value.handles, known state handle) →
    ready (state.assign name value none) ∧ related state (state.assign name value none)
  assignPath : ∀ {state}, ready state → ∀ name path {value : Value},
    (∀ handle ∈ value.handles, known state handle) →
    ready (state.assignPath name path value none) ∧
      related state (state.assignPath name path value none)
  /-- The body of a call starts in a ready state, and if it respects the relation, so does the
  call. -/
  call : ∀ {state}, ready state → ∀ {frame}, admitted frame →
    (∀ handle, frame.receiver = some handle → known state handle) →
    ∀ receiver params {values : List Value},
      (∀ handle ∈ values.flatMap Value.handles, known state handle) →
      ready ((state.beginCall frame receiver).2.bindArguments params values) ∧
        ∀ {later}, ready later →
          related ((state.beginCall frame receiver).2.bindArguments params values) later →
          ∀ {result : Option Value},
            (∀ value ∈ result, ∀ handle ∈ value.handles, known later handle) →
            (ready (later.endCall (state.beginCall frame receiver).1 result) ∧
              related state (later.endCall (state.beginCall frame receiver).1 result)) ∧
            ∀ handle, known later handle →
              known (later.endCall (state.beginCall frame receiver).1 result) handle

namespace Discipline

variable (D : Discipline) {α : Type}

/-- A change of state that the discipline admits. -/
def Admits (before after : State) : Prop :=
  D.ready after ∧ D.related before after

/-- A computation respects the discipline, given handles in hand; its results are as described. -/
def Allows (held : List Handle) (x : Eval α) (yields : α → Yield) : Prop :=
  ∀ machine result later, D.ready machine.state →
    (∀ handle ∈ held, D.known machine.state handle) →
    x.outcome? machine = some (result, later) →
    D.Admits machine.state later.state ∧ ∀ value, result = .ok value →
      (yields value).fact ∧ ∀ handle ∈ (yields value).handles, D.known later.state handle

/-- Two runs that are one and the same. -/
def pairing : Pairing where
  functions := D.functions
  classes := D.classes
  ready first second := second = first ∧ D.ready first
  related := D.related
  known := D.known
  outputs output output' := output' = output
  admitted := D.admitted

variable {D}

theorem Admits.moves {before after : State} (admits : D.Admits before after) :
    D.pairing.Moves before before after after :=
  ⟨⟨rfl, admits.1⟩, admits.2, admits.2⟩

variable (D)

/-- Every discipline couples a run with itself. -/
def coupling : Coupling where
  toPairing := D.pairing
  built := D.built
  declared := by
    rintro first _ ⟨rfl, ready⟩
    exact D.declared ready
  agrees := by
    rintro first _ ⟨rfl, -⟩
    exact .refl _
  refl := by
    rintro first _ ⟨rfl, ready⟩
    exact ⟨D.refl ready, D.refl ready⟩
  trans := D.trans
  kept := D.kept
  reached := by
    rintro first _ ⟨rfl, ready⟩
    exact D.reached ready
  append := by
    rintro output _ rfl text
    rfl
  retain := by
    rintro first _ ⟨rfl, ready⟩ value
    exact Admits.moves (D.retain ready value)
  disown := by
    rintro first _ ⟨rfl, ready⟩ value
    exact Admits.moves (D.disown ready value)
  release := by
    rintro first _ ⟨rfl, ready⟩ handles
    exact Admits.moves (D.release ready handles)
  discardHandle := by
    rintro first _ ⟨rfl, ready⟩ handle
    exact Admits.moves (D.discardHandle ready handle)
  assign := by
    rintro first _ ⟨rfl, ready⟩ name value known
    exact Admits.moves (D.assign ready name known)
  assignPath := by
    rintro first _ ⟨rfl, ready⟩ name path value known
    exact Admits.moves (D.assignPath ready name path known)
  call := by
    rintro first _ ⟨rfl, ready⟩ frame admitted running receiver params values passed
    obtain ⟨begun, ended⟩ := D.call ready admitted running receiver params passed
    refine ⟨⟨rfl, begun⟩, ?_⟩
    rintro later _ ⟨rfl, ready'⟩ within - result returned
    obtain ⟨admits, still⟩ := ended ready' within returned
    exact ⟨Admits.moves admits, still⟩

variable {D} {held : List Handle} {x : Eval α} {yields : α → Yield}

/-- Two machines side by side are one. -/
theorem eq_of_coupled {first second : Machine} (coupled : D.coupling.Coupled first second) :
    second = first := by
  rcases coupled with ⟨⟨same, -⟩, same'⟩
  cases first
  cases second
  cases same
  cases same'
  rfl

/-- Computations that go alike have the same outcome. -/
theorem outcome?_of_matches {x' : Eval α} (alike : D.coupling.Matches held x x' yields)
    {machine : Machine} (ready : D.ready machine.state)
    (known : ∀ handle ∈ held, D.known machine.state handle) :
    x'.outcome? machine = x.outcome? machine := by
  have ended := alike machine machine ⟨⟨rfl, ready⟩, rfl⟩ known
  generalize x.outcome? machine = one at ended ⊢
  generalize x'.outcome? machine = two at ended ⊢
  cases ended with
  | none => rfl
  | some ends => exact congrArg some (Prod.ext ends.same (eq_of_coupled ends.coupled))

/-- A run that is coupled with itself ends in one way. -/
theorem allows_iff : D.coupling.Allows held x yields ↔ D.Allows held x yields := by
  constructor
  · intro allows machine result later ready known ran
    have ended := allows machine machine ⟨⟨rfl, ready⟩, rfl⟩ known
    rw [ran] at ended
    cases ended with
    | some ends =>
      exact ⟨⟨ends.coupled.ready.2, ends.related₁⟩, fun value ok =>
        ⟨ends.fact value ok, ends.known value ok⟩⟩
  · intro allows first second coupled known
    obtain rfl := eq_of_coupled coupled
    have ready := coupled.ready.2
    cases ran : x.outcome? second with
    | none => exact .none
    | some outcome =>
      obtain ⟨result, later⟩ := outcome
      obtain ⟨admits, results⟩ := allows second result later ready known ran
      exact .some ⟨rfl, ⟨⟨rfl, admits.1⟩, rfl⟩, admits.2, admits.2,
        fun value ok => (results value ok).2, fun value ok => (results value ok).1⟩

/-- How nodes have to be run: what they yield may be in hand. -/
def Runs (D : Discipline) (run : Node → Eval Flow) : Prop :=
  ∀ node, D.Allows [] (run node) fun flow => { handles := flow.value.handles }

theorem runs_iff {run : Node → Eval Flow} : D.coupling.Runs run ↔ D.Runs run :=
  forall_congr' fun _ => allows_iff

/-- A body respects the discipline from the state on in which the arguments are bound. -/
theorem runBody {run : Node → Eval Flow} (runs : D.Runs run) (decl : FunctionDecl)
    (values : List Value) {machine later : Machine} {result : Except Fault Value}
    (ran : (Eval.runBody run decl values).outcome? machine = some (result, later))
    (ready : D.ready (machine.state.bindArguments decl.params values)) :
    D.Admits (machine.state.bindArguments decl.params values) later.state := by
  have ended := Coupling.runBody (runs_iff.2 runs) decl values machine machine ⟨rfl, ready⟩ rfl
  rw [ran] at ended
  cases ended with
  | some ends => exact ⟨ends.coupled.ready.2, ends.related₁⟩

/-- Disciplines under which any object may be made and any declared attribute written. -/
structure WritesFreely (D : Discipline) : Prop where
  allocate : ∀ {state}, D.ready state → ∀ className,
    D.Admits state { state with heap := state.heap.allocate className } ∧
      D.known { state with heap := state.heap.allocate className } state.heap.next
  assignAttribute : ∀ {state}, D.ready state → ∀ handle {name}, D.classes.DeclaresMember name →
    ∀ {value : Value}, (∀ handle ∈ value.handles, D.known state handle) →
    D.Admits state (state.assignAttribute handle name value)

theorem WritesFreely.coupling (writes : D.WritesFreely) : D.coupling.WritesFreely where
  allocate := by
    rintro first _ ⟨rfl, ready⟩ className
    obtain ⟨admits, known⟩ := writes.allocate ready className
    exact ⟨admits.moves, known⟩
  assignAttribute := by
    rintro first _ ⟨rfl, ready⟩ handle name declares value known
    exact (writes.assignAttribute ready handle declares known).moves

/-- One step of a run respects the discipline if the runs of the parts do. -/
theorem step (writes : D.WritesFreely) {run : Node → Eval Flow} (runs : D.Runs run) :
    D.Runs (Eval.step run) :=
  runs_iff.1 (Coupling.stepFreely writes.coupling (runs_iff.2 runs))

/-- Running a node respects the discipline, however many nested steps it may take. -/
theorem exec (writes : D.WritesFreely) (steps : Nat) : D.Runs (Eval.exec steps) :=
  runs_iff.1 (Coupling.exec writes.coupling steps)

theorem allows_cutOff : D.Allows held (Eval.cutOff : Eval α) yields :=
  allows_iff.1 Coupling.allows_cutOff

end Discipline

end TagScript
