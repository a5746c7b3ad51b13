import TagScript.State

/-!
# The machine

A machine runs nodes. Running a node changes the state and may write output; it ends with a value,
with a fault, or not at all. A fault keeps the state and the output reached so far. A run is cut off
after a given number of steps, and then has no result.
-/

namespace TagScript

/-- The state and the output so far. -/
structure Machine where
  state : State := {}
  output : String := ""

/-- How a node ends: with its value, or by returning from the function that it is in. -/
inductive Flow
  | normal (value : Value)
  | returned (value : Value)

/-- The value that a node ends with, either way. -/
def Flow.value : Flow → Value
  | normal value => value
  | returned value => value

/-- A computation on the machine. -/
abbrev Eval := ExceptT Fault (StateT Machine Option)

namespace Eval

variable {α : Type}

/-- The outcome of a computation that started on a machine: none if it was cut off. -/
def outcome? (x : Eval α) (machine : Machine) : Option (Except Fault α × Machine) :=
  x.run.run machine

/-- A computation that is cut off. -/
def cutOff : Eval α :=
  ExceptT.mk fun _ => none

/-- Changes the state. -/
def update (change : State → State) : Eval Unit :=
  modify fun machine => { machine with state := change machine.state }

/-- Looks at the state. -/
def inspect (view : State → α) : Eval α :=
  return view (← get).state

/-- Changes the state and keeps a result. -/
def updateWith (change : State → α × State) : Eval α := do
  let (result, state) := change (← get).state
  modify fun machine => { machine with state }
  return result

/-- A result, or a fault. -/
def ofExcept : Except Fault α → Eval α
  | .ok result => return result
  | .error fault => throw fault

/-- A result that depends on the state, or a fault. -/
def examine (view : State → Except Fault α) : Eval α := do
  ofExcept (view (← get).state)

/-- Changes the state, or fails and leaves it as it was. -/
def attempt (change : State → Except Fault State) : Eval Unit := do
  let state ← examine change
  update fun _ => state

/-- Appends to the output. -/
def write (text : String) : Eval Unit :=
  modify fun machine => { machine with output := machine.output ++ text }

/-- Runs a computation and hands over its fault as a result. -/
def observe (x : Eval α) : Eval (Except Fault α) :=
  ExceptT.mk (Except.ok <$> x.run)

/-- Runs a computation; if it fails, changes the state before failing too. -/
def onFault (x : Eval α) (change : State → State) : Eval α :=
  tryCatch x fun fault => do
    update change
    throw fault

variable {β : Type}

@[simp] theorem outcome?_pure (result : α) (machine : Machine) :
    (pure result : Eval α).outcome? machine = some (.ok result, machine) := rfl

@[simp] theorem outcome?_throw (fault : Fault) (machine : Machine) :
    (throw fault : Eval α).outcome? machine = some (.error fault, machine) := rfl

@[simp] theorem outcome?_cutOff (machine : Machine) :
    (cutOff : Eval α).outcome? machine = none := rfl

/-- A computation goes on from the machine that the one before it left; a fault ends both. -/
theorem outcome?_bind (x : Eval α) (next : α → Eval β) (machine : Machine) :
    (x >>= next).outcome? machine = (x.outcome? machine).bind fun
      | (.ok result, machine) => (next result).outcome? machine
      | (.error fault, machine) => some (.error fault, machine) := by
  simp only [outcome?, ExceptT.run_bind, StateT.run_bind]
  cases x.run.run machine with
  | none => rfl
  | some pair =>
    obtain ⟨result, machine⟩ := pair
    cases result <;> rfl

@[simp] theorem outcome?_update (change : State → State) (machine : Machine) :
    (update change).outcome? machine =
      some (.ok (), { machine with state := change machine.state }) := rfl

@[simp] theorem outcome?_inspect (view : State → α) (machine : Machine) :
    (inspect view).outcome? machine = some (.ok (view machine.state), machine) := rfl

@[simp] theorem outcome?_updateWith (change : State → α × State) (machine : Machine) :
    (updateWith change).outcome? machine =
      some (.ok (change machine.state).1, { machine with state := (change machine.state).2 }) :=
  rfl

@[simp] theorem outcome?_ofExcept (result : Except Fault α) (machine : Machine) :
    (ofExcept result).outcome? machine = some (result, machine) := by
  cases result <;> rfl

/-- Looking at the state changes nothing, whether it fails or not. -/
@[simp] theorem outcome?_examine (view : State → Except Fault α) (machine : Machine) :
    (examine view).outcome? machine = some (view machine.state, machine) :=
  outcome?_ofExcept (view machine.state) machine

@[simp] theorem outcome?_write (text : String) (machine : Machine) :
    (write text).outcome? machine =
      some (.ok (), { machine with output := machine.output ++ text }) := rfl

/-- An observed computation leaves the same machine and does not fail. -/
theorem outcome?_observe (x : Eval α) (machine : Machine) :
    (observe x).outcome? machine =
      (x.outcome? machine).map fun (result, machine) => (.ok result, machine) := by
  simp only [outcome?, observe, ExceptT.run_mk, StateT.run_map]
  cases x.run.run machine <;> rfl

/-- A handler goes on from the machine that the fault left. -/
theorem outcome?_tryCatch (x : Eval α) (handler : Fault → Eval α) (machine : Machine) :
    (tryCatch x handler).outcome? machine = (x.outcome? machine).bind fun
      | (.ok result, machine) => some (.ok result, machine)
      | (.error fault, machine) => (handler fault).outcome? machine := by
  unfold outcome?
  change (x.run.run machine).bind _ = _
  cases x.run.run machine with
  | none => rfl
  | some pair =>
    obtain ⟨result, machine⟩ := pair
    cases result <;> rfl

end Eval

end TagScript
