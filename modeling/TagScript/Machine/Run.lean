import TagScript.Failure
import TagScript.Machine.Step

/-!
# Running programs

A machine keeps its state from one program to the next, so declarations and variables of an earlier
program are known to a later one.
-/

namespace TagScript

namespace Eval

/-- Declares the functions and classes of a program, up to the first name that is taken. -/
def declare (functions : List FunctionDecl) (classes : List ClassDecl) : Eval Unit := do
  functions.forM fun decl => attempt (·.declareFunction decl)
  classes.forM fun decl => attempt (·.declareClass decl)

/-- Declares what a program declares and runs its body. A value that the body returns is not used. -/
def program (steps : Nat) (program : Program) : Eval Unit := do
  declare program.functions program.classes
  match ← statement (exec steps) program.body with
  | .normal _ => return
  | .returned value => update (·.discard value)

end Eval

/-- How many nested steps a run may take. No run on a computer comes near this number. -/
def stepLimit : Nat := 1_000_000_000_000_000_000

namespace Machine

/-- The outcome of a computation for a source: the machine as it was if there is no program. -/
def afterParsing (machine : Machine) (source : String) (use : Program → Eval Unit) :
    Option (Except Failure Unit × Machine) :=
  match Program.ofSource source with
  | .error failure => some (.error failure, machine)
  | .ok program =>
    ((use program).outcome? machine).map fun (result, machine) =>
      (result.mapError .run, machine)

/-- Runs a source, with so many nested steps at most. -/
def runSource? (machine : Machine) (source : String) (steps : Nat := stepLimit) :
    Option (Except Failure Unit × Machine) :=
  machine.afterParsing source (Eval.program steps)

/-- Declares what a source declares, without running it. -/
def declareSource? (machine : Machine) (source : String) :
    Option (Except Failure Unit × Machine) :=
  machine.afterParsing source fun program => Eval.declare program.functions program.classes

/-- The output so far, and the machine without it. -/
def takeOutput (machine : Machine) : String × Machine :=
  (machine.output, { machine with output := "" })

end Machine

/-- What the run of a source on a new machine shows. -/
structure Transcript where
  output : String
  failure : Option Failure

/-- Runs a source on a new machine. -/
def Transcript.ofSource? (source : String) (steps : Nat := stepLimit) : Option Transcript := do
  let (result, machine) ← Machine.runSource? {} source steps
  match result with
  | .ok _ => return ⟨machine.output, none⟩
  | .error failure => return ⟨machine.output, some failure⟩

/-- The output of a source that runs to its end. -/
def interpret? (source : String) (steps : Nat := stepLimit) :
    Option (Except Failure String) := do
  let transcript ← Transcript.ofSource? source steps
  match transcript.failure with
  | none => return .ok transcript.output
  | some failure => return .error failure

end TagScript
