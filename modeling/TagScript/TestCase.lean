import TagScript.Assertion
import TagScript.Machine.Run

/-!
# Test cases

A test case is a named script with an assertion in it. It runs on a new machine, and its output or
its failure is compared with the assertion.
-/

namespace TagScript

/-- A named script. The name takes the place of a file name in diagnostics. -/
structure TestCase where
  name : String
  source : String
  deriving DecidableEq, Repr

/-- What came of a test case. -/
inductive Verdict
  | passed
  /-- There was nothing to check. -/
  | unchecked
  | mismatch (expected actual : String)
  /-- A failure was expected, and there was none. -/
  | didNotFail
  /-- The output was as expected, but the script failed. -/
  | errored (message : String)
  deriving DecidableEq, Repr

namespace Verdict

/-- Whether a verdict counts as success. -/
def isSuccess : Verdict → Bool
  | passed | unchecked => true
  | _ => false

/-- The verdict on a run, given what was asserted. -/
def judge (assertion : Option Assertion) (output : String) (failure : Option String) : Verdict :=
  match assertion, failure with
  | none, _ => unchecked
  | some .fail, some _ => passed
  | some .fail, none => didNotFail
  | some (.echo expected), failure =>
    if expected ≠ output then mismatch expected output
    else
      match failure with
      | some message => errored message
      | none => passed

end Verdict

/-- A test case that has run. -/
structure Report where
  name : String
  output : String
  failure : Option String
  verdict : Verdict
  deriving DecidableEq, Repr

namespace Report

/-- One line on a test case. -/
def describe (report : Report) : String :=
  match report.verdict with
  | .passed => s!"\"{report.name}\" passed."
  | .unchecked => s!"\"{report.name}\" has no assertion."
  | .mismatch expected actual =>
    s!"\"{report.name}\" failed assertion. Expected output: \"{expected}\". " ++
      s!"Actual output: \"{actual}\"."
  | .didNotFail =>
    s!"\"{report.name}\" failed assertion. " ++
      "Expected script to fail, but no exceptions were raised."
  | .errored message => s!"\"{report.name}\" raised an error: {message}"

end Report

/-- Runs a test case. -/
def TestCase.run? (case : TestCase) : Option Report := do
  let transcript ← Transcript.ofSource? case.source
  let failure := transcript.failure.map (Failure.message case.name)
  let verdict := Verdict.judge (Assertion.ofSource? case.source) transcript.output failure
  return { name := case.name, output := transcript.output, failure, verdict }

end TagScript
