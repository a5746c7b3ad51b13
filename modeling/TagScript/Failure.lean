import TagScript.Fault
import TagScript.Program.Statement
import TagScript.Token.Scan

/-!
# From source to program

A source is scanned into tokens, the tokens are parsed into a program, and the program is run. A
failure tells which of the three went wrong.
-/

namespace TagScript

/-- Why a source did not run to its end. -/
inductive Failure
  | scan (fault : Located ScanFault)
  | parse (fault : Located ParseFault)
  | run (fault : Fault)
  deriving DecidableEq, Repr

/-- The diagnostic of a failure in a file. -/
def Failure.message (file : String) : Failure → String
  | scan fault => s!"Lexer error: {fault.message ScanFault.message file}"
  | parse fault => s!"Parse error: {fault.message ParseFault.message file}"
  | run fault => s!"Runtime error: {fault.message}"

/-- The program of a source. -/
def Program.ofSource (source : String) : Except Failure Program := do
  let tokens ← (Token.scan source).mapError .scan
  (Program.parse tokens).mapError .parse

end TagScript
