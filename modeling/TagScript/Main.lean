import TagScript.CommandLine

/-!
# The program

Reads the files that the command line names, and writes the answer.
-/

namespace TagScript.Main

/-- Why an operation on a file failed. -/
def readFailure : IO.Error → ReadFailure
  | .noFileOrDirectory .. => .missing
  | .inappropriateType .. => .directory
  | failure => .other (toString failure)

/-- Reads a file. -/
def readFile (path : String) : BaseIO SourceFile := do
  match ← (IO.FS.readBinFile path).toBaseIO with
  | .error failure => return ⟨0, .error (readFailure failure)⟩
  | .ok bytes =>
    match String.fromUTF8? bytes with
    | some text => return ⟨bytes.size, .ok text⟩
    | none => return ⟨bytes.size, .error .notText⟩

/-- Reads the files that a command needs. -/
def readFiles (arguments : List String) : BaseIO Files := do
  let paths := ((Command.ofArguments? arguments).map Command.paths).getD []
  let found ← paths.mapM fun path => return (path, ← readFile path)
  return fun path => (found.lookup path).getD ⟨0, .error .missing⟩

end TagScript.Main

/-- Answers the command line. -/
def main (arguments : List String) : IO UInt32 := do
  let files ← TagScript.Main.readFiles arguments
  let answer := TagScript.answer files arguments
  (← IO.getStdout).putStr answer.output
  (← IO.getStderr).putStr answer.diagnostics
  return answer.code.toUInt32
