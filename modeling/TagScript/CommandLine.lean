import TagScript.Program.Decode
import TagScript.Program.Encode
import TagScript.TestCase

/-!
# The command line

What a command line asks for, and what the program answers: an exit code and two texts. Files are
looked up through a function, so the answer depends on nothing else.
-/

namespace TagScript

/-- Why a file could not be read. -/
inductive ReadFailure
  | missing
  | directory
  | notText
  | other (reason : String)
  deriving DecidableEq, Repr

/-- The wording of a failure to read. -/
def ReadFailure.message : ReadFailure → String
  | missing => "No such file or directory (os error 2)"
  | directory => "Is a directory (os error 21)"
  | notText => "stream did not contain valid UTF-8"
  | other reason => reason

/-- A file as the program finds it. -/
structure SourceFile where
  size : Nat
  content : Except ReadFailure String

/-- The file that a path leads to. -/
abbrev Files := String → SourceFile

/-- What the program is asked to do. -/
inductive Command
  /-- List the tokens of a script. -/
  | tokenize (file : String)
  /-- Write the program of a script as JSON. -/
  | parse (file : String)
  /-- Run a script, or a program given as JSON. -/
  | run (file : String) (json : Bool)
  /-- Run test cases. -/
  | test (files : List String)
  /-- Tell the version. -/
  | version
  deriving DecidableEq, Repr

/-- What the program answers. -/
structure Answer where
  code : UInt8
  output : String := ""
  diagnostics : String := ""
  deriving DecidableEq, Repr

namespace Command

/-- Options and files of a subcommand. -/
structure Arguments where
  verbose : Bool := false
  json : Bool := false
  files : List String := []
  deriving DecidableEq, Repr

/-- Sets an option that may be given once. -/
def once (given : Bool) : Option Bool :=
  if given then none else some true

/-- Reads options and files in any order. After two dashes all arguments are files. A file has a
name. -/
def readArguments? (allowsJson : Bool) : Arguments → List String → Option Arguments
  | found, [] => some found
  | found, "--" :: files =>
    if files.contains "" then none else some { found with files := found.files ++ files }
  | found, "-v" :: rest | found, "--verbose" :: rest => do
    readArguments? allowsJson { found with verbose := ← once found.verbose } rest
  | found, "--ast" :: rest => do
    if allowsJson then readArguments? allowsJson { found with json := ← once found.json } rest
    else none
  | found, argument :: rest =>
    if argument = "" || (argument.startsWith "-" && argument != "-") then none
    else readArguments? allowsJson { found with files := found.files ++ [argument] } rest

/-- The only file of a list. -/
def single? : List String → Option String
  | [file] => some file
  | _ => none

/-- Reads a subcommand and what follows it. -/
def readSubcommand? (name : String) (arguments : List String) : Option Command := do
  let found ← readArguments? (name = "run") {} arguments
  match name with
  | "tokenize" => .tokenize <$> single? found.files
  | "parse" => .parse <$> single? found.files
  | "run" => (.run · found.json) <$> single? found.files
  | "test" => if found.files.isEmpty then none else return .test found.files
  | _ => none

/-- Reads arguments with options apart; `verbose` tells whether that option has been given. -/
def read? (verbose : Bool) : List String → Option Command
  | [] => none
  | "-v" :: rest | "--verbose" :: rest => do read? (← once verbose) rest
  | "-V" :: _ | "--version" :: _ => some .version
  | name :: arguments => readSubcommand? name arguments

/-- The options that an argument stands for: several letters after one dash are an option each. -/
def separated (argument : String) : List String :=
  match argument.toList with
  | '-' :: letters =>
    if letters.length ≤ 1 || letters.head? = some '-' then [argument]
    else letters.map fun letter => .ofList ['-', letter]
  | _ => [argument]

/-- Arguments with their options apart, up to two dashes. -/
def separateAll : List String → List String
  | [] => []
  | "--" :: files => "--" :: files
  | argument :: rest => separated argument ++ separateAll rest

/-- The command that the arguments of the program ask for. -/
def ofArguments? (arguments : List String) : Option Command :=
  read? false (separateAll arguments)

/-- The largest script that is read. -/
def maximumSize : Nat := 10 * 1024 * 1024

/-- The answer to a request that failed. -/
def failed (message : String) : Answer :=
  { code := 1, diagnostics := message ++ "\n" }

/-- The answer when a file could not be read. -/
def unreadable (file : String) (failure : ReadFailure) : Answer :=
  failed s!"Error: cannot read file {file}: {failure.message}"

/-- The content of a script that is not too large. -/
def readScript (files : Files) (file : String) : Except Answer String :=
  let found := files file
  if maximumSize < found.size then
    .error (failed
      s!"Error: file {file} is too large ({found.size} bytes, max {maximumSize} bytes)")
  else found.content.mapError (unreadable file)

/-- The program in a file. -/
def readProgram (files : Files) (file : String) (json : Bool) : Except Answer Program := do
  let source ← readScript files file
  if json then
    match Program.ofText? source with
    | some program => return program
    | none => throw (failed s!"Error: invalid program JSON in {file}")
  else
    (Program.ofSource source).mapError fun failure => failed (failure.message file)

/-- The components of a path. -/
def components (path : String) : List String :=
  (path.splitOn "/").filter fun part => part ≠ "" ∧ part ≠ "."

/-- The name of a file without its last extension. A leading dot starts no extension. -/
def fileStem (path : String) : String :=
  match (components path).getLast? with
  | none | some ".." => path
  | some name =>
    match (name.splitOn ".").reverse with
    | _ :: [] | [_, ""] | [] => name
    | _ :: parts => ".".intercalate parts.reverse

/-- The test cases in files, up to the first that cannot be read. -/
def readCases (files : Files) : List String → Except Answer (List TestCase)
  | [] => .ok []
  | file :: rest => do
    let source ← (files file).content.mapError (unreadable file)
    return ⟨fileStem file, source⟩ :: (← readCases files rest)

/-- The answer to a run that was cut off. -/
def cutOff : Answer :=
  failed "Error: step limit exceeded"

/-- The summary of test cases that have run. -/
def summarize (reports : List Report) : Answer :=
  let failures := reports.filter fun report => !report.verdict.isSuccess
  let lines := failures.map Report.describe ++
    ["Testing done!", s!"{reports.length - failures.length} passed, {failures.length} failed"]
  { code := if failures.isEmpty then 0 else 1
    output := String.join (lines.map (· ++ "\n")) }

/-- Runs a program on a new machine. -/
def runProgram (program : Program) : Answer :=
  match (Eval.program stepLimit program).outcome? {} with
  | none => cutOff
  | some (.ok _, machine) => { code := 0, output := machine.output }
  | some (.error fault, machine) =>
    { failed (Failure.run fault |>.message "") with output := machine.output }

/-- Carries out a command, or says why it failed. -/
def execute (files : Files) : Command → Except Answer Answer
  | tokenize file => do
    let source ← readScript files file
    match Token.scan source with
    | .error fault => throw (failed ((Failure.scan fault).message file))
    | .ok tokens =>
      return { code := 0, output := String.join (tokens.map fun token => token.describe ++ "\n") }
  | parse file => do
    let program ← readProgram files file false
    return { code := 0, output := program.toJson.render ++ "\n" }
  | run file json => do
    let program ← readProgram files file json
    return runProgram program
  | test paths => do
    let cases ← readCases files paths
    match cases.mapM TestCase.run? with
    | none => throw cutOff
    | some reports => return summarize reports
  | version => return { code := 0, output := "phype 0.2.0\n" }

/-- The answer to a command line that makes no sense. -/
def misused : Answer :=
  { code := 2
    diagnostics := "Usage: phype [--verbose] <tokenize|parse|run [--ast]|test> <FILE>...\n" }

/-- The files that a command reads. -/
def paths : Command → List String
  | tokenize file | parse file | run file _ => [file]
  | test files => files
  | version => []

end Command

/-- Answers a command line. -/
def answer (files : Files) (arguments : List String) : Answer :=
  match Command.ofArguments? arguments with
  | none => Command.misused
  | some command =>
    match command.execute files with
    | .ok answer => answer
    | .error answer => answer

end TagScript
