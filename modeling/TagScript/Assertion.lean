import TagScript.Text.Blank
import TagScript.Text.WordCharacter

/-!
# Assertions in scripts

A script says in a line comment what it should do: `assertEcho` with the expected output in quotes,
or `assertFail`. Comments are looked for from left to right, one after the end of another, and the
last one counts.
-/

namespace TagScript

/-- What a script should do. -/
inductive Assertion
  /-- Write exactly this text. -/
  | echo (expected : String)
  /-- Fail to be scanned, parsed or run. -/
  | fail
  deriving DecidableEq, Repr

namespace Assertion

/-- The text after a word that it starts with. -/
def afterWord? : List Char → List Char → Option (List Char)
  | [], text => some text
  | c :: word, d :: text => if c = d then afterWord? word text else none
  | _ :: _, [] => none

/-- A quoted text, with what follows it. -/
def quoted? : List Char → Option (List Char × List Char)
  | quote :: rest =>
    if quote = '\x27' ∨ quote = '"' then
      match rest.span (· ≠ quote) with
      | (content, _ :: last) => some (content, last)
      | (_, []) => none
    else none
  | [] => none

/-- An expected output: the word, blanks, and the quoted text. -/
def echo? (text : List Char) : Option (Assertion × List Char) := do
  let rest ← afterWord? "assertEcho".toList text
  if rest.head?.any Text.isBlank then
    let (content, last) ← quoted? (Text.dropBlanks rest)
    return (echo (.ofList content), last)
  else none

/-- An expected failure: the word, where it ends. -/
def fail? (text : List Char) : Option (Assertion × List Char) := do
  let rest ← afterWord? "assertFail".toList text
  if rest.head?.any Text.isWordCharacter then none else return (fail, rest)

/-- An assertion comment at the front of a text, with what follows it. -/
def comment? : List Char → Option (Assertion × List Char)
  | '/' :: '/' :: rest =>
    let text := Text.dropBlanks rest
    echo? text <|> fail? text
  | _ => none

/-- The last assertion comment of a text, or the one found before it. -/
def lastFrom (found : Option Assertion) (text : List Char) : Option Assertion :=
  match text with
  | [] => found
  | c :: rest =>
    match comment? (c :: rest) with
    | none => lastFrom found rest
    | some (assertion, last) =>
      if last.length < rest.length + 1 then lastFrom (some assertion) last else some assertion
termination_by text.length

/-- The assertion of a source. -/
def ofSource? (source : String) : Option Assertion :=
  lastFrom none source.toList

end Assertion

end TagScript
