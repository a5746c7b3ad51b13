import TagScript.Json

/-!
# Reading JSON

The reader accepts exactly the grammar of JSON, with blanks around the value. It reads from the
front of a text and hands on the rest. An escape for half a character is correct in form, so it spoils
only the value that it occurs in, and a value that nobody looks at may hold one.
-/

namespace TagScript.Json

/-- A blank between tokens. -/
def isBlank (c : Char) : Bool :=
  c = ' ' || c = '\t' || c = '\n' || c = '\r'

/-- The text without its leading blanks. -/
def dropBlanks (text : List Char) : List Char :=
  text.dropWhile isBlank

/-- The value of a hexadecimal digit. -/
def hexDigit? (c : Char) : Option Nat :=
  if c.isDigit then some (c.toNat - '0'.toNat)
  else if 'a' ≤ c ∧ c ≤ 'f' then some (c.toNat - 'a'.toNat + 10)
  else if 'A' ≤ c ∧ c ≤ 'F' then some (c.toNat - 'A'.toNat + 10)
  else none

/-- The number of four hexadecimal digits. -/
def hexQuad? : List Char → Option Nat
  | a :: b :: c :: d :: _ => do
    return 4096 * (← hexDigit? a) + 256 * (← hexDigit? b) + 16 * (← hexDigit? c) + (← hexDigit? d)
  | _ => none

/-- The character of a `u` escape, given what follows the letter, and the length of its digits. A
character beyond 16 bits is written as two escapes; one of them alone denotes none. -/
def unicodeEscape? (text : List Char) : Option (Option Char × Nat) := do
  let unit ← hexQuad? text
  if unit < 0xd800 ∨ 0xdfff < unit then return (some (.ofNat unit), 4)
  else
    match lowHalf? (text.drop 4) with
    | some low =>
      if unit < 0xdc00 then return (some (.ofNat (0x10000 + 0x400 * (unit - 0xd800) + low)), 10)
      else return (none, 4)
    | none => return (none, 4)
where
  /-- The offset that a second escape adds, if there is one. -/
  lowHalf? : List Char → Option Nat
    | '\\' :: 'u' :: rest => do
      let unit ← hexQuad? rest
      if 0xdc00 ≤ unit ∧ unit ≤ 0xdfff then return unit - 0xdc00 else none
    | _ => none

/-- The character of an escape, given what follows the backslash, and the length of that. -/
def escape? : List Char → Option (Option Char × Nat)
  | '"' :: _ => some ('"', 1)
  | '\\' :: _ => some ('\\', 1)
  | '/' :: _ => some ('/', 1)
  | 'b' :: _ => some ('\x08', 1)
  | 'f' :: _ => some ('\x0c', 1)
  | 'n' :: _ => some ('\n', 1)
  | 'r' :: _ => some ('\r', 1)
  | 't' :: _ => some ('\t', 1)
  | 'u' :: rest => (unicodeEscape? rest).map fun (c, length) => (c, length + 1)
  | _ => none

/-- The characters up to the closing quote, and the text after it. -/
def readCharacters? : List Char → Option (List (Option Char) × List Char)
  | [] => none
  | c :: rest =>
    if c = '"' then some ([], rest)
    else if c = '\\' then do
      let (escaped, length) ← escape? rest
      let (content, last) ← readCharacters? (rest.drop length)
      return (escaped :: content, last)
    else if c.toNat < 0x20 then none
    else do
      let (content, last) ← readCharacters? rest
      return (some c :: content, last)
termination_by text => text.length
decreasing_by all_goals grind

/-- The string up to the closing quote, none if it has an escape for half a character, and the text
after it. -/
def readString? (text : List Char) : Option (Option String × List Char) := do
  let (content, last) ← readCharacters? text
  return ((content.mapM id).map .ofList, last)

/-- An optional part of a number behind a mark: nothing, or the mark and digits. -/
def readDigitsAfter? (isMark : Char → Bool) (signed : Bool) (text : List Char) :
    Option (List Char × List Char) :=
  match text with
  | mark :: rest =>
    if isMark mark then
      let (sign, rest) := match rest with
        | c :: more => if signed && (c = '+' || c = '-') then ([c], more) else ([], rest)
        | [] => ([], [])
      let (digits, last) := rest.span Char.isDigit
      if digits = [] then none else some (mark :: sign ++ digits, last)
    else some ([], text)
  | [] => some ([], [])

/-- A number: a whole part without needless zeros, an optional fraction, an optional exponent. -/
def readNumber? (text : List Char) : Option (List Char × List Char) := do
  let (sign, rest) := match text with
    | '-' :: rest => (['-'], rest)
    | _ => ([], text)
  let (whole, rest) := rest.span Char.isDigit
  if whole = [] ∨ (whole.head? = some '0' ∧ whole ≠ ['0']) then none
  else
    let (fraction, rest) ← readDigitsAfter? (· = '.') false rest
    let (exponent, rest) ← readDigitsAfter? (fun c => c = 'e' || c = 'E') true rest
    return (sign ++ whole ++ fraction ++ exponent, rest)

/-- Items with commas between them and a closing mark after the last. The text starts with an item;
an item that takes no character is no item. -/
def readUntil? {α : Type} (item? : List Char → Option (α × List Char)) (close : Char)
    (text : List Char) : Option (List α × List Char) :=
  match item? text with
  | none => none
  | some (a, rest) =>
    match dropBlanks rest with
    | [] => none
    | c :: rest =>
      if c = close then some ([a], rest)
      else if c = ',' ∧ (dropBlanks rest).length < text.length then do
        let (more, last) ← readUntil? item? close (dropBlanks rest)
        return (a :: more, last)
      else none
termination_by text.length

/-- A list in brackets or braces, given what follows the opening mark. -/
def readList? {α : Type} (item? : List Char → Option (α × List Char)) (close : Char)
    (text : List Char) : Option (List α × List Char) :=
  match dropBlanks text with
  | [] => none
  | c :: rest => if c = close then some ([], rest) else readUntil? item? close (c :: rest)

/-- A name, a colon and a value. -/
def readMember? (value? : List Char → Option (Json × List Char)) :
    List Char → Option ((Option String × Json) × List Char)
  | '"' :: rest => do
    let (name, rest) ← readString? rest
    match dropBlanks rest with
    | ':' :: rest =>
      let (value, last) ← value? (dropBlanks rest)
      return ((name, value), last)
    | _ => none
  | _ => none

/-- A string that was read. -/
def ofContent (content : Option String) : Json :=
  content.elim unpaired string

/-- A member whose name denotes a string. -/
def named? (member : Option String × Json) : Option (String × Json) :=
  member.1.map (·, member.2)

/-- An object with members that were read. -/
def ofMembers (members : List (Option String × Json)) : Json :=
  (members.mapM named?).elim unpaired object

/-- A value with at most this many levels of lists and objects. -/
def readValue? (levels : Nat) (text : List Char) : Option (Json × List Char) :=
  match levels, text with
  | _, 'n' :: 'u' :: 'l' :: 'l' :: rest => some (null, rest)
  | _, 't' :: 'r' :: 'u' :: 'e' :: rest => some (bool true, rest)
  | _, 'f' :: 'a' :: 'l' :: 's' :: 'e' :: rest => some (bool false, rest)
  | _, '"' :: rest => (readString? rest).map fun (content, last) => (ofContent content, last)
  | levels + 1, '[' :: rest => (readList? (readValue? levels) ']' rest).map fun (items, last) =>
    (array items, last)
  | levels + 1, '\x7b' :: rest =>
    (readList? (readMember? (readValue? levels)) '\x7d' rest).map fun (members, last) =>
      (ofMembers members, last)
  | _, text => (readNumber? text).map fun (literal, last) => (number (.ofList literal), last)

/-- The value of a text that holds one value between blanks. No text is long enough to run out of
levels, since each takes a character. -/
def read? (text : String) : Option Json := do
  let characters := text.toList
  let (json, rest) ← readValue? characters.length (dropBlanks characters)
  if dropBlanks rest = [] then return json else none

end TagScript.Json
