import TagScript.Decimal.Layout
import TagScript.Text.Quoted

/-!
# JSON values and their text

Programs are exchanged as JSON. A number is kept as it is written, since only its reader knows
whether it is an integer or a floating point number. The text has one element to a line and two
blanks of indentation for each level.
-/

namespace TagScript

/-- A JSON value. Members of an object keep their order and may repeat. -/
inductive Json
  /-- A string, or an object with a member name, that has an escape for half a character. Its form is
  correct, but it denotes nothing. -/
  | unpaired
  | null
  | bool (b : Bool)
  | number (literal : String)
  | string (content : String)
  | array (items : List Json)
  | object (members : List (String × Json))
  deriving Inhabited

namespace Json

/-- The number of an integer. -/
def int (n : Int) : Json :=
  number (toString n)

/-- Floating point numbers keep a point, and have an exponent only below `10 ^ -5` and from
`10 ^ 16` on. -/
def floatLayout : Decimal.Layout where
  tie := .even
  positional place := -5 ≤ place && place ≤ 15
  wholeEnd := ['.', '0']

/-- The number of a finite floating point number; JSON has none for the others. -/
def float (x : Float) : Json :=
  if x.isFinite then
    let magnitude := floatLayout.magnitude x
    number (.ofList (if Decimal.isNegative x then '-' :: magnitude else magnitude))
  else null

/-- A character inside a string. Only the quote, the backslash and controls are escaped. -/
def escape (c : Char) : List Char :=
  if c = '"' then ['\\', '"']
  else if c = '\\' then ['\\', '\\']
  else if c = '\x08' then ['\\', 'b']
  else if c = '\x0c' then ['\\', 'f']
  else if c = '\n' then ['\\', 'n']
  else if c = '\r' then ['\\', 'r']
  else if c = '\t' then ['\\', 't']
  else if c.toNat < 0x20 then
    let digits := Text.hexadecimal c.toNat
    ['\\', 'u'] ++ Decimal.zeros (4 - digits.length) ++ digits
  else [c]

/-- A string in front of a text. -/
def putString (content : String) (tail : List Char) : List Char :=
  '"' :: content.toList.flatMap escape ++ '"' :: tail

/-- A new line at a level of indentation, in front of a text. -/
def putLine (level : Nat) (tail : List Char) : List Char :=
  '\n' :: (List.replicate (2 * level) ' ' ++ tail)

mutual

/-- A value at a level of indentation, in front of a text. -/
def put (level : Nat) : Json → List Char → List Char
  | unpaired, tail => '"' :: '\\' :: 'u' :: 'd' :: '8' :: '0' :: '0' :: '"' :: tail
  | null, tail => 'n' :: 'u' :: 'l' :: 'l' :: tail
  | bool true, tail => 't' :: 'r' :: 'u' :: 'e' :: tail
  | bool false, tail => 'f' :: 'a' :: 'l' :: 's' :: 'e' :: tail
  | number literal, tail => literal.toList ++ tail
  | string content, tail => putString content tail
  | array [], tail => '[' :: ']' :: tail
  | array (item :: items), tail =>
    '[' :: putLine (level + 1) (item.put (level + 1)
      (putItems (level + 1) items (putLine level (']' :: tail))))
  | object [], tail => '\x7b' :: '\x7d' :: tail
  | object ((name, value) :: members), tail =>
    '\x7b' :: putLine (level + 1) (putString name (':' :: ' ' :: value.put (level + 1)
      (putMembers (level + 1) members (putLine level ('\x7d' :: tail)))))

/-- The items after the first, in front of a text. -/
def putItems (level : Nat) : List Json → List Char → List Char
  | [], tail => tail
  | item :: items, tail => ',' :: putLine level (item.put level (putItems level items tail))

/-- The members after the first, in front of a text. -/
def putMembers (level : Nat) : List (String × Json) → List Char → List Char
  | [], tail => tail
  | (name, value) :: members, tail =>
    ',' :: putLine level (putString name (':' :: ' ' ::
      value.put level (putMembers level members tail)))

end

/-- The text of a value. -/
def render (json : Json) : String :=
  .ofList (json.put 0 [])

end Json

end TagScript
