import TagScript.Text.Invisible

/-!
# Quoted text

Diagnostics show a piece of source between quotes on one line. The quote itself, the backslash and
every character without a visible form are written as escapes, so two different texts never look
alike.
-/

namespace TagScript.Text

/-- The digits of a code point in lower-case hexadecimal. -/
def hexadecimal (n : Nat) : List Char :=
  Nat.toDigits 16 n

/-- One character as it stands between two `quote` characters. -/
def quotedCharacter (quote c : Char) : List Char :=
  if c = '\x00' then ['\\', '0']
  else if c = '\t' then ['\\', 't']
  else if c = '\r' then ['\\', 'r']
  else if c = '\n' then ['\\', 'n']
  else if c = '\\' || c = quote then ['\\', c]
  else if isInvisible c then
    ['\\', 'u', '\x7b'] ++ hexadecimal c.toNat ++ ['\x7d']
  else [c]

/-- A text between `quote` characters. -/
def quotedWith (quote : Char) (text : List Char) : String :=
  .ofList (quote :: text.flatMap (quotedCharacter quote) ++ [quote])

/-- A text in double quotes. -/
def quoted (text : String) : String :=
  quotedWith '"' text.toList

/-- A character in single quotes. -/
def quotedChar (c : Char) : String :=
  quotedWith '\x27' [c]

end TagScript.Text
