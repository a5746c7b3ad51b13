/-!
# Texts as bytes

The readers of leading numbers go through the UTF-8 form of a text and cut the text off where they
stop. They count in bytes, so an offset may lie inside a character, and there a text cannot be cut.
-/

namespace TagScript.Text

/-- The UTF-8 form of a text. -/
def bytes (text : List Char) : List UInt8 :=
  text.flatMap String.utf8EncodeChar

/-- The characters in front of an offset, unless it lies inside a character or behind the end. -/
def cut? : List Char → Nat → Option (List Char)
  | _, 0 => some []
  | [], _ + 1 => none
  | c :: text, offset + 1 =>
    if c.utf8Size ≤ offset + 1 then (cut? text (offset + 1 - c.utf8Size)).map (c :: ·) else none

end TagScript.Text
