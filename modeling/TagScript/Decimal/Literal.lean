/-!
# Decimal literals

A literal has an optional sign, digits with an optional point among or around them, and an optional
exponent. It denotes the nearest floating point number, an infinity when it is too large. Where a
text is to be a number as a whole, the words for an infinity and for no number will do as well.
-/

namespace TagScript.Decimal

/-- The number written by a run of decimal digits. -/
def digitsValue (digits : List Char) : Nat :=
  digits.foldl (fun value digit => 10 * value + (digit.toNat - '0'.toNat)) 0

/-- Splits off an optional sign; `true` stands for minus. -/
def splitSign : List Char → Bool × List Char
  | '-' :: rest => (true, rest)
  | '+' :: rest => (false, rest)
  | text => (false, text)

/-- The run of digits at the front and what follows it. -/
def splitDigits (text : List Char) : List Char × List Char :=
  text.span Char.isDigit

/-- Digits around an optional point. At least one side has a digit. -/
structure Fixed where
  whole : List Char
  fraction : List Char
  deriving DecidableEq, Repr

/-- Reads digits around an optional point from the front of a text. A point after digits is read
even when no digit follows it. -/
def Fixed.read? (text : List Char) : Option (Fixed × List Char) :=
  let (whole, rest) := splitDigits text
  let (fraction, rest) := match rest with
    | '.' :: afterPoint => splitDigits afterPoint
    | _ => ([], rest)
  if whole = [] ∧ fraction = [] then none else some (⟨whole, fraction⟩, rest)

/-- Reads an optional exponent that extends to the end of the text. -/
def finalExponent? : List Char → Option Int
  | [] => some 0
  | mark :: text =>
    let (negative, rest) := splitSign text
    let (digits, rest) := splitDigits rest
    if (mark = 'e' ∨ mark = 'E') ∧ digits ≠ [] ∧ rest = [] then
      some (if negative then -(digitsValue digits : Int) else digitsValue digits)
    else none

/-- The nearest floating point number to `count * 10 ^ scale`. Places beyond the range of the type
are settled first, so that no huge power is ever formed. -/
def nearestFloat (count : Nat) (scale : Int) : Float :=
  let lead : Int := (Nat.toDigits 10 count).length + scale
  if count = 0 ∨ lead < -400 then 0
  else if 400 < lead then 1 / 0
  else Float.ofScientific count (scale < 0) scale.natAbs

/-- The number of a literal with this sign, these digits and this power of ten. -/
def Fixed.toFloat (negative : Bool) (fixed : Fixed) (exponent : Int) : Float :=
  let magnitude :=
    nearestFloat (digitsValue (fixed.whole ++ fixed.fraction)) (exponent - fixed.fraction.length)
  if negative then -magnitude else magnitude

/-- The number of a text that is a decimal literal from end to end. -/
def literal? (text : List Char) : Option Float := do
  let (negative, rest) := splitSign text
  let (fixed, rest) ← Fixed.read? rest
  let exponent ← finalExponent? rest
  return fixed.toFloat negative exponent

/-- The magnitude that a word stands for, in capital or small letters. -/
def word? (word : List Char) : Option Float :=
  let lower := word.map Char.toLower
  if lower = ['i', 'n', 'f'] ∨ lower = ['i', 'n', 'f', 'i', 'n', 'i', 't', 'y'] then some (1 / 0)
  else if lower = ['n', 'a', 'n'] then some (0 / 0)
  else none

/-- The number of a text that is a decimal literal or a word with an optional sign, from end to
end. -/
def number? (text : List Char) : Option Float :=
  match literal? text with
  | some x => some x
  | none =>
    let (negative, word) := splitSign text
    (word? word).map fun magnitude => if negative then -magnitude else magnitude

end TagScript.Decimal
