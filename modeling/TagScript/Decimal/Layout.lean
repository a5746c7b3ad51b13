import TagScript.Decimal.Shortest

/-!
# Number layouts

A layout turns selected digits into text. It fixes where positional notation ends, whether a whole
number keeps a point, and how an equal choice between two digit strings is settled.
-/

namespace TagScript.Decimal

/-- The decisions of one number format. -/
structure Layout where
  tie : Tie
  /-- Whether a number with its leading digit at this place is written without an exponent. -/
  positional : Int → Bool
  /-- What follows a whole number in positional notation. -/
  wholeEnd : List Char

/-- A run of zeros. -/
def zeros (count : Nat) : List Char :=
  List.replicate count '0'

namespace Digits

/-- The digits with the point in its place and zeros up to it, or after it, as needed. -/
def positional (wholeEnd : List Char) (d : Digits) : List Char :=
  if d.lead < 0 then
    ['0', '.'] ++ zeros (-d.lead - 1).toNat ++ d.digits
  else
    let whole := d.lead.toNat + 1
    if d.digits.length ≤ whole then
      d.digits ++ zeros (whole - d.digits.length) ++ wholeEnd
    else
      d.digits.take whole ++ ['.'] ++ d.digits.drop whole

/-- One digit, the others after a point, and the exponent with its sign. -/
def scientific (d : Digits) : List Char :=
  let mantissa := match d.digits with
    | [] => []
    | [digit] => [digit]
    | digit :: rest => digit :: '.' :: rest
  let sign := if d.lead < 0 then '-' else '+'
  mantissa ++ ['e', sign] ++ Nat.toDigits 10 d.lead.natAbs

end Digits

/-- The text of a finite number's magnitude. -/
def Layout.magnitude (layout : Layout) (x : Float) : List Char :=
  let digits := (Binary.ofFloat x).shortest layout.tie
  if layout.positional digits.lead then digits.positional layout.wholeEnd else digits.scientific

end TagScript.Decimal
