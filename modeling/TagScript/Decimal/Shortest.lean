/-!
# Shortest decimal digits of a binary number

A finite floating point number is the nearest representable value to a whole interval of reals.
This module selects the decimal with the fewest digits inside that interval and, of those, the one
nearest to the number. All comparisons are made on exact natural numbers. How the digits are laid
out as text is not decided here.
-/

namespace TagScript.Decimal

/-- What happens when two decimals of the least length are equally near. -/
inductive Tie
  /-- The larger of the two is taken. -/
  | up
  /-- The one with an even last digit is taken. -/
  | even
  deriving DecidableEq, Repr

/-- The magnitude `mantissa * 2 ^ exponent` of a finite number. -/
structure Binary where
  mantissa : Nat
  exponent : Int
  /-- At a power of two the next number below is only half as far away as the one above. -/
  narrowBelow : Bool
  deriving DecidableEq, Repr

/-- The magnitude of a finite number, read from its 52 fraction bits and 11 exponent bits. -/
def Binary.ofFloat (x : Float) : Binary :=
  let bits := x.toBits.toNat
  let fraction : Nat := bits % Nat.pow 2 52
  let field : Nat := bits / Nat.pow 2 52 % Nat.pow 2 11
  if field = 0 then
    { mantissa := fraction, exponent := -1074, narrowBelow := false }
  else
    { mantissa := Nat.pow 2 52 + fraction, exponent := (field : Int) - 1075,
      narrowBelow := fraction = 0 && 1 < field }

/-- Whether the sign bit is set, as it is for negative zero. -/
def isNegative (x : Float) : Bool :=
  Nat.pow 2 63 ≤ x.toBits.toNat

/-- Significant digits, the first of which counts multiples of `10 ^ lead`. -/
structure Digits where
  digits : List Char
  lead : Int
  deriving DecidableEq, Repr

/-- The digits of `count * 10 ^ place`, without trailing zeros. -/
def Digits.ofMultiple (count : Nat) (place : Int) : Digits :=
  let digits := Nat.toDigits 10 count
  { digits := (digits.reverse.dropWhile (· = '0')).reverse
    lead := place + digits.length - 1 }

namespace Binary

/-- The place of the leading decimal digit: the number is at least `10` to this power and below the
next one. Counting digits of numerator and denominator leaves two possible places. -/
def leadingPlace (x : Binary) : Int :=
  let numerator := x.mantissa * Nat.pow 2 x.exponent.toNat
  let denominator := Nat.pow 2 (-x.exponent).toNat
  let place : Int := (Nat.toDigits 10 numerator).length - (Nat.toDigits 10 denominator).length
  if denominator * Nat.pow 10 place.toNat ≤ numerator * Nat.pow 10 (-place).toNat then place
  else place - 1

/-- The multiple of `10 ^ place` that reads back as `x` and is nearest to it, if one exists. Both
sides are scaled to whole numbers: a quarter of the last mantissa bit is `quarter`, and one step of
the decimal grid is `step`. The ends of the interval belong to it when the mantissa is even. -/
def nearestMultiple? (tie : Tie) (x : Binary) (place : Int) : Option Nat :=
  let step := Nat.pow 10 place.toNat * Nat.pow 2 (2 - x.exponent).toNat
  let quarter := Nat.pow 10 (-place).toNat * Nat.pow 2 (x.exponent - 2).toNat
  let value := 4 * x.mantissa * quarter
  let lowest := value - (if x.narrowBelow then 1 else 2) * quarter
  let highest := value + 2 * quarter
  let readsBack (count : Nat) : Bool :=
    if x.mantissa % 2 = 0 then lowest ≤ count * step && count * step ≤ highest
    else lowest < count * step && count * step < highest
  let below := value / step
  let above := below + 1
  match readsBack below, readsBack above with
  | false, false => none
  | true, false => some below
  | false, true => some above
  | true, true =>
    let fromBelow := value - below * step
    let fromAbove := above * step - value
    if fromBelow < fromAbove then some below
    else if fromAbove < fromBelow then some above
    else
      match tie with
      | .up => some above
      | .even => some (if below % 2 = 0 then below else above)

/-- The shortest digits that read back as `x`, nearest first. Seventeen digits always suffice, so
the search over lengths ends with an answer. -/
def shortest (tie : Tie) (x : Binary) : Digits :=
  if x.mantissa = 0 then { digits := ['0'], lead := 0 }
  else
    let lead := x.leadingPlace
    let found := (List.range 17).findSome? fun (extra : Nat) =>
      let place := lead - extra
      (x.nearestMultiple? tie place).map (Digits.ofMultiple · place)
    found.getD { digits := ['0'], lead := 0 }

end Binary

end TagScript.Decimal
