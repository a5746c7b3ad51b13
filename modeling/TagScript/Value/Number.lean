import TagScript.Decimal.Layout
import TagScript.Decimal.Literal
import TagScript.Text.Blank
import TagScript.Text.Bytes

/-!
# Numbers as text and text as numbers

Texts take part in arithmetic through the number they start with. There are two readings: the
leading integer, used by addition and ordering, and the leading decimal, used everywhere else. In
the other direction a number shows as the shortest text that reads back, never with an exponent.
-/

namespace TagScript

open Decimal Text

/-- Numbers are shown positionally at every size, whole numbers without a point. -/
def shownNumber : Layout where
  tie := .up
  positional _ := true
  wholeEnd := []

/-- The text of a number. Zero has no sign. -/
def numberText (x : Float) : String :=
  if x.isNaN then "NAN"
  else if x.isInf then (if x > 0 then "INF" else "-INF")
  else
    let magnitude := shownNumber.magnitude x
    .ofList (if x < 0 then '-' :: magnitude else magnitude)

/-- The 64-bit integer of a value in its range. -/
def int64? (n : Int) : Option Int64 :=
  if Int64.minValue.toInt ≤ n ∧ n ≤ Int64.maxValue.toInt then some (.ofInt n) else none

/-- The 64-bit integer of a text that is a run of digits with an optional sign, from end to end. -/
def integerLiteral? (text : List Char) : Option Int64 :=
  let (negative, digits) := splitSign text
  let magnitude : Int := digitsValue digits
  if digits ≠ [] ∧ digits.all Char.isDigit then
    int64? (if negative then -magnitude else magnitude)
  else none

/-- Whether a byte is a decimal digit. -/
def isDigitByte (byte : UInt8) : Bool :=
  '0'.toUInt8 ≤ byte && byte ≤ '9'.toUInt8

/-- The offset behind an optional sign. -/
def signEnd (bytes : List UInt8) : Nat :=
  if bytes.head? = some '-'.toUInt8 ∨ bytes.head? = some '+'.toUInt8 then 1 else 0

/-- The offset behind the digits that begin at an offset. -/
def digitsEnd (bytes : List UInt8) (start : Nat) : Nat :=
  start + ((bytes.drop start).takeWhile isDigitByte).length

/-- The offset behind an optional sign and digits. -/
def integerEnd (bytes : List UInt8) : Nat :=
  digitsEnd bytes (signEnd bytes)

/-- The offset behind an optional sign, digits, and a point with the digits after it. -/
def fixedEnd (bytes : List UInt8) : Nat :=
  let point := integerEnd bytes
  if bytes[point]? = some '.'.toUInt8 then digitsEnd bytes (point + 1) else point

/-- The integer that a text starts with, behind blanks: zero when there is no digit, and also when
the number does not fit 64 bits. -/
def integerPrefix (text : String) : Int64 :=
  let trimmed := dropBlanks text.toList
  let bytes := bytes trimmed
  if integerEnd bytes = signEnd bytes then 0
  else ((cut? trimmed (integerEnd bytes)).bind integerLiteral?).getD 0

/-- The number of the longest beginning of a text, of so many bytes at most, that is a number. It is
zero when there is none. -/
def numberWithin (text : List Char) : Nat → Float
  | 0 => 0
  | size + 1 =>
    match (cut? text (size + 1)).bind number? with
    | some x => x
    | none => numberWithin text size

/-- The number of the digits, with an optional sign and point, that a text starts with. -/
def leadingNumber (text : List Char) : Float :=
  numberWithin text (fixedEnd (bytes text))

/-- Whether a word occurs in a text. -/
def mentions (word : List Char) : List Char → Bool
  | [] => word.isEmpty
  | c :: text => word.isPrefixOf (c :: text) || mentions word text

/-- The number that a text without outer blanks stands for. A text that is a number as a whole may
have an exponent; of any other text only the leading digits count. The words for infinities count
as text without digits, as does an unsigned `nan`. -/
def trimmedNumber (text : List Char) : Float :=
  let lower := text.map Char.toLower
  match number? text with
  | some x =>
    if lower = ['n', 'a', 'n'] ∨ mentions ['i', 'n', 'f'] lower then leadingNumber text else x
  | none => leadingNumber text

/-- The number that a text stands for, between blanks. -/
def numberPrefix (text : String) : Float :=
  trimmedNumber (trimBlanks text.toList)

end TagScript
