/-!
# Character classes given by ranges

Several rules of the language depend on a class of characters that the standard fixes by listing
it. Such a class is a list of closed code point ranges in ascending order, and a search stops at the
first range that starts beyond the character.
-/

namespace TagScript.Text

/-- A class of characters: closed ranges of code points, ascending and apart from each other. -/
abbrev Ranges := List (Nat × Nat)

namespace Ranges

/-- Whether a code point lies in one of the ranges. -/
def covers : Ranges → Nat → Bool
  | [], _ => false
  | (first, last) :: ranges, code =>
    if code < first then false else code ≤ last || covers ranges code

/-- Whether a character lies in one of the ranges. -/
def contains (ranges : Ranges) (c : Char) : Bool :=
  ranges.covers c.toNat

end Ranges

end TagScript.Text
