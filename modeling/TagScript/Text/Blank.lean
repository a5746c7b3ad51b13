import TagScript.Text.Ranges

/-!
# Blanks

White space in a script is every character with the standard's `White_Space` property, not only the
ASCII ones. Scripts skip it between tokens, number readers skip it around a number, and assertion
comments allow it after their slashes.
-/

namespace TagScript.Text

/-- The code points with the `White_Space` property. -/
def blanks : Ranges := [
  (0x9, 0xd), (0x20, 0x20), (0x85, 0x85), (0xa0, 0xa0), (0x1680, 0x1680), (0x2000, 0x200a),
  (0x2028, 0x2029), (0x202f, 0x202f), (0x205f, 0x205f), (0x3000, 0x3000)]

/-- Whether a character is white space. -/
def isBlank (c : Char) : Bool :=
  blanks.contains c

/-- The text without its leading blanks. -/
def dropBlanks (text : List Char) : List Char :=
  text.dropWhile isBlank

/-- Blanks in front are skipped, and nothing else is. -/
theorem dropBlanks_append {blanks text : List Char} (blank : ∀ c ∈ blanks, isBlank c = true)
    (starts : ∀ c ∈ text.head?, isBlank c = false) : dropBlanks (blanks ++ text) = text := by
  rw [dropBlanks, List.dropWhile_append_of_pos blank]
  cases text with
  | nil => rfl
  | cons c text => rw [List.dropWhile_cons, starts c rfl, if_neg Bool.false_ne_true]

/-- The text without its leading and trailing blanks. -/
def trimBlanks (text : List Char) : List Char :=
  (dropBlanks (dropBlanks text).reverse).reverse

end TagScript.Text
