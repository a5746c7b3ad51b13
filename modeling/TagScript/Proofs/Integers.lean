import Mathlib.Algebra.Group.Int.Defs
import TagScript.Proofs.Numerals
import TagScript.Proofs.Offsets
import TagScript.Value

/-!
# Leading integers

Addition and ordering take a text for the integer that it starts with. `LeadingInteger` says how a
text begins that is read so: an optional sign, as many digits as there are, and the rest. The reader
finds the end of the digits by looking at bytes. That this is the same place, always between two
characters, and that the integer read is the value of the digits is `integerPrefix_exact`.
-/

namespace TagScript

open Decimal Text

/-- A text begins with this sign, if any, and then with these digits and no further one. -/
structure LeadingInteger (text sign digits rest : List Char) : Prop where
  split : text = sign ++ digits ++ rest
  isSign : IsSign sign
  /-- A sign is not passed over. -/
  unsigned : sign = [] → text.head? ≠ some '-' ∧ text.head? ≠ some '+'
  areDigits : ∀ c ∈ digits, c.isDigit = true
  ended : ∀ c ∈ rest.head?, c.isDigit = false

/-- The number that digits behind a sign stand for. -/
def signedValue (sign digits : List Char) : Int :=
  if sign = ['-'] then -(Nat.ofDigitChars 10 digits 0 : Int) else Nat.ofDigitChars 10 digits 0

theorem IsSign.lt {sign : List Char} (isSign : IsSign sign) : ∀ c ∈ sign, c.toNat < 128 := by
  cases isSign with
  | none => simp
  | minus => simp
  | plus => simp

theorem exists_leadingInteger (text : List Char) :
    ∃ sign digits rest, LeadingInteger text sign digits rest := by
  by_cases minus : text.head? = some '-'
  · obtain ⟨rest, rfl⟩ := List.head?_eq_some_iff.1 minus
    obtain ⟨parts, areDigits, ended⟩ := splitDigits_parts rest
    exact ⟨['-'], _, _, congrArg ('-' :: ·) parts, .minus, by simp, areDigits, ended⟩
  · by_cases plus : text.head? = some '+'
    · obtain ⟨rest, rfl⟩ := List.head?_eq_some_iff.1 plus
      obtain ⟨parts, areDigits, ended⟩ := splitDigits_parts rest
      exact ⟨['+'], _, _, congrArg ('+' :: ·) parts, .plus, by simp, areDigits, ended⟩
    · obtain ⟨parts, areDigits, ended⟩ := splitDigits_parts text
      exact ⟨[], _, _, parts, .none, fun _ => ⟨minus, plus⟩, areDigits, ended⟩

namespace LeadingInteger

variable {text sign digits rest : List Char}

theorem lt (leads : LeadingInteger text sign digits rest) :
    ∀ c ∈ sign ++ digits, c.toNat < 128 := by
  intro c inside
  rcases List.mem_append.1 inside with inside | inside
  · exact leads.isSign.lt c inside
  · exact lt_of_isDigit (leads.areDigits c inside)

theorem signEnd_bytes (leads : LeadingInteger text sign digits rest) :
    signEnd (bytes text) = sign.length := by
  have minus : (bytes text).head? = some '-'.toUInt8 ↔ text.head? = some '-' :=
    head?_bytes (by decide) text
  have plus : (bytes text).head? = some '+'.toUInt8 ↔ text.head? = some '+' :=
    head?_bytes (by decide) text
  simp only [signEnd, minus, plus]
  rcases leads with ⟨rfl, isSign, unsigned, -, -⟩
  cases isSign with
  | none => exact if_neg (not_or.2 (unsigned rfl))
  | minus => exact if_pos (.inl rfl)
  | plus => exact if_pos (.inr rfl)

/-- The bytes in front of the end of the digits are the sign and the digits. -/
theorem integerEnd_bytes (leads : LeadingInteger text sign digits rest) :
    integerEnd (bytes text) = (bytes (sign ++ digits)).length := by
  rw [integerEnd, leads.signEnd_bytes, length_bytes_of_ascii leads.lt, leads.split,
    digitsEnd_bytes leads.isSign.lt leads.areDigits leads.ended]

/-- What the reader cuts off is the sign with the digits, and never part of a character. -/
theorem cut?_integerEnd (leads : LeadingInteger text sign digits rest) :
    cut? text (integerEnd (bytes text)) = some (sign ++ digits) := by
  rw [leads.integerEnd_bytes, leads.split, cut?_append]

end LeadingInteger

/-- The parts that a text begins with are determined, because the reader finds their ends. -/
theorem LeadingInteger.unique {text sign digits rest sign' digits' rest' : List Char}
    (leads : LeadingInteger text sign digits rest)
    (leads' : LeadingInteger text sign' digits' rest') :
    sign = sign' ∧ digits = digits' ∧ rest = rest' := by
  have signs : sign.length = sign'.length := leads.signEnd_bytes.symm.trans leads'.signEnd_bytes
  have fronts : (sign ++ digits).length = (sign' ++ digits').length := by
    rw [← length_bytes_of_ascii leads.lt, ← length_bytes_of_ascii leads'.lt,
      ← leads.integerEnd_bytes, leads'.integerEnd_bytes]
  obtain ⟨front, rfl⟩ := List.append_inj (leads.split.symm.trans leads'.split) fronts
  obtain ⟨rfl, rfl⟩ := List.append_inj front signs
  exact ⟨rfl, rfl, rfl⟩

theorem integerLiteral?_append {sign digits : List Char} (isSign : IsSign sign)
    (areDigits : ∀ c ∈ digits, c.isDigit = true) (present : digits ≠ []) :
    integerLiteral? (sign ++ digits) = int64? (signedValue sign digits) := by
  have all : digits.all Char.isDigit = true := List.all_eq_true.2 areDigits
  rw [integerLiteral?, splitSign_append isSign fun _ => head?_of_areDigits areDigits]
  simp only [decide_eq_true_eq]
  rw [if_pos ⟨present, all⟩]
  rfl

theorem toInt_getD_int64? (n : Int) :
    ((int64? n).getD 0).toInt = if -2 ^ 63 ≤ n ∧ n < 2 ^ 63 then n else 0 := by
  have least : Int64.minValue.toInt = -2 ^ 63 := by decide
  have largest : Int64.maxValue.toInt = 2 ^ 63 - 1 := by decide
  rw [int64?, least, largest]
  by_cases fits : -2 ^ 63 ≤ n ∧ n < 2 ^ 63
  · rw [if_pos (by omega), if_pos fits, Option.getD_some]
    exact Int64.toInt_ofInt_of_le fits.1 fits.2
  · rw [if_neg (by omega), if_neg fits]
    rfl

/-- The integer read is the value of the digits, where there are any and it fits. -/
theorem toInt_integerPrefix {text : String} {sign digits rest : List Char}
    (leads : LeadingInteger (dropBlanks text.toList) sign digits rest) :
    (integerPrefix text).toInt =
      if digits ≠ [] ∧ -2 ^ 63 ≤ signedValue sign digits ∧ signedValue sign digits < 2 ^ 63 then
        signedValue sign digits
      else 0 := by
  have length : (bytes (sign ++ digits)).length = sign.length + digits.length := by
    rw [length_bytes_of_ascii leads.lt, List.length_append]
  rw [integerPrefix]
  by_cases absent : digits = []
  · have none : integerEnd (bytes (dropBlanks text.toList)) =
        signEnd (bytes (dropBlanks text.toList)) := by
      rw [leads.integerEnd_bytes, leads.signEnd_bytes, length, absent, List.length_nil,
        Nat.add_zero]
    rw [if_pos none, if_neg fun both => both.1 absent]
    rfl
  · have further : integerEnd (bytes (dropBlanks text.toList)) ≠
        signEnd (bytes (dropBlanks text.toList)) := by
      have := List.length_pos_iff.2 absent
      rw [leads.integerEnd_bytes, leads.signEnd_bytes, length]
      omega
    rw [if_neg further, leads.cut?_integerEnd, Option.bind_some,
      integerLiteral?_append leads.isSign leads.areDigits absent, toInt_getD_int64?]
    simp only [ne_eq, absent, not_false_eq_true, true_and]

/-- The text of an integer leads to its digits, whatever follows. -/
theorem exists_leadingInteger_toString (n : Int) {rest : List Char}
    (ended : ∀ c ∈ rest.head?, c.isDigit = false) :
    ∃ sign digits, LeadingInteger ((toString n).toList ++ rest) sign digits rest ∧ digits ≠ [] ∧
      signedValue sign digits = n := by
  cases n with
  | ofNat n =>
    refine ⟨[], Nat.toDigits 10 n,
      ⟨?_, .none, fun _ => ?_, fun c => isDigit_of_mem_toDigits, ended⟩,
      Nat.toDigits_ne_nil, ?_⟩
    · rw [Int.ofNat_eq_natCast, toList_toString_natCast, List.nil_append]
    · obtain ⟨c, more, starts, isDigit⟩ := toDigits_append n rest
      rw [Int.ofNat_eq_natCast, toList_toString_natCast, starts, List.head?_cons]
      constructor
      · rintro ⟨rfl⟩
        contradiction
      · rintro ⟨rfl⟩
        contradiction
    · rw [signedValue, if_neg (by decide), Nat.ofDigitChars_ten_toDigits, Int.ofNat_eq_natCast]
  | negSucc n =>
    refine ⟨['-'], Nat.toDigits 10 (n + 1),
      ⟨?_, .minus, fun none => ?_, fun c => isDigit_of_mem_toDigits, ended⟩,
      Nat.toDigits_ne_nil, ?_⟩
    · rw [toList_toString_negSucc, List.singleton_append]
    · cases none
    · rw [signedValue, if_pos rfl, Nat.ofDigitChars_ten_toDigits, Int.negSucc_eq, Int.natCast_succ]

/-- Neither a sign nor a digit is a blank. -/
theorem LeadingInteger.isBlank_head {text sign digits rest : List Char}
    (leads : LeadingInteger text sign digits rest) (present : digits ≠ []) :
    ∀ c ∈ text.head?, isBlank c = false := by
  rcases leads with ⟨rfl, isSign, -, areDigits, -⟩
  cases isSign with
  | none =>
    cases digits with
    | nil => exact absurd rfl present
    | cons digit digits =>
      rintro c ⟨rfl⟩
      exact isBlank_of_isDigit (areDigits digit List.mem_cons_self)
  | minus =>
    rintro c ⟨rfl⟩
    decide
  | plus =>
    rintro c ⟨rfl⟩
    decide

/-- A text is read as the integer of the digits that it leads to, where there are any and their
value fits; otherwise as zero. The cut behind the digits falls between two characters. The text of
an integer reads back, with any blanks in front of it and anything but a further digit behind. -/
theorem integerPrefix_exact :
    (∀ text : String, ∃ sign digits rest, LeadingInteger (dropBlanks text.toList) sign digits rest ∧
      (integerPrefix text).toInt =
        (if digits ≠ [] ∧ -2 ^ 63 ≤ signedValue sign digits ∧ signedValue sign digits < 2 ^ 63 then
          signedValue sign digits
        else 0) ∧
      String.Pos.Raw.IsValid (.ofList (dropBlanks text.toList))
        ⟨integerEnd (bytes (dropBlanks text.toList))⟩) ∧
    ∀ (n : Int64) (blanks rest : String), (∀ c ∈ blanks.toList, isBlank c = true) →
      (∀ c ∈ rest.toList.head?, c.isDigit = false) →
      integerPrefix (blanks ++ (Scalar.int n).toText ++ rest) = n := by
  constructor
  · intro text
    obtain ⟨sign, digits, rest, leads⟩ := exists_leadingInteger (dropBlanks text.toList)
    exact ⟨sign, digits, rest, leads, toInt_integerPrefix leads,
      isValid_of_cut? leads.cut?_integerEnd⟩
  · intro n blanks rest blank ended
    obtain ⟨sign, digits, leads, present, value⟩ := exists_leadingInteger_toString n.toInt ended
    have trimmed : dropBlanks (blanks ++ (Scalar.int n).toText ++ rest).toList =
        (toString n.toInt).toList ++ rest.toList := by
      rw [String.toList_append, String.toList_append, List.append_assoc]
      exact dropBlanks_append blank (leads.isBlank_head present)
    rw [← trimmed] at leads
    have lower := n.le_toInt
    have upper := n.toInt_lt
    apply Int64.toInt_inj.1
    rw [toInt_integerPrefix leads, value, if_pos ⟨present, lower, upper⟩]

/-- The least integer is read behind a blank that is not ASCII and in front of a letter that is not
ASCII. With one digit more it does not fit. -/
theorem integerPrefix_exact_at_least :
    (∀ c ∈ "\u2003".toList, isBlank c = true) ∧ (∀ c ∈ "é".toList.head?, c.isDigit = false) ∧
      integerPrefix ("\u2003" ++ (Scalar.int Int64.minValue).toText ++ "é") = Int64.minValue ∧
      integerPrefix "-92233720368547758080" = 0 := by
  have blank : ∀ c ∈ "\u2003".toList, isBlank c = true := by
    simp only [String.reduceToList, List.mem_singleton, forall_eq]
    decide
  have ended : ∀ c ∈ "é".toList.head?, c.isDigit = false := by
    simp
  exact ⟨blank, ended, integerPrefix_exact.2 Int64.minValue "\u2003" "é" blank ended,
    by decide +kernel⟩

end TagScript
