import Mathlib.Data.List.TakeDrop
import Mathlib.Data.List.TakeWhile
import TagScript.Decimal.Literal
import TagScript.Value.Number

/-!
# Numerals

An integer is written with decimal digits, a minus sign in front of a negative one, and no needless
zero. What is said here is what both readers of such numerals need: the one for JSON numbers and the
one for the tokens of a script.
-/

namespace TagScript

theorem isDigit_of_mem_toDigits {c : Char} {n : Nat} (inside : c ∈ Nat.toDigits 10 n) :
    c.isDigit = true :=
  Nat.isDigit_of_mem_toDigits (by decide) (by decide) inside

theorem isBlank_of_isDigit {c : Char} (digit : c.isDigit) : Text.isBlank c = false := by
  have range : 48 ≤ c.toNat ∧ c.toNat ≤ 57 := Char.isDigit_iff_toNat.1 digit
  simp only [Text.isBlank, Text.Ranges.contains, Text.blanks, Text.Ranges.covers]
  grind

theorem isAlpha_of_toLower {c : Char} (letter : c.toLower.isAlpha) : c.isAlpha := by
  by_cases upper : c.isUpper
  · exact Bool.or_eq_true_iff.2 (.inl upper)
  · have same : c.toLower = c := dif_neg fun range => upper (decide_eq_true range)
    rwa [same] at letter

theorem range_of_isAlpha {c : Char} (letter : c.isAlpha) : 65 ≤ c.toNat ∧ c.toNat < 128 := by
  rcases Bool.or_eq_true_iff.1 letter with upper | lower
  · have range := of_decide_eq_true upper
    exact ⟨range.1, Nat.lt_of_le_of_lt range.2 (by decide)⟩
  · have range := Bool.and_eq_true_iff.1 lower
    exact ⟨Nat.le_trans (by decide) (of_decide_eq_true range.1),
      Nat.lt_of_le_of_lt (of_decide_eq_true range.2) (by decide)⟩

/-- Only zero is written with a leading zero. -/
theorem head?_toDigits {n : Nat} (positive : 0 < n) : (Nat.toDigits 10 n).head? ≠ some '0' := by
  induction n using Nat.strongRecOn with
  | ind n ih =>
    rw [Nat.toDigits_eq_if (by decide)]
    by_cases small : n < 10
    · rw [if_pos small]
      intro same
      have zero : Nat.digitChar n = '0' := by simpa using same
      rw [Nat.digitChar_eq_zero] at zero
      omega
    · have shorter := ih (n / 10) (by omega) (by omega)
      rw [if_neg small, List.head?_append]
      cases digits : Nat.toDigits 10 (n / 10) with
      | nil => exact absurd digits Nat.toDigits_ne_nil
      | cons c rest => rwa [digits] at shorter

theorem toDigits_zero : Nat.toDigits 10 0 = ['0'] := by
  decide

theorem toList_toString_natCast (n : Nat) : (toString (n : Int)).toList = Nat.toDigits 10 n := by
  rw [Int.toString_eq_repr, Int.repr_eq_if, if_pos (Int.natCast_nonneg n), Int.toNat_natCast,
    Nat.repr_eq_ofList_toDigits, String.toList_ofList]

theorem toList_toString_negSucc (n : Nat) :
    (toString (Int.negSucc n)).toList = '-' :: Nat.toDigits 10 (n + 1) := by
  rw [Int.toString_eq_repr, Int.repr_eq_if, if_neg (by omega), String.toList_append,
    Int.neg_negSucc, Int.toNat_natCast, Nat.repr_eq_ofList_toDigits]
  show ['-'] ++ _ = _
  rw [String.toList_ofList, List.singleton_append]

namespace Decimal

theorem digitsValue_toDigits (n : Nat) : digitsValue (Nat.toDigits 10 n) = n :=
  Nat.ofDigitChars_ten_toDigits

/-- Digits are split off as far as they go. -/
theorem splitDigits_append {digits rest : List Char} (areDigits : ∀ c ∈ digits, c.isDigit = true)
    (ended : ∀ c ∈ rest.head?, c.isDigit = false) :
    splitDigits (digits ++ rest) = (digits, rest) := by
  have stops : rest.takeWhile Char.isDigit = [] ∧ rest.dropWhile Char.isDigit = rest := by
    cases rest with
    | nil => exact ⟨rfl, rfl⟩
    | cons c rest => simp [ended c rfl]
  rw [splitDigits, List.span_eq_takeWhile_dropWhile, List.takeWhile_append_of_pos areDigits,
    List.dropWhile_append_of_pos areDigits, stops.1, stops.2, List.append_nil]

theorem span_toDigits (n : Nat) {tail : List Char} (ended : ∀ c ∈ tail.head?, c.isDigit = false) :
    (Nat.toDigits 10 n ++ tail).span Char.isDigit = (Nat.toDigits 10 n, tail) :=
  splitDigits_append (fun _ => isDigit_of_mem_toDigits) ended

/-- Whatever is split, the parts are digits and something that does not start with one. -/
theorem splitDigits_parts (text : List Char) :
    text = (splitDigits text).1 ++ (splitDigits text).2 ∧
      (∀ c ∈ (splitDigits text).1, c.isDigit = true) ∧
      ∀ c ∈ (splitDigits text).2.head?, c.isDigit = false := by
  rw [splitDigits, List.span_eq_takeWhile_dropWhile]
  refine ⟨List.takeWhile_append_dropWhile.symm, fun c inside => List.mem_takeWhile_imp inside, ?_⟩
  intro c first
  have stopped := List.head?_dropWhile_not Char.isDigit text
  rw [Option.mem_def.1 first] at stopped
  exact stopped

/-- A numeral starts with a digit. -/
theorem toDigits_append (n : Nat) (tail : List Char) :
    ∃ c rest, Nat.toDigits 10 n ++ tail = c :: rest ∧ c.isDigit = true := by
  cases digits : Nat.toDigits 10 n with
  | nil => exact absurd digits Nat.toDigits_ne_nil
  | cons c rest =>
    exact ⟨c, rest ++ tail, rfl, isDigit_of_mem_toDigits (digits ▸ List.mem_cons_self)⟩

/-- The sign and the digits of an integer are told apart. -/
theorem splitSign_toString (n : Int) :
    splitSign (toString n).toList = (decide (n < 0), Nat.toDigits 10 n.natAbs) := by
  cases n with
  | ofNat n =>
    have natural : ¬(n : Int) < 0 := by omega
    obtain ⟨c, rest, starts, isDigit⟩ := toDigits_append n []
    rw [List.append_nil] at starts
    rw [Int.ofNat_eq_natCast, toList_toString_natCast, Int.natAbs_natCast]
    unfold splitSign
    split
    · next minus =>
      cases minus.symm.trans starts
      contradiction
    · next plus =>
      cases plus.symm.trans starts
      contradiction
    · rw [decide_eq_false natural]
  | negSucc n =>
    rw [toList_toString_negSucc, splitSign, decide_eq_true (Int.negSucc_lt_zero n),
      Int.natAbs_negSucc]

end Decimal

open Decimal

/-- An optional sign. -/
inductive IsSign : List Char → Prop
  | none : IsSign []
  | minus : IsSign ['-']
  | plus : IsSign ['+']

theorem splitSign_append {sign rest : List Char} (isSign : IsSign sign)
    (unsigned : sign = [] → rest.head? ≠ some '-' ∧ rest.head? ≠ some '+') :
    splitSign (sign ++ rest) = (decide (sign = ['-']), rest) := by
  cases isSign with
  | none =>
    show splitSign rest = _
    unfold splitSign
    split
    · exact absurd rfl (unsigned rfl).1
    · exact absurd rfl (unsigned rfl).2
    · rfl
  | minus => rfl
  | plus => rfl

theorem head?_of_areDigits {digits : List Char} (areDigits : ∀ c ∈ digits, c.isDigit = true) :
    digits.head? ≠ some '-' ∧ digits.head? ≠ some '+' := by
  constructor
  · intro minus
    exact absurd (areDigits '-' (List.mem_of_head? minus)) (by decide)
  · intro plus
    exact absurd (areDigits '+' (List.mem_of_head? plus)) (by decide)

/-- Digits without a sign are read as their value. -/
theorem integerLiteral?_of_areDigits {digits : List Char}
    (areDigits : ∀ c ∈ digits, c.isDigit = true) (present : digits ≠ []) :
    integerLiteral? digits = int64? (digitsValue digits) := by
  have all : digits.all Char.isDigit = true := List.all_eq_true.2 areDigits
  have unsigned : splitSign digits = (false, digits) :=
    splitSign_append .none fun _ => head?_of_areDigits areDigits
  rw [integerLiteral?, unsigned]
  exact if_pos ⟨present, all⟩

theorem int64?_toInt (n : Int64) : int64? n.toInt = some n := by
  have lower := n.le_toInt
  have upper := n.toInt_lt
  have least : Int64.minValue.toInt = -2 ^ 63 := by decide
  have largest : Int64.maxValue.toInt = 2 ^ 63 - 1 := by decide
  rw [int64?, if_pos (by omega), Int64.ofInt_toInt]

theorem nonneg_of_int64? {n : Nat} {i : Int64} (fits : int64? n = some i) : 0 ≤ i := by
  unfold int64? at fits
  split at fits
  · next bounds =>
    cases fits
    have largest : Int64.maxValue.toInt = 2 ^ 63 - 1 := by decide
    rw [Int64.le_iff_toInt_le, Int64.toInt_ofInt_of_le (by omega) (by omega)]
    exact Int.natCast_nonneg n
  · contradiction

theorem nonneg_of_integerLiteral? {digits : List Char} {n : Int64}
    (areDigits : ∀ c ∈ digits, c.isDigit = true) (read : integerLiteral? digits = some n) :
    0 ≤ n := by
  by_cases absent : digits = []
  · subst absent
    cases read
  · rw [integerLiteral?_of_areDigits areDigits absent] at read
    exact nonneg_of_int64? read

end TagScript
