import Mathlib.Data.List.TakeDrop
import TagScript.Value.Number

/-!
# Bytes and characters

A scan over the UTF-8 form of a text only ever looks for ASCII characters. The form of such a
character is its code, and the forms of all others begin with a larger byte, so looking at bytes
finds what looking at characters would. Cutting at an offset gives the characters whose forms fill
the bytes in front of it, and it fails at every other offset (`Text.cut?_eq_some_iff`).
-/

namespace TagScript

namespace Text

theorem bytes_append (front rest : List Char) :
    bytes (front ++ rest) = bytes front ++ bytes rest :=
  List.flatMap_append

theorem length_bytes_cons (c : Char) (text : List Char) :
    (bytes (c :: text)).length = c.utf8Size + (bytes text).length := by
  rw [bytes, List.flatMap_cons, List.length_append, String.length_utf8EncodeChar, bytes]

theorem cut?_cons (c : Char) (text : List Char) (offset : Nat) :
    cut? (c :: text) (c.utf8Size + offset) = (cut? text offset).map (c :: ·) := by
  obtain ⟨size, wide⟩ := Nat.exists_eq_succ_of_ne_zero (Nat.ne_of_gt c.utf8Size_pos)
  have same : c.utf8Size + offset = (size + offset) + 1 := by omega
  have remains : size + offset + 1 - c.utf8Size = offset := by omega
  rw [same, cut?, if_pos (by omega), remains]

theorem cut?_append (front rest : List Char) :
    cut? (front ++ rest) (bytes front).length = some front := by
  induction front with
  | nil => simp [bytes, cut?]
  | cons c front ih => rw [length_bytes_cons, List.cons_append, cut?_cons, ih, Option.map_some]

/-- Cutting succeeds exactly at the boundaries of characters. -/
theorem cut?_eq_some_iff {text front : List Char} {offset : Nat} :
    cut? text offset = some front ↔
      ∃ rest, text = front ++ rest ∧ (bytes front).length = offset := by
  constructor
  · intro cut
    fun_induction cut? text offset generalizing front with
    | case1 text =>
      cases cut
      exact ⟨text, rfl, rfl⟩
    | case2 => cases cut
    | case3 c text offset fits ih =>
      obtain ⟨front, inner, rfl⟩ := Option.map_eq_some_iff.1 cut
      obtain ⟨rest, rfl, size⟩ := ih inner
      exact ⟨rest, rfl, by rw [length_bytes_cons]; omega⟩
    | case4 => cases cut
  · rintro ⟨rest, rfl, rfl⟩
    exact cut?_append front rest

/-- What can be cut off ends between two characters of the string. -/
theorem isValid_of_cut? {text front : List Char} {offset : Nat}
    (cut : cut? text offset = some front) : String.Pos.Raw.IsValid (.ofList text) ⟨offset⟩ := by
  obtain ⟨rest, rfl, rfl⟩ := cut?_eq_some_iff.1 cut
  refine String.Pos.Raw.isValid_iff_exists_append.2
    ⟨.ofList front, .ofList rest, String.ofList_append, ?_⟩
  have size : (String.ofList front).utf8ByteSize = (bytes front).length := by
    rw [← String.size_toByteArray, String.toByteArray_ofList, List.utf8Encode,
      List.size_toByteArray, bytes]
  rw [← size]
  rfl

/-- The form of an ASCII character is its code; other characters begin with a larger byte. -/
theorem utf8EncodeChar_cases (c : Char) :
    c.toNat < 128 ∧ String.utf8EncodeChar c = [c.toUInt8] ∨
      128 ≤ c.toNat ∧ ∃ byte more, String.utf8EncodeChar c = byte :: more ∧ 128 ≤ byte.toNat := by
  by_cases ascii : c.toNat < 128
  · have single : c.utf8Size = 1 :=
      Char.utf8Size_eq_one_iff.2 (UInt32.le_iff_toNat_le.2 (Nat.le_of_lt_succ ascii))
    exact .inl ⟨ascii, String.utf8EncodeChar_eq_singleton single⟩
  · have large : ¬c.val.toNat ≤ 127 := fun small => ascii (Nat.lt_succ_of_le small)
    refine .inr ⟨Nat.not_lt.1 ascii, ?_⟩
    rw [String.utf8EncodeChar, if_neg large]
    split
    · refine ⟨_, _, rfl, ?_⟩
      rw [UInt8.toNat_ofNat']
      omega
    · split
      · refine ⟨_, _, rfl, ?_⟩
        rw [UInt8.toNat_ofNat']
        omega
      · refine ⟨_, _, rfl, ?_⟩
        rw [UInt8.toNat_ofNat']
        omega

theorem toNat_toUInt8 {c : Char} (ascii : c.toNat < 128) : c.toUInt8.toNat = c.toNat := by
  rw [Char.toUInt8, UInt32.toNat_toUInt8]
  exact Nat.mod_eq_of_lt (Nat.lt_trans ascii (by decide))

theorem length_bytes_of_ascii {text : List Char} (ascii : ∀ c ∈ text, c.toNat < 128) :
    (bytes text).length = text.length := by
  induction text with
  | nil => rfl
  | cons c text ih =>
    have single : c.utf8Size = 1 := by
      rcases utf8EncodeChar_cases c with ⟨-, form⟩ | ⟨large, -⟩
      · rw [← String.length_utf8EncodeChar, form, List.length_singleton]
      · have := ascii c List.mem_cons_self
        omega
    rw [length_bytes_cons, single, ih fun d inside => ascii d (List.mem_cons_of_mem c inside),
      List.length_cons, Nat.add_comm]

/-- An ASCII character stands in front of a text if its code stands in front of the form. -/
theorem head?_bytes {mark : Char} (ascii : mark.toNat < 128) (text : List Char) :
    (bytes text).head? = some mark.toUInt8 ↔ text.head? = some mark := by
  cases text with
  | nil => simp [bytes]
  | cons c text =>
    rw [List.head?_cons, bytes, List.flatMap_cons]
    rcases utf8EncodeChar_cases c with ⟨small, form⟩ | ⟨large, byte, more, form, above⟩
    · rw [form, List.singleton_append, List.head?_cons, Option.some.injEq, Option.some.injEq]
      constructor
      · intro same
        have codes := congrArg UInt8.toNat same
        rw [toNat_toUInt8 small, toNat_toUInt8 ascii] at codes
        exact Char.toNat_inj.1 codes
      · intro same
        rw [same]
    · rw [form, List.cons_append, List.head?_cons, Option.some.injEq, Option.some.injEq]
      have code := toNat_toUInt8 ascii
      constructor
      · intro same
        rw [← same] at code
        omega
      · intro same
        rw [same] at large
        omega

end Text

open Text

theorem isDigitByte_iff (byte : UInt8) :
    isDigitByte byte = true ↔ '0'.toNat ≤ byte.toNat ∧ byte.toNat ≤ '9'.toNat := by
  rw [isDigitByte, Bool.and_eq_true, decide_eq_true_eq, decide_eq_true_eq, UInt8.le_iff_toNat_le,
    UInt8.le_iff_toNat_le]
  rfl

theorem lt_of_isDigit {c : Char} (digit : c.isDigit = true) : c.toNat < 128 :=
  Nat.lt_of_le_of_lt (Char.isDigit_iff_toNat.1 digit).2 (by decide)

/-- The first byte of a character is a digit when the character is one. -/
theorem isDigitByte_of_form {c : Char} {byte : UInt8} {more : List UInt8}
    (form : String.utf8EncodeChar c = byte :: more) : isDigitByte byte = c.isDigit := by
  rw [Bool.eq_iff_iff, isDigitByte_iff, Char.isDigit_iff_toNat]
  have nine : '9'.toNat = 57 := rfl
  rcases utf8EncodeChar_cases c with ⟨small, single⟩ | ⟨large, first, others, shape, above⟩
  · rw [single] at form
    rw [← (List.cons.inj form).1, toNat_toUInt8 small]
  · rw [shape] at form
    rw [← (List.cons.inj form).1]
    omega

/-- A run of digits has as many bytes as characters. -/
theorem length_takeWhile_bytes (text : List Char) :
    ((bytes text).takeWhile isDigitByte).length = (text.takeWhile Char.isDigit).length := by
  induction text with
  | nil => rfl
  | cons c text ih =>
    rcases utf8EncodeChar_cases c with ⟨-, form⟩ | ⟨large, byte, more, form, -⟩
    · rw [bytes, List.flatMap_cons, form, List.singleton_append, List.takeWhile_cons,
        List.takeWhile_cons, isDigitByte_of_form form]
      split
      · rw [List.length_cons, List.length_cons]
        exact congrArg (· + 1) ih
      · rfl
    · have other : c.isDigit = false := by
        by_contra digit
        have := lt_of_isDigit (Bool.not_eq_false _ ▸ digit)
        omega
      rw [bytes, List.flatMap_cons, form, List.cons_append, List.takeWhile_cons,
        List.takeWhile_cons, isDigitByte_of_form form, other]
      rfl

/-- Behind ASCII characters, the digits end where the first other character stands. -/
theorem digitsEnd_bytes {front digits rest : List Char} (ascii : ∀ c ∈ front, c.toNat < 128)
    (areDigits : ∀ c ∈ digits, c.isDigit = true) (ended : ∀ c ∈ rest.head?, c.isDigit = false) :
    digitsEnd (bytes (front ++ digits ++ rest)) front.length = (front ++ digits).length := by
  have stops : rest.takeWhile Char.isDigit = [] := by
    cases rest with
    | nil => rfl
    | cons c rest => rw [List.takeWhile_cons, ended c rfl, if_neg Bool.false_ne_true]
  rw [digitsEnd, List.append_assoc, bytes_append, List.drop_left' (length_bytes_of_ascii ascii),
    length_takeWhile_bytes, List.takeWhile_append_of_pos areDigits, stops, List.append_nil,
    List.length_append]

end TagScript
