import TagScript.Value.Arithmetic
import TagScript.Value.Cells

/-!
# Equality of values

Scripts compare values by what they show. `Value.shown` puts the text of every scalar in its place,
at any depth, and two values are equal exactly when that gives the same (`Value.same_iff`). Nothing
is asked of the texts, so the law covers numbers that differ from themselves as well as numbers of
two kinds with one text. Array keys are texts too, and equality therefore decides which scalars
address the same cell.
-/

namespace TagScript

namespace Value

mutual

/-- A value with every scalar in it replaced by its text. -/
def shown : Value → Value
  | scalar s => text s.toText
  | array cells => array (shownCells cells)
  | object handle => object handle

/-- The cells of an array with every scalar in them replaced by its text. -/
def shownCells : List (String × Value) → List (String × Value)
  | [] => []
  | (key, value) :: rest => (key, value.shown) :: shownCells rest

end

mutual

/-- Equal values are those that show the same. -/
theorem same_iff : ∀ a b : Value, a.same b = true ↔ a.shown = b.shown
  | scalar s, scalar t => by simp [same, shown, text]
  | array cells, array others => by simpa [same, shown] using sameCells_iff cells others
  | object handle, object other => by simp [same, shown]
  | scalar _, array _ | array _, scalar _ => by simp [same, shown, text]
  | scalar _, object _ | object _, scalar _ => by simp [same, shown, text]
  | array _, object _ | object _, array _ => by simp [same, shown]

theorem sameCells_iff : ∀ cells others : List (String × Value),
    sameCells cells others = true ↔ shownCells cells = shownCells others
  | [], [] => by simp [sameCells]
  | (key, value) :: rest, (other, value') :: rest' => by
    have first := same_iff value value'
    have others := sameCells_iff rest rest'
    simp [sameCells, shownCells, first, others]
  | [], _ :: _ | _ :: _, [] => by simp [sameCells, shownCells]

end

/-- Only the kinds that show nothing but themselves are refused as keys. -/
theorem key_shown (a : Value) : a.shown.key = a.key := by
  cases a with
  | scalar s => rfl
  | array cells => rfl
  | object handle => rfl

theorem key_eq_of_same {a b : Value} (equal : a.same b = true) : a.key = b.key := by
  rw [← key_shown a, (same_iff a b).1 equal, key_shown b]

/-- A key is the whole of what a scalar shows. -/
theorem shown_of_key {a : Value} {key : String} (converts : a.key = .ok key) :
    a.shown = text key := by
  cases a with
  | scalar s =>
    cases converts
    rfl
  | array cells => cases converts
  | object handle => cases converts

end Value

namespace Cells

/-- One key reads what another one wrote, whatever the array and the value are, only if they are the
same. -/
theorem read_write_iff (key other : String) :
    (∀ (name : String) (cells : Cells) (value : Value),
      read name [] (write cells [key] value).1 [other] = .ok value) ↔ key = other := by
  constructor
  · intro reads
    by_cases equal : key = other
    · exact equal
    · -- An empty array has nothing but what was written.
      have found := reads "" [] (.text "0")
      simp [write, read, get?, insert, Entries.get?_insert, equal, Entries.get?, Value.empty,
        Value.text] at found
  · rintro rfl name cells value
    simp [write, read, get?, insert, Entries.get?_insert]

end Cells

/-- The equality that scripts test is an equivalence on all values, it is always decided, and equal
values are those that show the same. They are the same key, or both are refused with the same fault.
Two values that are keys are equal exactly when each addresses the cell of the other in every
array. -/
theorem Value.equivalence_same :
    Equivalence (fun a b : Value => a.same b = true) ∧
      (∀ a b : Value, Comparison.equal.apply a b = .ok (.bool (a.same b)) ∧
        (a.same b = true ↔ a.shown = b.shown)) ∧
      (∀ a b : Value, a.same b = true →
        (∃ key, a.key = .ok key ∧ b.key = .ok key) ∨
          ∃ fault, a.key = .error fault ∧ b.key = .error fault) ∧
      ∀ (a b : Value) (key other : String), a.key = .ok key → b.key = .ok other →
        (a.same b = true ↔ ∀ (name : String) (cells : Cells) (value : Value),
          Cells.read name [] (Cells.write cells [key] value).1 [other] = .ok value) := by
  refine ⟨⟨fun a => ?_, fun equal => ?_, fun first second => ?_⟩,
    fun a b => ⟨rfl, same_iff a b⟩, fun a b equal => ?_, fun a b key other converts converts' => ?_⟩
  · exact (same_iff a a).2 rfl
  · exact (same_iff _ _).2 ((same_iff _ _).1 equal).symm
  · exact (same_iff _ _).2 (((same_iff _ _).1 first).trans ((same_iff _ _).1 second))
  · have keys := key_eq_of_same equal
    cases converts : a.key with
    | ok key => exact .inl ⟨key, rfl, keys ▸ converts⟩
    | error fault => exact .inr ⟨fault, rfl, keys ▸ converts⟩
  · rw [same_iff, shown_of_key converts, shown_of_key converts', Cells.read_write_iff]
    simp [text]

/-- What is no number is equal to itself in a script, also inside of an array. The integer one and
the float one are the same key, and each addresses the cell of the other. -/
theorem Value.equivalence_same_of_numbers :
    (array [("x", float (0 / 0))]).same (array [("x", float (0 / 0))]) = true ∧
      (int 1).same (float 1) = true ∧ (int 1).key = .ok "1" ∧ (float 1).key = .ok "1" ∧
      ∀ (name : String) (cells : Cells) (value : Value),
        Cells.read name [] (Cells.write cells ["1"] value).1 ["1"] = .ok value := by
  have equal : (int 1).same (float 1) = true := by decide +kernel
  have whole : (int 1).key = .ok "1" := congrArg Except.ok (by decide +kernel)
  have decimal : (float 1).key = .ok "1" := congrArg Except.ok (by decide +kernel)
  exact ⟨equivalence_same.1.refl _, equal, whole, decimal,
    (equivalence_same.2.2.2 (int 1) (float 1) "1" "1" whole decimal).1 equal⟩

end TagScript
