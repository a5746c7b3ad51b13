/-!
# Ordered entries

Lists of keys with values, as an array of the language holds them. Insertion places a new key before
the first larger one, so entries that start out ascending stay ascending. The look-up laws hold for
every list, ascending or not; `ascending_insert` and `ascending_erase` say that order is kept.
-/

namespace TagScript

/-- Keys with their values. -/
abbrev Entries (α : Type) := List (String × α)

namespace Entries

variable {α : Type}

/-- The value of the first entry with this key. -/
def get? : Entries α → String → Option α
  | [], _ => none
  | (k, value) :: rest, key => if k = key then some value else get? rest key

/-- Gives the first entry with this key a new value. -/
def replace (key : String) (value : α) : Entries α → Entries α
  | [] => []
  | (k, old) :: rest => if k = key then (key, value) :: rest else (k, old) :: replace key value rest

/-- Adds an entry before the first larger key. -/
def place (key : String) (value : α) : Entries α → Entries α
  | [] => [(key, value)]
  | (k, old) :: rest =>
    if key < k then (key, value) :: (k, old) :: rest else (k, old) :: place key value rest

/-- Sets the value of a key, adding an entry when there is none. -/
def insert (entries : Entries α) (key : String) (value : α) : Entries α :=
  if (entries.get? key).isSome then entries.replace key value else entries.place key value

/-- Removes every entry with this key. -/
def erase (entries : Entries α) (key : String) : Entries α :=
  entries.filter fun entry => entry.1 ≠ key

/-- Keys ascend strictly, in the order of their code points. -/
def Ascending (entries : Entries α) : Prop :=
  (entries.map Prod.fst).Pairwise (· < ·)

theorem get?_replace (entries : Entries α) (key other : String) (value : α)
    (present : (entries.get? key).isSome) :
    (entries.replace key value).get? other =
      if key = other then some value else entries.get? other := by
  induction entries with
  | nil => simp [get?] at present
  | cons entry rest ih => grind [get?, replace]

theorem get?_place (entries : Entries α) (key other : String) (value : α)
    (absent : entries.get? key = none) :
    (entries.place key value).get? other =
      if key = other then some value else entries.get? other := by
  induction entries with
  | nil => simp [place, get?]
  | cons entry rest ih => grind [get?, place]

/-- Insertion changes the value of its own key only. -/
theorem get?_insert (entries : Entries α) (key other : String) (value : α) :
    (entries.insert key value).get? other =
      if key = other then some value else entries.get? other := by
  unfold insert
  split
  · next present => exact get?_replace entries key other value present
  · next absent => exact get?_place entries key other value (Option.not_isSome_iff_eq_none.1 absent)

/-- Removal forgets its own key only. -/
theorem get?_erase (entries : Entries α) (key other : String) :
    (entries.erase key).get? other = if key = other then none else entries.get? other := by
  unfold erase
  induction entries with
  | nil => simp [get?]
  | cons entry rest ih => grind [get?]

theorem map_fst_replace (entries : Entries α) (key : String) (value : α) :
    (entries.replace key value).map Prod.fst = entries.map Prod.fst := by
  induction entries with
  | nil => rfl
  | cons entry rest ih => grind [replace]

/-- A key has an entry exactly when it can be looked up. -/
theorem get?_eq_none_iff (entries : Entries α) (key : String) :
    entries.get? key = none ↔ key ∉ entries.map Prod.fst := by
  induction entries with
  | nil => simp [get?]
  | cons entry rest ih => grind [get?]

theorem mem_map_fst_place (entries : Entries α) (key other : String) (value : α) :
    other ∈ (entries.place key value).map Prod.fst ↔
      other = key ∨ other ∈ entries.map Prod.fst := by
  induction entries with
  | nil => simp [place]
  | cons entry rest ih => grind [place]

theorem Ascending.place {entries : Entries α} (ascending : entries.Ascending) {key : String}
    (value : α) (absent : entries.get? key = none) : (entries.place key value).Ascending := by
  induction entries with
  | nil => simp [Entries.place, Ascending]
  | cons entry rest ih =>
    have below := List.pairwise_cons.1 ascending
    rw [get?_eq_none_iff] at absent
    have apart : entry.1 ≠ key ∧ get? rest key = none := by
      rw [get?_eq_none_iff]
      grind
    unfold Entries.place
    split
    · next smaller =>
      refine List.pairwise_cons.2 ⟨?_, ascending⟩
      grind
    · next larger =>
      refine List.pairwise_cons.2 ⟨fun other member => ?_, ih below.2 apart.2⟩
      rw [mem_map_fst_place] at member
      grind

/-- Insertion keeps ascending entries ascending. -/
theorem Ascending.insert {entries : Entries α} (ascending : entries.Ascending) (key : String)
    (value : α) : (entries.insert key value).Ascending := by
  unfold Entries.insert
  split
  · rwa [Ascending, map_fst_replace]
  · next absent => exact ascending.place value (Option.not_isSome_iff_eq_none.1 absent)

/-- Removal keeps ascending entries ascending. -/
theorem Ascending.erase {entries : Entries α} (ascending : entries.Ascending) (key : String) :
    (entries.erase key).Ascending :=
  ascending.sublist (List.filter_sublist.map _)

/-- Ascending entries are determined by what they look up. -/
theorem Ascending.ext {first second : Entries α} (ascending₁ : first.Ascending)
    (ascending₂ : second.Ascending) (same : ∀ key, first.get? key = second.get? key) :
    first = second := by
  induction first generalizing second with
  | nil =>
    cases second with
    | nil => rfl
    | cons entry rest => have := same entry.1; simp [get?] at this
  | cons entry₁ rest₁ ih =>
    cases second with
    | nil => have := same entry₁.1; simp [get?] at this
    | cons entry₂ rest₂ =>
      have below₁ := List.pairwise_cons.1 ascending₁
      have below₂ := List.pairwise_cons.1 ascending₂
      have missing₁ : ∀ key, ¬ entry₁.1 < key → get? rest₁ key = none := fun key h =>
        (get?_eq_none_iff rest₁ key).2 fun member => h (below₁.1 key member)
      have missing₂ : ∀ key, ¬ entry₂.1 < key → get? rest₂ key = none := fun key h =>
        (get?_eq_none_iff rest₂ key).2 fun member => h (below₂.1 key member)
      have keys : entry₁.1 = entry₂.1 := by
        have at₁ := same entry₁.1
        have at₂ := same entry₂.1
        have := missing₁ entry₂.1
        have := missing₂ entry₁.1
        grind [get?]
      have values : entry₁.2 = entry₂.2 := by
        have := same entry₁.1
        grind [get?]
      rw [Prod.ext keys values, ih below₁.2 below₂.2 fun key => ?_]
      have := same key
      have := missing₁ key
      have := missing₂ key
      grind [get?]

end Entries

end TagScript
