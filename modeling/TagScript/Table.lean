import TagScript.Table.Entries

/-!
# Tables

Finite maps from texts to values. The entries of a table ascend, so two tables that look up the same
values are equal (`Table.ext_get?`).
-/

namespace TagScript

/-- A finite map from texts. -/
structure Table (α : Type) where
  entries : Entries α
  ascending : entries.Ascending

namespace Table

variable {α : Type}

/-- The table without entries. -/
def empty : Table α :=
  ⟨[], List.Pairwise.nil⟩

instance : EmptyCollection (Table α) := ⟨empty⟩

instance : Inhabited (Table α) := ⟨empty⟩

/-- The value of a key. -/
def get? (table : Table α) (key : String) : Option α :=
  table.entries.get? key

/-- Whether a key has a value. -/
def contains (table : Table α) (key : String) : Bool :=
  (table.get? key).isSome

/-- Sets the value of a key. -/
def insert (table : Table α) (key : String) (value : α) : Table α :=
  ⟨table.entries.insert key value, table.ascending.insert key value⟩

/-- Forgets a key. -/
def erase (table : Table α) (key : String) : Table α :=
  ⟨table.entries.erase key, table.ascending.erase key⟩

/-- The number of keys. -/
def size (table : Table α) : Nat :=
  table.entries.length

/-- The values, in the order of their keys. -/
def values (table : Table α) : List α :=
  table.entries.map Prod.snd

@[simp]
theorem get?_empty (key : String) : (∅ : Table α).get? key = none := rfl

/-- Setting a key changes what is looked up under it and nothing else. -/
theorem get?_insert (table : Table α) (key other : String) (value : α) :
    (table.insert key value).get? other = if key = other then some value else table.get? other :=
  Entries.get?_insert table.entries key other value

/-- Forgetting a key leaves every other key as it was. -/
theorem get?_erase (table : Table α) (key other : String) :
    (table.erase key).get? other = if key = other then none else table.get? other :=
  Entries.get?_erase table.entries key other

/-- Tables with the same look-ups are equal. -/
theorem ext_get? {first second : Table α} (same : ∀ key, first.get? key = second.get? key) :
    first = second := by
  cases first
  cases second
  simp only [mk.injEq]
  exact Entries.Ascending.ext ‹_› ‹_› same

/-- Removing a key that is not there changes nothing. -/
theorem erase_of_none {table : Table α} {key : String} (missing : table.get? key = none) :
    table.erase key = table := by
  apply ext_get?
  intro other
  rw [get?_erase]
  split
  · next same => rw [← same, missing]
  · rfl

end Table

end TagScript
