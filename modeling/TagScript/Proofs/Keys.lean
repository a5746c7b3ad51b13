import TagScript.State

/-!
# Storage keys determine variables

A variable is stored under its scope, the sign `#` and its name; an attribute is stored under the
name of its slot. Names of variables are computed by scripts and may contain anything, but the names
of scopes and attributes never contain the sign. That is enough for a key to determine what it
belongs to: the scope of a variable ends at the first sign, and the key of an attribute has none.
-/

namespace TagScript

/-- A name without the sign that ends the scope in a storage key. -/
def Plain (name : String) : Prop :=
  '#' ∉ name.toList

instance : DecidablePred Plain := fun name =>
  inferInstanceAs (Decidable ('#' ∉ name.toList))

/-- The names under which the global scope keeps attributes. -/
def IsSlot (name : String) : Prop :=
  ∃ handle member, Plain member ∧ name = attributeSlot handle member

theorem toList_variableKey (scope name : String) :
    (variableKey scope name).toList = scope.toList ++ '#' :: name.toList := by
  simp [variableKey, toString]

theorem toList_attributeSlot (handle : Handle) (name : String) :
    (attributeSlot handle name).toList =
      Nat.toDigits 10 handle ++ ':' :: ':' :: name.toList := by
  simp [attributeSlot, toString]

theorem not_mem_toDigits {c : Char} (foreign : c.isDigit = false) (n : Nat) :
    c ∉ Nat.toDigits 10 n := by
  intro inside
  have digit := Nat.isDigit_of_mem_toDigits (n := n) (b := 10) (by decide) (by decide) inside
  rw [foreign] at digit
  contradiction

theorem toDigits_inj {m n : Nat} (same : Nat.toDigits 10 m = Nat.toDigits 10 n) : m = n := by
  have back := congrArg (fun digits => Nat.ofDigitChars 10 digits 0) same
  simpa only [Nat.ofDigitChars_ten_toDigits] using back

/-- What stands before the first occurrence of a sign is determined, and so is the rest. -/
theorem append_sign_inj {sign : Char} {front₁ front₂ rest₁ rest₂ : List Char}
    (absent₁ : sign ∉ front₁) (absent₂ : sign ∉ front₂)
    (same : front₁ ++ sign :: rest₁ = front₂ ++ sign :: rest₂) :
    front₁ = front₂ ∧ rest₁ = rest₂ := by
  have before {front rest : List Char} (absent : sign ∉ front) :
      (front ++ sign :: rest).takeWhile (· ≠ sign) = front := by
    rw [List.takeWhile_append_of_pos]
    · simp
    · intro c member
      have : c ≠ sign := fun equal => absent (equal ▸ member)
      simpa using this
  have fronts : front₁ = front₂ := by
    have := congrArg (List.takeWhile (· ≠ sign)) same
    rwa [before absent₁, before absent₂] at this
  subst fronts
  exact ⟨rfl, by simpa using same⟩

/-- The name of a scope is what stands before the first sign of a key. -/
theorem variableKey_inj {scope₁ scope₂ name₁ name₂ : String} (plain₁ : Plain scope₁)
    (plain₂ : Plain scope₂) (same : variableKey scope₁ name₁ = variableKey scope₂ name₂) :
    scope₁ = scope₂ ∧ name₁ = name₂ := by
  have lists := congrArg String.toList same
  rw [toList_variableKey, toList_variableKey] at lists
  obtain ⟨scopes, names⟩ := append_sign_inj plain₁ plain₂ lists
  exact ⟨String.toList_inj.1 scopes, String.toList_inj.1 names⟩

/-- The handle of an object is what stands before the first colon of a slot. -/
theorem attributeSlot_inj {handle₁ handle₂ : Handle} {name₁ name₂ : String}
    (same : attributeSlot handle₁ name₁ = attributeSlot handle₂ name₂) :
    handle₁ = handle₂ ∧ name₁ = name₂ := by
  have lists := congrArg String.toList same
  rw [toList_attributeSlot, toList_attributeSlot] at lists
  obtain ⟨digits, names⟩ := append_sign_inj (not_mem_toDigits (by decide) handle₁)
    (not_mem_toDigits (by decide) handle₂) lists
  exact ⟨toDigits_inj digits, String.toList_inj.1 (List.cons.inj names).2⟩

theorem IsSlot.plain {name : String} (slot : IsSlot name) : Plain name := by
  obtain ⟨handle, member, plain, rfl⟩ := slot
  unfold Plain at plain ⊢
  rw [toList_attributeSlot]
  have noSign := not_mem_toDigits (c := '#') (by decide) handle
  simp [noSign, plain]

/-- The key of an attribute is never that of a variable. -/
theorem IsSlot.ne_variableKey {slot : String} (isSlot : IsSlot slot) (scope name : String) :
    slot ≠ variableKey scope name := by
  rintro rfl
  refine isSlot.plain ?_
  rw [toList_variableKey]
  simp

/-- Names put together from plain ones are plain. -/
theorem plain_append {first second : String} (plain₁ : Plain first) (plain₂ : Plain second) :
    Plain (first ++ second) := by
  unfold Plain at *
  simp [plain₁, plain₂]

end TagScript
