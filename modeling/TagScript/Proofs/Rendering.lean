import TagScript.Json.Read
import TagScript.Proofs.Numerals

/-!
# Reading what was rendered

The text of a JSON value reads back as that value (`Json.IsPlain.read?_render`), for values whose
numbers are integers. Every statement has the rest of the text behind what is read, so that the
parts of a value can be put together: an item is read in front of a comma, a line break or the end.
-/

namespace TagScript.Json

/-- A value that is rendered without loss: its numbers are integers, and no string in it has half a
character. -/
inductive IsPlain : Json → Prop
  | null : IsPlain null
  | bool (b : Bool) : IsPlain (bool b)
  | int (n : Int) : IsPlain (int n)
  | string (content : String) : IsPlain (string content)
  | array {items : List Json} (parts : ∀ item ∈ items, item.IsPlain) : IsPlain (array items)
  | object {members : List (String × Json)} (parts : ∀ member ∈ members, member.2.IsPlain) :
    IsPlain (object members)

mutual

/-- How deeply lists and objects are nested. -/
def depth : Json → Nat
  | array items => depthOfItems items + 1
  | object members => depthOfMembers members + 1
  | unpaired | null | bool _ | number _ | string _ => 0

/-- The largest depth of some items. -/
def depthOfItems : List Json → Nat
  | [] => 0
  | item :: items => max item.depth (depthOfItems items)

/-- The largest depth of the values of some members. -/
def depthOfMembers : List (String × Json) → Nat
  | [] => 0
  | (_, value) :: members => max value.depth (depthOfMembers members)

end

theorem depth_le_depthOfItems {item : Json} {items : List Json} (inside : item ∈ items) :
    item.depth ≤ depthOfItems items := by
  induction items with
  | nil => contradiction
  | cons first items ih =>
    rw [depthOfItems]
    rcases List.mem_cons.1 inside with rfl | later
    · exact Nat.le_max_left _ _
    · exact Nat.le_trans (ih later) (Nat.le_max_right _ _)

theorem depth_le_depthOfMembers {member : String × Json} {members : List (String × Json)}
    (inside : member ∈ members) : member.2.depth ≤ depthOfMembers members := by
  induction members with
  | nil => contradiction
  | cons first members ih =>
    rw [depthOfMembers]
    rcases List.mem_cons.1 inside with rfl | later
    · exact Nat.le_max_left _ _
    · exact Nat.le_trans (ih later) (Nat.le_max_right _ _)

/-! ## Blanks -/

/-- A text whose first character is neither blank nor a closing bracket. -/
def Opens (text : List Char) : Prop :=
  ∃ c rest, text = c :: rest ∧ isBlank c = false ∧ c ≠ ']' ∧ c ≠ '\x7d'

theorem opens_cons {c : Char} {rest : List Char}
    (visible : isBlank c = false ∧ c ≠ ']' ∧ c ≠ '\x7d') : Opens (c :: rest) :=
  ⟨c, rest, rfl, visible⟩

theorem dropBlanks_cons {c : Char} (visible : isBlank c = false) (rest : List Char) :
    dropBlanks (c :: rest) = c :: rest := by
  simp [dropBlanks, visible]

theorem Opens.dropBlanks_eq {text : List Char} (opens : Opens text) : dropBlanks text = text := by
  obtain ⟨c, rest, rfl, visible, -⟩ := opens
  exact dropBlanks_cons visible rest

/-- A line break and its indentation are skipped. -/
theorem dropBlanks_putLine (level : Nat) (tail : List Char) :
    dropBlanks (putLine level tail) = dropBlanks tail := by
  have blanks : ∀ c ∈ '\n' :: List.replicate (2 * level) ' ', isBlank c = true := by
    intro c inside
    rcases List.mem_cons.1 inside with rfl | indented
    · decide
    · rw [List.eq_of_mem_replicate indented]
      decide
  show (('\n' :: List.replicate (2 * level) ' ') ++ tail).dropWhile isBlank = _
  rw [List.dropWhile_append_of_pos blanks, dropBlanks]

theorem length_lt_putLine (level : Nat) (tail : List Char) :
    tail.length < (putLine level tail).length := by
  simp only [putLine, List.length_cons, List.length_append]
  omega

/-! ## Strings -/

/-- A control character is escaped with four digits, of which the first two are zero. -/
theorem padded_hexadecimal {n : Nat} (control : n < 0x20) :
    Decimal.zeros (4 - (Text.hexadecimal n).length) ++ Text.hexadecimal n =
      ['0', '0', Nat.digitChar (n / 16), Nat.digitChar (n % 16)] := by
  revert n
  decide

theorem hexDigit?_digitChar {d : Nat} (small : d < 16) : hexDigit? (Nat.digitChar d) = some d := by
  revert d
  decide

/-- Four digits are read as the number that they were written for. -/
theorem escape?_control {c : Char} (control : c.toNat < 0x20) (rest : List Char) :
    escape? ('u' :: '0' :: '0' :: Nat.digitChar (c.toNat / 16) :: Nat.digitChar (c.toNat % 16) ::
      rest) = some (some c, 5) := by
  have high : hexDigit? (Nat.digitChar (c.toNat / 16)) = some (c.toNat / 16) :=
    hexDigit?_digitChar (by omega)
  have low : hexDigit? (Nat.digitChar (c.toNat % 16)) = some (c.toNat % 16) :=
    hexDigit?_digitChar (by omega)
  have zero : hexDigit? '0' = some 0 := by decide
  have number : 16 * (c.toNat / 16) + c.toNat % 16 = c.toNat := by omega
  have whole : c.toNat < 0xd800 ∨ 0xdfff < c.toNat := by omega
  simp [escape?, unicodeEscape?, hexQuad?, high, low, zero, number, whole]

/-- An escape stands for one character, and reading goes on behind it. -/
theorem readCharacters?_backslash {text : List Char} {c : Option Char} {length : Nat}
    (escaped : escape? text = some (c, length)) :
    readCharacters? ('\\' :: text) =
      (readCharacters? (text.drop length)).map fun (content, last) => (c :: content, last) := by
  rw [readCharacters?, if_neg (by decide), if_pos rfl, escaped, Option.map_eq_bind]
  rfl

theorem readCharacters?_letter {letter c : Char}
    (escaped : ∀ rest, escape? (letter :: rest) = some (some c, 1)) (rest : List Char) :
    readCharacters? (['\\', letter] ++ rest) =
      (readCharacters? rest).map fun (content, last) => (some c :: content, last) :=
  readCharacters?_backslash (escaped rest)

/-- A character is read back as itself, and reading goes on behind it. -/
theorem readCharacters?_escape (c : Char) (rest : List Char) :
    readCharacters? (escape c ++ rest) =
      (readCharacters? rest).map fun (content, last) => (some c :: content, last) := by
  unfold escape
  split_ifs with quote backslash backspace feed line carriage tab control
  · subst quote
    exact readCharacters?_letter (fun _ => rfl) rest
  · subst backslash
    exact readCharacters?_letter (fun _ => rfl) rest
  · subst backspace
    exact readCharacters?_letter (fun _ => rfl) rest
  · subst feed
    exact readCharacters?_letter (fun _ => rfl) rest
  · subst line
    exact readCharacters?_letter (fun _ => rfl) rest
  · subst carriage
    exact readCharacters?_letter (fun _ => rfl) rest
  · subst tab
    exact readCharacters?_letter (fun _ => rfl) rest
  · show readCharacters? ((['\\', 'u'] ++ Decimal.zeros _ ++ Text.hexadecimal c.toNat) ++ rest) = _
    rw [List.append_assoc ['\\', 'u'], padded_hexadecimal control]
    exact readCharacters?_backslash (escape?_control control rest)
  · rw [List.singleton_append, readCharacters?, if_neg quote, if_neg backslash, if_neg control,
      Option.map_eq_bind]
    rfl

theorem readCharacters?_flatMap (content tail : List Char) :
    readCharacters? (content.flatMap escape ++ '"' :: tail) = some (content.map some, tail) := by
  induction content with
  | nil => rw [List.flatMap_nil, List.nil_append, readCharacters?, if_pos rfl, List.map_nil]
  | cons c content ih =>
    rw [List.flatMap_cons, List.append_assoc, readCharacters?_escape, ih]
    rfl

/-- A string is read back whatever characters it has. -/
theorem readString?_flatMap (content : String) (tail : List Char) :
    readString? (content.toList.flatMap escape ++ '"' :: tail) = some (some content, tail) := by
  have whole (characters : List Char) : (characters.map some).mapM id = some characters := by
    induction characters with
    | nil => rfl
    | cons c characters ih => rw [List.map_cons, List.mapM_cons, ih]; rfl
  rw [readString?, readCharacters?_flatMap]
  show some (((content.toList.map some).mapM id).map String.ofList, tail) = _
  rw [whole, Option.map_some, String.ofList_toList]

/-! ## Numbers -/

/-- A text that does not go on with a number. -/
def Ended (text : List Char) : Prop :=
  ∀ c ∈ text.head?, c.isDigit = false ∧ c ≠ '.' ∧ c ≠ 'e' ∧ c ≠ 'E'

theorem ended_nil : Ended [] :=
  fun _ given => by cases given

theorem ended_cons {c : Char} {tail : List Char}
    (foreign : c.isDigit = false ∧ c ≠ '.' ∧ c ≠ 'e' ∧ c ≠ 'E') : Ended (c :: tail) := by
  intro d given
  cases given
  exact foreign

theorem ended_putLine (level : Nat) (tail : List Char) : Ended (putLine level tail) :=
  ended_cons (by decide)

/-- A part of a number that is not there. -/
theorem readDigitsAfter?_none {isMark : Char → Bool} {signed : Bool} {text : List Char}
    (missing : ∀ c ∈ text.head?, isMark c = false) :
    readDigitsAfter? isMark signed text = some ([], text) := by
  cases text with
  | nil => rfl
  | cons c text => simp [readDigitsAfter?, missing c rfl]

theorem Ended.readFraction {tail : List Char} (ended : Ended tail) :
    readDigitsAfter? (· = '.') false tail = some ([], tail) :=
  readDigitsAfter?_none fun c given => by simp [(ended c given).2.1]

theorem Ended.readExponent {tail : List Char} (ended : Ended tail) :
    readDigitsAfter? (fun c => c = 'e' || c = 'E') true tail = some ([], tail) :=
  readDigitsAfter?_none fun c given => by simp [(ended c given).2.2]

/-- The digits of a number have no needless zero. -/
theorem isWhole_toDigits (n : Nat) :
    ¬(Nat.toDigits 10 n = [] ∨
      ((Nat.toDigits 10 n).head? = some '0' ∧ Nat.toDigits 10 n ≠ ['0'])) := by
  rintro (empty | ⟨leading, several⟩)
  · exact Nat.toDigits_ne_nil empty
  · by_cases zero : n = 0
    · exact several (zero ▸ toDigits_zero)
    · exact head?_toDigits (Nat.pos_of_ne_zero zero) leading

/-- An integer is read as it was written. -/
theorem readNumber?_toString (n : Int) {tail : List Char} (ended : Ended tail) :
    readNumber? ((toString n).toList ++ tail) = some ((toString n).toList, tail) := by
  have digits (n : Nat) := Decimal.span_toDigits n fun c given => (ended c given).1
  cases n with
  | ofNat n =>
    rw [Int.ofNat_eq_natCast, toList_toString_natCast]
    unfold readNumber?
    split
    next sign rest signed =>
    split at signed
    · next rest' same =>
      obtain ⟨c, others, starts, isDigit⟩ := Decimal.toDigits_append n tail
      cases same.symm.trans starts
      contradiction
    · cases signed
      simp only [digits, if_neg (isWhole_toDigits n), ended.readFraction, Option.bind_eq_bind,
        Option.bind_some, ended.readExponent, List.nil_append, List.append_nil, Option.pure_def]
  | negSucc n =>
    rw [toList_toString_negSucc]
    simp only [readNumber?, List.cons_append, digits, if_neg (isWhole_toDigits (n + 1)),
      ended.readFraction, Option.bind_eq_bind, Option.bind_some, ended.readExponent,
      List.nil_append, List.append_nil, Option.pure_def]

/-! ## Lists and objects -/

section Lists

variable {α β : Type} {item? : List Char → Option (β × List Char)}
  {write : α → List Char → List Char} {f : α → β}

/-- In front of any text that can follow it, a written item is read back. -/
structure Undoes (item? : List Char → Option (β × List Char)) (write : List Char → List Char)
    (value : β) : Prop where
  opens : ∀ tail, Opens (write tail)
  grows : ∀ tail, tail.length ≤ (write tail).length
  reads : ∀ tail, Ended tail → item? (write tail) = some (value, tail)

/-- Items after the first are read back up to the closing mark. -/
theorem readUntil?_write {close : Char} (visible : isBlank close = false) (notComma : ',' ≠ close)
    (inner outer : Nat) (tail : List Char) (items : List α) (first : α)
    (each : ∀ a ∈ first :: items, Undoes item? (write a) (f a)) :
    readUntil? item? close (write first (items.foldr
      (fun a rest => ',' :: putLine inner (write a rest)) (putLine outer (close :: tail)))) =
      some ((first :: items).map f, tail) := by
  induction items generalizing first with
  | nil =>
    have undoes := each first List.mem_cons_self
    rw [List.foldr_nil, readUntil?, undoes.reads _ (ended_putLine _ _)]
    simp only [dropBlanks_putLine, dropBlanks_cons visible, if_pos, List.map_cons, List.map_nil]
  | cons second items ih =>
    have undoes := each first List.mem_cons_self
    have later := each second (List.mem_cons_of_mem _ List.mem_cons_self)
    have others := ih second fun a inside => each a (List.mem_cons_of_mem _ inside)
    generalize rest : items.foldr (fun a rest => ',' :: putLine inner (write a rest))
      (putLine outer (close :: tail)) = behind at others
    have shorter : (write second behind).length <
        (write first (',' :: putLine inner (write second behind))).length := by
      have grows := undoes.grows (',' :: putLine inner (write second behind))
      have line := length_lt_putLine inner (write second behind)
      rw [List.length_cons] at grows
      omega
    rw [List.foldr_cons, rest, readUntil?, undoes.reads _ (ended_cons (by decide))]
    simp only [dropBlanks_cons (c := ',') (by decide), dropBlanks_putLine,
      (later.opens behind).dropBlanks_eq, if_neg notComma, true_and, if_pos shorter, others]
    rfl

/-- A list of items, each on a line of its own, is read back. -/
theorem readList?_write {close : Char} (closes : close = ']' ∨ close = '\x7d') (inner outer : Nat)
    (tail : List Char) (items : List α) (first : α)
    (each : ∀ a ∈ first :: items, Undoes item? (write a) (f a)) :
    readList? item? close (putLine inner (write first (items.foldr
      (fun a rest => ',' :: putLine inner (write a rest)) (putLine outer (close :: tail))))) =
      some ((first :: items).map f, tail) := by
  have mark : isBlank close = false ∧ ',' ≠ close := by
    rcases closes with rfl | rfl <;> decide
  have whole := readUntil?_write mark.1 mark.2 inner outer tail items first each
  obtain ⟨c, rest, starts, visible, other⟩ := (each first List.mem_cons_self).opens (items.foldr
    (fun a rest => ',' :: putLine inner (write a rest)) (putLine outer (close :: tail)))
  have notClose : c ≠ close := by
    rcases closes with rfl | rfl
    · exact other.1
    · exact other.2
  rw [starts] at whole ⊢
  simp only [readList?, dropBlanks_putLine, dropBlanks_cons visible, if_neg notClose, whole]

end Lists

/-- A member in front of a text. -/
def putMember (level : Nat) (member : String × Json) (tail : List Char) : List Char :=
  putString member.1 (':' :: ' ' :: member.2.put level tail)

theorem putItems_eq_foldr (level : Nat) (items : List Json) (tail : List Char) :
    putItems level items tail =
      items.foldr (fun item rest => ',' :: putLine level (item.put level rest)) tail := by
  induction items with
  | nil => rw [putItems, List.foldr_nil]
  | cons item items ih => rw [putItems, ih, List.foldr_cons]

theorem putMembers_eq_foldr (level : Nat) (members : List (String × Json)) (tail : List Char) :
    putMembers level members tail = members.foldr
      (fun member rest => ',' :: putLine level (putMember level member rest)) tail := by
  induction members with
  | nil => rw [putMembers, List.foldr_nil]
  | cons member members ih => rw [putMembers, ih, List.foldr_cons, putMember]

/-! ## Values -/

theorem length_lt_putString (content : String) (tail : List Char) :
    tail.length < (putString content tail).length := by
  simp only [putString, List.cons_append, List.length_cons, List.length_append]
  omega

mutual

/-- A text has more characters than the value at its front has levels. -/
theorem depth_add_length_le : ∀ (json : Json) (level : Nat) (tail : List Char),
    json.depth + tail.length ≤ (json.put level tail).length
  | unpaired, _, _ | null, _, _ | bool true, _, _ | bool false, _, _ => by
    simp only [depth, put, List.length_cons]
    omega
  | number literal, _, tail => by
    simp only [depth, put, List.length_append]
    omega
  | string content, _, tail => by
    have grows := length_lt_putString content tail
    simp only [depth, put]
    omega
  | array [], _, _ | object [], _, _ => by
    simp only [depth, depthOfItems, depthOfMembers, put, List.length_cons]
    omega
  | array (item :: items), level, tail => by
    have last := length_lt_putLine level (']' :: tail)
    have others := depthOfItems_add_length_le items (level + 1) (putLine level (']' :: tail))
    have first := depth_add_length_le item (level + 1)
      (putItems (level + 1) items (putLine level (']' :: tail)))
    have line := length_lt_putLine (level + 1) (item.put (level + 1)
      (putItems (level + 1) items (putLine level (']' :: tail))))
    simp only [depth, depthOfItems, put, List.length_cons] at last ⊢
    omega
  | object ((name, value) :: members), level, tail => by
    have last := length_lt_putLine level ('\x7d' :: tail)
    have others := depthOfMembers_add_length_le members (level + 1)
      (putLine level ('\x7d' :: tail))
    have first := depth_add_length_le value (level + 1)
      (putMembers (level + 1) members (putLine level ('\x7d' :: tail)))
    have key := length_lt_putString name (':' :: ' ' :: value.put (level + 1)
      (putMembers (level + 1) members (putLine level ('\x7d' :: tail))))
    have line := length_lt_putLine (level + 1) (putString name (':' :: ' ' ::
      value.put (level + 1) (putMembers (level + 1) members (putLine level ('\x7d' :: tail)))))
    simp only [depth, depthOfMembers, put, List.length_cons] at last key ⊢
    omega

theorem depthOfItems_add_length_le : ∀ (items : List Json) (level : Nat) (tail : List Char),
    depthOfItems items + tail.length ≤ (putItems level items tail).length
  | [], _, _ => by simp only [depthOfItems, putItems, Nat.zero_add, Nat.le_refl]
  | item :: items, level, tail => by
    have others := depthOfItems_add_length_le items level tail
    have first := depth_add_length_le item level (putItems level items tail)
    have line := length_lt_putLine level (item.put level (putItems level items tail))
    simp only [depthOfItems, putItems, List.length_cons]
    omega

theorem depthOfMembers_add_length_le :
    ∀ (members : List (String × Json)) (level : Nat) (tail : List Char),
      depthOfMembers members + tail.length ≤ (putMembers level members tail).length
  | [], _, _ => by simp only [depthOfMembers, putMembers, Nat.zero_add, Nat.le_refl]
  | (name, value) :: members, level, tail => by
    have others := depthOfMembers_add_length_le members level tail
    have first := depth_add_length_le value level (putMembers level members tail)
    have key := length_lt_putString name (':' :: ' ' ::
      value.put level (putMembers level members tail))
    have line := length_lt_putLine level (putString name (':' :: ' ' ::
      value.put level (putMembers level members tail)))
    simp only [depthOfMembers, putMembers, List.length_cons] at key ⊢
    omega

end

/-- A numeral starts with a minus sign or a digit. -/
theorem toString_append (n : Int) (tail : List Char) :
    ∃ c rest, (toString n).toList ++ tail = c :: rest ∧ (c = '-' ∨ c.isDigit = true) := by
  cases n with
  | ofNat n =>
    rw [Int.ofNat_eq_natCast, toList_toString_natCast]
    obtain ⟨c, rest, starts, isDigit⟩ := Decimal.toDigits_append n tail
    exact ⟨c, rest, starts, Or.inr isDigit⟩
  | negSucc n =>
    rw [toList_toString_negSucc]
    exact ⟨'-', _, rfl, Or.inl rfl⟩

theorem toString_append_ne (n : Int) (tail : List Char) {d : Char}
    (foreign : d ≠ '-' ∧ d.isDigit = false) (rest : List Char) :
    (toString n).toList ++ tail ≠ d :: rest := by
  intro same
  obtain ⟨c, others, starts, first⟩ := toString_append n tail
  cases starts.symm.trans same
  rcases first with minus | isDigit
  · exact foreign.1 minus
  · rw [foreign.2] at isDigit
    contradiction

theorem opens_toString (n : Int) (tail : List Char) : Opens ((toString n).toList ++ tail) := by
  obtain ⟨c, rest, starts, -⟩ := toString_append n tail
  have distinct (d : Char) (foreign : d ≠ '-' ∧ d.isDigit = false) : c ≠ d := by
    rintro rfl
    exact toString_append_ne n tail foreign rest starts
  rw [starts]
  apply opens_cons
  simp [isBlank, distinct]

/-- The text of a value starts with the value, not with a blank. -/
theorem IsPlain.opens_put {json : Json} (plain : json.IsPlain) (level : Nat) (tail : List Char) :
    Opens (json.put level tail) := by
  cases plain with
  | null => exact opens_cons (by decide)
  | bool b => cases b <;> exact opens_cons (by decide)
  | int n => exact opens_toString n tail
  | string content => exact opens_cons (by decide)
  | @array items parts =>
    cases items with
    | nil => exact opens_cons (by decide)
    | cons item items =>
      rw [put]
      exact opens_cons (by decide)
  | @object members parts =>
    cases members with
    | nil => exact opens_cons (by decide)
    | cons member members =>
      rw [put]
      exact opens_cons (by decide)

/-- A value that starts like a number is read as one. -/
theorem readValue?_toString (levels : Nat) (n : Int) {tail : List Char} (ended : Ended tail) :
    readValue? levels ((toString n).toList ++ tail) = some (int n, tail) := by
  have read : (readNumber? ((toString n).toList ++ tail)).map
      (fun read => (number (.ofList read.1), read.2)) = some (int n, tail) := by
    rw [readNumber?_toString n ended, Option.map_some]
    show some (number (.ofList (toString n).toList), tail) = _
    rw [String.ofList_toList, int]
  -- Neither a word nor a string, a list or an object starts like a number.
  have other (d : Char) (foreign : d ≠ '-' ∧ d.isDigit = false) (rest : List Char)
      (same : (toString n).toList ++ tail = d :: rest) : False :=
    toString_append_ne n tail foreign rest same
  rw [readValue?]
  · exact read
  · exact fun _ => other 'n' (by decide) _
  · exact fun _ => other 't' (by decide) _
  · exact fun _ => other 'f' (by decide) _
  · exact fun _ => other '"' (by decide) _
  · exact fun _ _ _ => other '[' (by decide) _
  · exact fun _ _ _ => other '\x7b' (by decide) _

/-- A member is read back in front of any text that can follow its value. -/
theorem Undoes.member {value? : List Char → Option (Json × List Char)} {level : Nat}
    {member : String × Json} (undoes : Undoes value? (member.2.put level) member.2) :
    Undoes (readMember? value?) (putMember level member) (some member.1, member.2) where
  opens tail := opens_cons (by decide)
  grows tail := by
    have value := undoes.grows tail
    have key := length_lt_putString member.1 (':' :: ' ' :: member.2.put level tail)
    simp only [putMember, List.length_cons] at key ⊢
    omega
  reads tail ended := by
    have blank : dropBlanks (' ' :: member.2.put level tail) = member.2.put level tail :=
      (undoes.opens tail).dropBlanks_eq
    show readMember? value? ('"' :: (member.1.toList.flatMap escape ++ '"' :: _)) = _
    rw [readMember?, readString?_flatMap]
    simp only [Option.bind_eq_bind, Option.bind_some, dropBlanks_cons (c := ':') (by decide), blank,
      undoes.reads tail ended, Option.pure_def]

theorem ofMembers_some (members : List (String × Json)) :
    ofMembers (members.map fun member => (some member.1, member.2)) = object members := by
  have names : (members.map fun member => (some member.1, member.2)).mapM named? =
      some members := by
    induction members with
    | nil => rfl
    | cons member members ih => rw [List.map_cons, List.mapM_cons, ih]; rfl
  rw [ofMembers, names, Option.elim_some]

theorem IsPlain.undoes {json : Json} (plain : json.IsPlain) {level : Nat}
    {value? : List Char → Option (Json × List Char)}
    (reads : ∀ tail, Ended tail → value? (json.put level tail) = some (json, tail)) :
    Undoes value? (json.put level) json where
  opens := plain.opens_put level
  grows tail := Nat.le_trans (Nat.le_add_left _ _) (depth_add_length_le json level tail)
  reads := reads

/-- A value of no more levels than allowed is read back in front of any text that can follow it. -/
theorem IsPlain.readValue?_put {json : Json} (plain : json.IsPlain) {levels : Nat}
    (fits : json.depth ≤ levels) (level : Nat) {tail : List Char} (ended : Ended tail) :
    readValue? levels (json.put level tail) = some (json, tail) := by
  -- Inside a list or an object the items have one level less, and so has the reader.
  induction plain generalizing levels level tail with
  | null => rw [put, readValue?]
  | bool b => cases b <;> rw [put, readValue?]
  | int n => exact readValue?_toString levels n ended
  | string content =>
    rw [put, putString, List.cons_append, readValue?, readString?_flatMap]
    rfl
  | @array items parts ih =>
    rw [depth] at fits
    obtain ⟨levels, rfl⟩ := Nat.exists_eq_add_of_lt fits
    cases items with
    | nil => rfl
    | cons item items =>
      have each : ∀ a ∈ item :: items,
          Undoes (readValue? (depthOfItems (item :: items) + levels)) (a.put (level + 1)) a := by
        intro a inside
        have deep := depth_le_depthOfItems inside
        exact (parts a inside).undoes fun tail ended => ih a inside (by omega) _ ended
      rw [put, readValue?, putItems_eq_foldr,
        readList?_write (f := id) (Or.inl rfl) _ _ _ items item each, List.map_id]
      rfl
  | @object members parts ih =>
    rw [depth] at fits
    obtain ⟨levels, rfl⟩ := Nat.exists_eq_add_of_lt fits
    cases members with
    | nil => rfl
    | cons member members =>
      have each : ∀ a ∈ member :: members,
          Undoes (readMember? (readValue? (depthOfMembers (member :: members) + levels)))
            (putMember (level + 1) a) (some a.1, a.2) := by
        intro a inside
        have deep := depth_le_depthOfMembers inside
        exact ((parts a inside).undoes fun tail ended => ih a inside (by omega) _ ended).member
      have list := readList?_write (Or.inr rfl) (level + 1) level tail members member each
      rw [put, readValue?, putMembers_eq_foldr]
      show (readList? _ _ (putLine _ (putMember (level + 1) member _))).map _ = _
      rw [list, Option.map_some]
      show some (ofMembers _, tail) = _
      rw [ofMembers_some]

/-- Rendered values are read back. -/
theorem IsPlain.read?_render {json : Json} (plain : json.IsPlain) :
    read? json.render = some json := by
  have opens := plain.opens_put 0 []
  have enough := depth_add_length_le json 0 []
  rw [read?, render, String.toList_ofList, opens.dropBlanks_eq,
    plain.readValue?_put enough 0 ended_nil]
  rfl

end TagScript.Json
