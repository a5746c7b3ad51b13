import Mathlib.Data.List.Infix
import Mathlib.Data.Nat.Find
import TagScript.Proofs.Integers

/-!
# Leading literals

All arithmetic but addition takes a text for the decimal literal that it starts with. The grammar of
literals is written down part by part, and the reader of whole texts accepts exactly what it
describes (`isLiteral_iff`). A text that is no number as a whole is scanned as far as its leading
sign, digits and point reach (`LeadingDecimal`), and the scan is walked back until a number is left.
No decimal without an exponent reaches further than the scan, so the walk either ends at once or
finds nothing (`leadingNumber_longest`).

The scan knows no exponents. What a text stands for is therefore not always its longest literal;
`StandsFor` lists the cases and `numberPrefix_longest` says that they are all there are, one word
apart.
-/

namespace TagScript

open Decimal Text

/-- Digits with an optional point among or around them. There is at least one digit. -/
inductive IsMantissa : List Char → Prop
  | whole {digits : List Char} (present : digits ≠ [])
    (areDigits : ∀ c ∈ digits, c.isDigit = true) :
    IsMantissa digits
  | pointed {whole fraction : List Char} (present : whole ≠ [] ∨ fraction ≠ [])
    (areDigits : ∀ c ∈ whole, c.isDigit = true) (areDigits' : ∀ c ∈ fraction, c.isDigit = true) :
    IsMantissa (whole ++ '.' :: fraction)

/-- A letter, an optional sign and at least one digit. -/
inductive IsExponent : List Char → Prop
  | intro {mark : Char} {sign digits : List Char} (isMark : mark = 'e' ∨ mark = 'E')
    (isSign : IsSign sign) (present : digits ≠ []) (areDigits : ∀ c ∈ digits, c.isDigit = true) :
    IsExponent (mark :: (sign ++ digits))

/-- A decimal without an exponent. -/
inductive IsFixed : List Char → Prop
  | intro {sign mantissa : List Char} (isSign : IsSign sign) (isMantissa : IsMantissa mantissa) :
    IsFixed (sign ++ mantissa)

/-- A decimal with an optional exponent. -/
inductive IsLiteral : List Char → Prop
  | fixed {text : List Char} (isFixed : IsFixed text) : IsLiteral text
  | scaled {text exponent : List Char} (isFixed : IsFixed text) (isExponent : IsExponent exponent) :
    IsLiteral (text ++ exponent)

/-! ## What the reader of literals accepts -/

theorem exists_isSign (text : List Char) :
    ∃ sign, IsSign sign ∧ text = sign ++ (splitSign text).2 := by
  unfold splitSign
  split
  · exact ⟨['-'], .minus, rfl⟩
  · exact ⟨['+'], .plus, rfl⟩
  · exact ⟨[], .none, rfl⟩

theorem exists_isMantissa {text rest : List Char} {fixed : Fixed}
    (read : Fixed.read? text = some (fixed, rest)) :
    ∃ mantissa, IsMantissa mantissa ∧ text = mantissa ++ rest := by
  obtain ⟨parts, areDigits, -⟩ := splitDigits_parts text
  simp only [Fixed.read?] at read
  split at read
  · next afterPoint point =>
    obtain ⟨parts', areDigits', -⟩ := splitDigits_parts afterPoint
    split at read
    · cases read
    · next digits =>
      cases read
      refine ⟨_, .pointed (not_and_or.1 digits) areDigits areDigits', ?_⟩
      rw [List.append_assoc, List.cons_append, ← parts', ← point, ← parts]
  · split at read
    · cases read
    · next digits =>
      cases read
      refine ⟨_, .whole (fun none => digits ⟨none, rfl⟩) areDigits, parts⟩

theorem isExponent_of_finalExponent? {text : List Char} {exponent : Int}
    (read : finalExponent? text = some exponent) : text = [] ∨ IsExponent text := by
  cases text with
  | nil => exact .inl rfl
  | cons mark text =>
    simp only [finalExponent?] at read
    split at read
    · next accepted =>
      obtain ⟨isMark, digits, ended⟩ := accepted
      obtain ⟨sign, isSign, split⟩ := exists_isSign text
      obtain ⟨parts, areDigits, -⟩ := splitDigits_parts (splitSign text).2
      rw [ended, List.append_nil] at parts
      rw [split, parts]
      exact .inr (.intro isMark isSign digits areDigits)
    · cases read

/-- A mantissa does not start like a sign. -/
theorem IsMantissa.head? {mantissa : List Char} (isMantissa : IsMantissa mantissa)
    (rest : List Char) :
    (mantissa ++ rest).head? ≠ some '-' ∧ (mantissa ++ rest).head? ≠ some '+' := by
  cases isMantissa with
  | whole digits areDigits =>
    rw [List.head?_append_of_ne_nil _ digits]
    exact head?_of_areDigits areDigits
  | @pointed whole fraction _ areDigits _ =>
    cases whole with
    | nil => simp
    | cons c whole =>
      show (c :: whole).head? ≠ some '-' ∧ (c :: whole).head? ≠ some '+'
      exact head?_of_areDigits areDigits

theorem Fixed.exists_read? {mantissa rest : List Char} (isMantissa : IsMantissa mantissa)
    (ended : ∀ c ∈ rest.head?, c.isDigit = false ∧ c ≠ '.') :
    ∃ fixed, Fixed.read? (mantissa ++ rest) = some (fixed, rest) := by
  have stops : ∀ c ∈ rest.head?, c.isDigit = false := fun c first => (ended c first).1
  cases isMantissa with
  | whole digits areDigits =>
    simp only [Fixed.read?, splitDigits_append areDigits stops]
    split
    · exact absurd rfl (ended '.' rfl).2
    · exact ⟨_, if_neg fun none => digits none.1⟩
  | @pointed whole fraction digits areDigits areDigits' =>
    have point : ∀ c ∈ ('.' :: (fraction ++ rest)).head?, c.isDigit = false := by
      rintro c ⟨rfl⟩
      decide
    rw [List.append_assoc, List.cons_append]
    simp only [Fixed.read?, splitDigits_append areDigits point, splitDigits_append areDigits' stops]
    exact ⟨_, if_neg (not_and_or.2 digits)⟩

theorem exists_finalExponent? {exponent : List Char} (isExponent : IsExponent exponent) :
    ∃ n, finalExponent? exponent = some n := by
  cases isExponent with
  | @intro mark sign digits isMark isSign present areDigits =>
    have whole : splitDigits (digits ++ []) = (digits, []) :=
      splitDigits_append areDigits (by simp)
    rw [List.append_nil] at whole
    simp only [finalExponent?, splitSign_append isSign fun _ => head?_of_areDigits areDigits, whole]
    exact ⟨_, if_pos ⟨isMark, present, trivial⟩⟩

/-- An exponent goes on where the digits and the point of a decimal end. -/
theorem IsExponent.ended {exponent : List Char} (isExponent : IsExponent exponent) :
    ∀ c ∈ exponent.head?, c.isDigit = false ∧ c ≠ '.' := by
  cases isExponent with
  | intro isMark isSign present areDigits =>
    rintro c ⟨rfl⟩
    rcases isMark with rfl | rfl
    · decide
    · decide

/-- The reader accepts the texts that the grammar describes, and no others. -/
theorem isLiteral_iff {text : List Char} : IsLiteral text ↔ ∃ x, literal? text = some x := by
  constructor
  · have reads {sign mantissa rest : List Char} (isSign : IsSign sign)
        (isMantissa : IsMantissa mantissa) (ended : ∀ c ∈ rest.head?, c.isDigit = false ∧ c ≠ '.')
        {exponent : Int} (final : finalExponent? rest = some exponent) :
        ∃ x, literal? (sign ++ mantissa ++ rest) = some x := by
      obtain ⟨fixed, read⟩ := Fixed.exists_read? isMantissa ended
      rw [List.append_assoc]
      simp only [literal?, splitSign_append isSign fun _ => isMantissa.head? rest, read, final,
        Option.bind_eq_bind, Option.bind_some]
      exact ⟨_, rfl⟩
    intro isLiteral
    cases isLiteral with
    | fixed isFixed =>
      rcases isFixed with ⟨isSign, isMantissa⟩
      rw [← List.append_nil (_ ++ _)]
      exact reads isSign isMantissa (by simp) rfl
    | scaled isFixed isExponent =>
      rcases isFixed with ⟨isSign, isMantissa⟩
      obtain ⟨n, final⟩ := exists_finalExponent? isExponent
      exact reads isSign isMantissa isExponent.ended final
  · rintro ⟨x, read⟩
    obtain ⟨sign, isSign, split⟩ := exists_isSign text
    simp only [literal?, Option.bind_eq_bind, Option.bind_eq_some_iff] at read
    obtain ⟨⟨fixed, rest⟩, read, exponent, final, -⟩ := read
    obtain ⟨mantissa, isMantissa, parts⟩ := exists_isMantissa read
    rw [split, parts, ← List.append_assoc]
    rcases isExponent_of_finalExponent? final with rfl | isExponent
    · rw [List.append_nil]
      exact .fixed ⟨isSign, isMantissa⟩
    · exact .scaled ⟨isSign, isMantissa⟩ isExponent

/-! ## How far the leading digits reach -/

/-- Of two runs of digits at one place, the one that is not continued is the longer one. -/
theorem length_le_of_ended {digits rest other tail : List Char}
    (ended : ∀ c ∈ rest.head?, c.isDigit = false) (areDigits : ∀ c ∈ other, c.isDigit = true)
    (same : digits ++ rest = other ++ tail) : other.length ≤ digits.length := by
  rcases List.append_eq_append_iff.1 same with ⟨more, rfl, rfl⟩ | ⟨more, rfl, -⟩
  · cases more with
    | nil => simp
    | cons c more =>
      have digit := areDigits c (List.mem_append_right digits List.mem_cons_self)
      rw [ended c rfl] at digit
      cases digit
  · simp

/-- A text begins with this sign, if any, with these digits and, behind a point, with these ones.
The rest continues neither of them. -/
structure LeadingDecimal (text sign whole point fraction rest : List Char) : Prop where
  leads : LeadingInteger text sign whole (point ++ fraction ++ rest)
  isPoint : point = ['.'] ∨ point = [] ∧ fraction = [] ∧ rest.head? ≠ some '.'
  areDigits : ∀ c ∈ fraction, c.isDigit = true
  ended : ∀ c ∈ rest.head?, c.isDigit = false

theorem exists_leadingDecimal (text : List Char) :
    ∃ sign whole point fraction rest, LeadingDecimal text sign whole point fraction rest := by
  obtain ⟨sign, whole, rest, leads⟩ := exists_leadingInteger text
  by_cases pointed : rest.head? = some '.'
  · obtain ⟨more, rfl⟩ := List.head?_eq_some_iff.1 pointed
    obtain ⟨parts, areDigits, ended⟩ := splitDigits_parts more
    refine ⟨sign, whole, ['.'], _, _, ?_, .inl rfl, areDigits, ended⟩
    rwa [List.append_assoc, ← parts]
  · exact ⟨sign, whole, [], [], rest, leads, .inr ⟨rfl, rfl, pointed⟩, by simp, leads.ended⟩

namespace LeadingDecimal

variable {text sign whole point fraction rest : List Char}

theorem split (spans : LeadingDecimal text sign whole point fraction rest) :
    text = sign ++ whole ++ point ++ fraction ++ rest := by
  rw [spans.leads.split]
  simp only [List.append_assoc]

theorem lt (spans : LeadingDecimal text sign whole point fraction rest) :
    ∀ c ∈ sign ++ whole ++ point ++ fraction, c.toNat < 128 := by
  intro c inside
  simp only [List.mem_append] at inside
  rcases inside with (front | inside) | inside
  · exact spans.leads.lt c (List.mem_append.2 front)
  · rcases spans.isPoint with rfl | ⟨rfl, -⟩
    · rw [List.mem_singleton.1 inside]
      decide
    · cases inside
  · exact lt_of_isDigit (spans.areDigits c inside)

/-- The reader of bytes stops behind the point and its digits. -/
theorem fixedEnd_bytes (spans : LeadingDecimal text sign whole point fraction rest) :
    fixedEnd (bytes text) = (sign ++ whole ++ point ++ fraction).length := by
  have stop : integerEnd (bytes text) = (sign ++ whole).length := by
    rw [spans.leads.integerEnd_bytes, length_bytes_of_ascii spans.leads.lt]
  have pointed : (bytes text)[integerEnd (bytes text)]? = some '.'.toUInt8 ↔
      (point ++ fraction ++ rest).head? = some '.' := by
    rw [← head?_bytes (by decide), ← List.head?_drop, spans.leads.integerEnd_bytes,
      spans.leads.split, bytes_append (sign ++ whole), List.drop_left]
  simp only [fixedEnd]
  rcases spans.isPoint with rfl | ⟨rfl, rfl, unpointed⟩
  · have behind : integerEnd (bytes text) + 1 = (sign ++ whole ++ ['.']).length := by
      rw [stop, List.length_append, List.length_append, List.length_append, List.length_singleton]
    rw [if_pos (pointed.2 rfl), behind, spans.split]
    exact digitsEnd_bytes (fun c inside => spans.lt c (List.mem_append_left fraction inside))
      spans.areDigits spans.ended
  · rw [if_neg (mt pointed.1 unpointed), stop, List.append_nil, List.append_nil]

/-- With a digit in them, the sign, the digits and the point are a decimal. -/
theorem isFixed (spans : LeadingDecimal text sign whole point fraction rest)
    (digits : whole ≠ [] ∨ fraction ≠ []) : IsFixed (sign ++ whole ++ point ++ fraction) := by
  have areDigits := spans.leads.areDigits
  rw [List.append_assoc, List.append_assoc]
  apply IsFixed.intro spans.leads.isSign
  rcases spans.isPoint with rfl | ⟨rfl, rfl, -⟩
  · exact .pointed digits areDigits spans.areDigits
  · rw [List.append_nil, List.append_nil]
    exact .whole (digits.resolve_right fun absent => absent rfl) areDigits

/-- No decimal that the text begins with reaches further, and there is none without a digit. -/
theorem length_le (spans : LeadingDecimal text sign whole point fraction rest) {other : List Char}
    (isFixed : IsFixed other) (begins : other <+: text) :
    (whole ≠ [] ∨ fraction ≠ []) ∧
      other.length ≤ (sign ++ whole ++ point ++ fraction).length := by
  obtain ⟨tail, rfl⟩ := begins
  cases isFixed with
  | @intro sign' mantissa isSign isMantissa =>
    have unsigned : sign' = [] → (sign' ++ mantissa ++ tail).head? ≠ some '-' ∧
        (sign' ++ mantissa ++ tail).head? ≠ some '+' := by
      rintro rfl
      exact isMantissa.head? tail
    cases isMantissa with
    | whole present areDigits =>
      obtain ⟨parts, areDigits', ended⟩ := splitDigits_parts tail
      have leads : LeadingInteger (sign' ++ mantissa ++ tail) sign'
          (mantissa ++ (splitDigits tail).1) (splitDigits tail).2 := by
        refine ⟨?_, isSign, unsigned, ?_, ended⟩
        · rw [List.append_assoc, List.append_assoc, List.append_assoc, ← parts]
        · intro c inside
          exact (List.mem_append.1 inside).elim (areDigits c) (areDigits' c)
      obtain ⟨rfl, rfl, -⟩ := spans.leads.unique leads
      refine ⟨.inl (List.append_ne_nil_of_left_ne_nil present _), ?_⟩
      simp only [List.length_append]
      omega
    | @pointed whole' fraction' present areDigits areDigits' =>
      have leads : LeadingInteger (sign' ++ (whole' ++ '.' :: fraction') ++ tail) sign' whole'
          ('.' :: (fraction' ++ tail)) := by
        refine ⟨by simp, isSign, unsigned, areDigits, ?_⟩
        rintro c ⟨rfl⟩
        decide
      obtain ⟨rfl, rfl, behind⟩ := spans.leads.unique leads
      rcases spans.isPoint with rfl | ⟨rfl, rfl, unpointed⟩
      · have later : fraction ++ rest = fraction' ++ tail := (List.cons.inj behind).2
        have shorter := length_le_of_ended spans.ended areDigits' later
        constructor
        · apply present.imp_right
          intro digits absent
          rw [absent] at shorter
          exact digits (List.length_eq_zero_iff.1 (Nat.le_zero.1 shorter))
        · simp only [List.length_append, List.length_cons, List.length_nil]
          omega
      · exact absurd (congrArg List.head? behind) unpointed

/-- Cutting anywhere in front of the end of the digits is possible. -/
theorem cut?_take (spans : LeadingDecimal text sign whole point fraction rest) {size : Nat}
    (within : size ≤ (sign ++ whole ++ point ++ fraction).length) :
    cut? text size = some ((sign ++ whole ++ point ++ fraction).take size) := by
  have ascii : ∀ c ∈ (sign ++ whole ++ point ++ fraction).take size, c.toNat < 128 :=
    fun c inside => spans.lt c (List.mem_of_mem_take inside)
  have length : (bytes ((sign ++ whole ++ point ++ fraction).take size)).length = size := by
    rw [length_bytes_of_ascii ascii, List.length_take_of_le within]
  refine cut?_eq_some_iff.2
    ⟨(sign ++ whole ++ point ++ fraction).drop size ++ rest, ?_, length⟩
  rw [← List.append_assoc, List.take_append_drop, spans.split]

end LeadingDecimal

/-- Where there is a digit, the first attempt succeeds. -/
theorem LeadingDecimal.number?_leadingNumber {text sign whole point fraction rest : List Char}
    (spans : LeadingDecimal text sign whole point fraction rest)
    (digits : whole ≠ [] ∨ fraction ≠ []) :
    number? (sign ++ whole ++ point ++ fraction) = some (leadingNumber text) := by
  obtain ⟨x, read⟩ := isLiteral_iff.1 (.fixed (spans.isFixed digits))
  have accepted : number? (sign ++ whole ++ point ++ fraction) = some x := by
    rw [number?, read]
  have positive : sign ++ whole ++ point ++ fraction ≠ [] := by
    rcases digits with present | present
    · simp [present]
    · simp [present]
  obtain ⟨size, length⟩ := Nat.exists_eq_succ_of_ne_zero (mt List.length_eq_zero_iff.1 positive)
  have cut := spans.cut?_take (Nat.le_refl _)
  rw [List.take_length, length] at cut
  rw [leadingNumber, spans.fixedEnd_bytes, length, numberWithin, cut, Option.bind_some,
    accepted]

/-- Without a digit there is a sign and a point at most, and walking back finds nothing. -/
theorem LeadingDecimal.leadingNumber_eq_zero {text sign point rest : List Char}
    (spans : LeadingDecimal text sign [] point [] rest) : leadingNumber text = 0 := by
  have nothing : ∀ front ∈ (sign ++ [] ++ point ++ []).inits, number? front = none := by
    have isSign := spans.leads.isSign
    rcases spans.isPoint with rfl | ⟨rfl, -, -⟩
    · cases isSign <;> decide +kernel
    · cases isSign <;> decide +kernel
  have walk (size : Nat) (within : size ≤ (sign ++ [] ++ point ++ []).length) :
      numberWithin text size = 0 := by
    induction size with
    | zero => rfl
    | succ size ih =>
      have front := (List.mem_inits _ _).2 (List.take_prefix (size + 1) (sign ++ [] ++ point ++ []))
      rw [numberWithin, spans.cut?_take within, Option.bind_some, nothing _ front]
      exact ih (Nat.le_of_succ_le within)
  rw [leadingNumber, spans.fixedEnd_bytes]
  exact walk _ (Nat.le_refl _)

/-! ## The number of a text -/

/-- Among the beginnings of a text with a property, none is longer than this one. -/
structure IsLongest (p : List Char → Prop) (text front : List Char) : Prop where
  begins : front <+: text
  holds : p front
  longest : ∀ other, other <+: text → p other → other.length ≤ front.length

theorem exists_longest {p : List Char → Prop} {text front : List Char} (begins : front <+: text)
    (holds : p front) : ∃ longest, IsLongest p text longest := by
  classical
  let holdsAt (size : Nat) : Prop := p (text.take size)
  have within : front.length ≤ text.length := begins.length_le
  have here : holdsAt front.length := by
    show p (text.take front.length)
    rwa [← List.prefix_iff_eq_take.1 begins]
  refine ⟨text.take (Nat.findGreatest holdsAt text.length), List.take_prefix _ _,
    Nat.findGreatest_spec within here, fun other begins' holds' => ?_⟩
  have there : holdsAt other.length := by
    show p (text.take other.length)
    rwa [← List.prefix_iff_eq_take.1 begins']
  rw [List.length_take_of_le (Nat.findGreatest_le _)]
  exact Nat.le_findGreatest begins'.length_le there

/-- The number of the leading digits is that of the longest decimal without an exponent. -/
theorem leadingNumber_longest (text : List Char) :
    (∃ front, IsLongest IsFixed text front ∧ number? front = some (leadingNumber text)) ∨
      (∀ front, front <+: text → ¬IsFixed front) ∧ leadingNumber text = 0 := by
  obtain ⟨sign, whole, point, fraction, rest, spans⟩ := exists_leadingDecimal text
  by_cases digits : whole ≠ [] ∨ fraction ≠ []
  · refine .inl ⟨_, ⟨?_, spans.isFixed digits, fun other begins isFixed => ?_⟩,
      spans.number?_leadingNumber digits⟩
    · exact ⟨rest, spans.split.symm⟩
    · exact (spans.length_le isFixed begins).2
  · refine .inr ⟨fun front begins isFixed => digits (spans.length_le isFixed begins).1, ?_⟩
    obtain ⟨rfl, rfl⟩ : whole = [] ∧ fraction = [] := by
      rwa [not_or, not_ne_iff, not_ne_iff] at digits
    exact spans.leadingNumber_eq_zero

/-- The word `nan`, in capital or small letters, behind a sign. -/
inductive IsSignedNan : List Char → Prop
  | intro {sign word : List Char} (isSign : IsSign sign) (signed : sign ≠ [])
    (isWord : word.map Char.toLower = ['n', 'a', 'n']) : IsSignedNan (sign ++ word)

theorem IsSignedNan.mem {text : List Char} (isSignedNan : IsSignedNan text) :
    'n' ∈ text.map Char.toLower := by
  rcases isSignedNan with ⟨isSign, signed, isWord⟩
  rw [List.map_append, isWord]
  exact List.mem_append_right _ List.mem_cons_self

/-- The only letter in a literal is that of its exponent. -/
theorem IsLiteral.letter {text : List Char} (isLiteral : IsLiteral text) :
    ∀ c ∈ text, c.isAlpha = true → c = 'e' ∨ c = 'E' := by
  have digits {c : Char} (digit : c.isDigit = true) : ¬c.isAlpha = true := by
    intro letter
    have low : c.toNat ≤ 57 := (Char.isDigit_iff_toNat.1 digit).2
    have high := (range_of_isAlpha letter).1
    omega
  have signs {sign : List Char} (isSign : IsSign sign) : ∀ c ∈ sign, ¬c.isAlpha = true := by
    cases isSign <;> simp
  have fixed {text : List Char} (isFixed : IsFixed text) : ∀ c ∈ text, ¬c.isAlpha = true := by
    rcases isFixed with ⟨isSign, isMantissa⟩
    intro c inside
    rcases List.mem_append.1 inside with inside | inside
    · exact signs isSign c inside
    · cases isMantissa with
      | whole present areDigits => exact digits (areDigits c inside)
      | pointed present areDigits areDigits' =>
        rcases List.mem_append.1 inside with inside | inside
        · exact digits (areDigits c inside)
        · rcases List.mem_cons.1 inside with rfl | inside
          · decide
          · exact digits (areDigits' c inside)
  intro c inside letter
  cases isLiteral with
  | fixed isFixed => exact absurd letter (fixed isFixed c inside)
  | scaled isFixed isExponent =>
    rcases isExponent with ⟨isMark, isSign, present, areDigits⟩
    rcases List.mem_append.1 inside with inside | inside
    · exact absurd letter (fixed isFixed c inside)
    · rcases List.mem_cons.1 inside with rfl | inside
      · exact isMark
      · rcases List.mem_append.1 inside with inside | inside
        · exact absurd letter (signs isSign c inside)
        · exact absurd letter (digits (areDigits c inside))

/-- A word with an `n` is no literal. -/
theorem IsLiteral.not_mem {text : List Char} (isLiteral : IsLiteral text) :
    'n' ∉ text.map Char.toLower := by
  intro inside
  obtain ⟨c, inside, lower⟩ := List.mem_map.1 inside
  have letter : c.isAlpha = true := by
    apply isAlpha_of_toLower
    rw [lower]
    decide
  rcases isLiteral.letter c inside letter with rfl | rfl
  · exact absurd lower (by decide)
  · exact absurd lower (by decide)

theorem mem_of_mentions {word text : List Char} {c : Char} (inside : c ∈ word)
    (mentioned : mentions word text = true) : c ∈ text := by
  induction text with
  | nil =>
    rw [mentions, List.isEmpty_iff] at mentioned
    rw [mentioned] at inside
    cases inside
  | cons d text ih =>
    rw [mentions, Bool.or_eq_true, List.isPrefixOf_iff_prefix] at mentioned
    rcases mentioned with here | later
    · exact here.subset inside
    · exact List.mem_cons_of_mem d (ih later)

/-- A text that is a literal from end to end is read as such. -/
theorem trimmedNumber_of_isLiteral {text : List Char} (isLiteral : IsLiteral text) :
    number? text = some (trimmedNumber text) := by
  obtain ⟨x, read⟩ := isLiteral_iff.1 isLiteral
  have accepted : number? text = some x := by rw [number?, read]
  have plain : ¬(text.map Char.toLower = ['n', 'a', 'n'] ∨
      mentions ['i', 'n', 'f'] (text.map Char.toLower) = true) := by
    rintro (word | mentioned)
    · exact isLiteral.not_mem (word ▸ List.mem_cons_self)
    · exact isLiteral.not_mem (mem_of_mentions (by decide) mentioned)
  simp only [trimmedNumber, accepted, if_neg plain]

theorem literal?_eq_none {text : List Char} (noLiteral : ¬IsLiteral text) :
    literal? text = none := by
  cases read : literal? text with
  | none => rfl
  | some x => exact absurd (isLiteral_iff.2 ⟨x, read⟩) noLiteral

/-- The signed word is taken for no number at all. -/
theorem isNaN_of_isSignedNan {text : List Char} (isSignedNan : IsSignedNan text) :
    (trimmedNumber text).isNaN = true := by
  have noLiteral : literal? text = none :=
    literal?_eq_none fun isLiteral => isLiteral.not_mem isSignedNan.mem
  rcases isSignedNan with @⟨sign, word, isSign, signed, isWord⟩
  have lower : (sign ++ word).map Char.toLower = sign.map Char.toLower ++ ['n', 'a', 'n'] := by
    rw [List.map_append, isWord]
  have split : splitSign (sign ++ word) = (decide (sign = ['-']), word) :=
    splitSign_append isSign fun absent => absurd absent signed
  have isNaN : word? word = some (0 / 0) := by
    simp only [word?, isWord]
    rfl
  simp only [trimmedNumber, number?, noLiteral, split, isNaN, lower]
  cases isSign with
  | none => exact absurd rfl signed
  | minus =>
    show (-(0 / 0 : Float)).isNaN = true
    decide +kernel
  | plus =>
    show (0 / 0 : Float).isNaN = true
    decide +kernel

/-- All other words count as text without digits. -/
theorem trimmedNumber_eq_leadingNumber {text : List Char} (noLiteral : ¬IsLiteral text)
    (noNan : ¬IsSignedNan text) : trimmedNumber text = leadingNumber text := by
  obtain ⟨sign, isSign, parts⟩ := exists_isSign text
  have lower : text.map Char.toLower =
      sign.map Char.toLower ++ (splitSign text).2.map Char.toLower := by
    rw [← List.map_append, ← parts]
  simp only [trimmedNumber, number?, literal?_eq_none noLiteral, word?, lower]
  by_cases infinite : (splitSign text).2.map Char.toLower = ['i', 'n', 'f'] ∨
      (splitSign text).2.map Char.toLower = ['i', 'n', 'f', 'i', 'n', 'i', 't', 'y']
  · have mentioned : mentions ['i', 'n', 'f']
        (sign.map Char.toLower ++ (splitSign text).2.map Char.toLower) = true := by
      rcases infinite with word | word
      · rw [word]
        cases isSign <;> decide
      · rw [word]
        cases isSign <;> decide
    simp only [if_pos infinite, Option.map_some, mentioned, or_true, if_true]
  · by_cases nan : (splitSign text).2.map Char.toLower = ['n', 'a', 'n']
    · have unsigned : sign = [] := by
        by_contra signed
        exact noNan (parts ▸ .intro isSign signed nan)
      simp only [unsigned, nan]
      rfl
    · simp only [if_neg infinite, if_neg nan, Option.map_none]

/-- The number that a text without outer blanks stands for, by what it begins with. -/
inductive StandsFor (text : List Char) (x : Float) : Prop
  /-- It begins with no literal. -/
  | nothing (none : ∀ front, front <+: text → ¬IsLiteral front) (zero : x = 0)
  /-- The longest literal has no exponent, or there is nothing behind it. -/
  | longest {front : List Char} (isLongest : IsLongest IsLiteral text front)
    (ends : IsFixed front ∨ front = text) (value : number? front = some x)
  /-- The longest literal has an exponent and something behind it. Then the exponent is text. -/
  | curtailed {front fixed : List Char} (isLongest : IsLongest IsLiteral text front)
    (scaled : ¬IsFixed front) (continued : front ≠ text) (isLongest' : IsLongest IsFixed text fixed)
    (value : number? fixed = some x)

theorem standsFor_leadingNumber {text : List Char} (noLiteral : ¬IsLiteral text) :
    StandsFor text (leadingNumber text) := by
  rcases leadingNumber_longest text with ⟨fixed, longest, read⟩ | ⟨none, zero⟩
  · obtain ⟨front, isLongest⟩ := exists_longest longest.begins (IsLiteral.fixed longest.holds)
    by_cases isFixed : IsFixed front
    · -- Both are the longest decimal without an exponent, hence the same.
      have lengths : front.length = fixed.length :=
        Nat.le_antisymm (longest.longest front isLongest.begins isFixed)
          (isLongest.longest fixed longest.begins (.fixed longest.holds))
      have same : front = fixed := by
        rw [List.prefix_iff_eq_take.1 isLongest.begins, lengths,
          ← List.prefix_iff_eq_take.1 longest.begins]
      exact .longest isLongest (.inl isFixed) (same ▸ read)
    · exact .curtailed isLongest isFixed (fun whole => noLiteral (whole ▸ isLongest.holds)) longest
        read
  · refine .nothing (fun front begins isLiteral => ?_) zero
    cases isLiteral with
    | fixed isFixed => exact none front begins isFixed
    | scaled isFixed isExponent => exact none _ ((List.prefix_append _ _).trans begins) isFixed

/-- A text is read as the number of the longest literal that it begins with, between blanks, and as
zero when it begins with none. There are two exceptions. An exponent counts only at the very end of
the text, and the signed word for no number is taken for one. -/
theorem numberPrefix_longest (text : String) :
    (IsSignedNan (trimBlanks text.toList) → (numberPrefix text).isNaN = true) ∧
      (¬IsSignedNan (trimBlanks text.toList) →
        StandsFor (trimBlanks text.toList) (numberPrefix text)) := by
  refine ⟨isNaN_of_isSignedNan, fun noNan => ?_⟩
  rw [numberPrefix]
  by_cases isLiteral : IsLiteral (trimBlanks text.toList)
  · exact .longest ⟨List.prefix_rfl, isLiteral, fun other begins _ => begins.length_le⟩ (.inr rfl)
      (trimmedNumber_of_isLiteral isLiteral)
  · rw [trimmedNumber_eq_leadingNumber isLiteral noNan]
    exact standsFor_leadingNumber isLiteral

/-- A literal is read up to a letter behind it, and a signed word is no number. -/
theorem numberPrefix_longest_of_two :
    ¬IsSignedNan (trimBlanks " -12.5 kg ".toList) ∧
      StandsFor (trimBlanks " -12.5 kg ".toList) (numberPrefix " -12.5 kg ") ∧
      IsSignedNan (trimBlanks "+NaN ".toList) ∧ (numberPrefix "+NaN ").isNaN = true := by
  have noNan : ¬IsSignedNan (trimBlanks " -12.5 kg ".toList) := by
    intro isSignedNan
    exact absurd isSignedNan.mem (by decide +kernel)
  have isSignedNan : IsSignedNan (trimBlanks "+NaN ".toList) := by
    have trimmed : trimBlanks "+NaN ".toList = ['+'] ++ ['N', 'a', 'N'] := by decide +kernel
    rw [trimmed]
    exact .intro .plus (by decide) (by decide)
  exact ⟨noNan, (numberPrefix_longest " -12.5 kg ").2 noNan, isSignedNan,
    (numberPrefix_longest "+NaN ").1 isSignedNan⟩

/-- In front of a letter the exponent of the longest literal is lost. A signed word is no number,
though it begins with no literal. -/
theorem misreads_exponent_and_word :
    IsLongest IsLiteral (trimBlanks "1e5x".toList) ['1', 'e', '5'] ∧
      number? ['1', 'e', '5'] = some 100000 ∧ numberPrefix "1e5x" = 1 ∧
      (∀ front, front <+: trimBlanks "-nan".toList → ¬IsLiteral front) ∧
      numberPrefix "-nan" ≠ 0 := by
  have trimmed : trimBlanks "1e5x".toList = ['1', 'e', '5', 'x'] := by decide +kernel
  have read : number? ['1', 'e', '5'] = some 100000 := by decide +kernel
  have isLiteral : IsLiteral ['1', 'e', '5'] := isLiteral_iff.2 ⟨100000, by decide +kernel⟩
  have longest : ∀ front ∈ ['1', 'e', '5', 'x'].inits,
      (literal? front).isSome → front.length ≤ 3 := by
    decide +kernel
  have word : ∀ front ∈ (trimBlanks "-nan".toList).inits, literal? front = none := by
    decide +kernel
  refine ⟨⟨?_, isLiteral, fun other begins isLiteral => ?_⟩, read, by decide +kernel,
    fun front begins isLiteral => ?_, by decide +kernel⟩
  · rw [trimmed]
    exact ⟨['x'], rfl⟩
  · obtain ⟨x, found⟩ := isLiteral_iff.1 isLiteral
    rw [trimmed] at begins
    exact longest other ((List.mem_inits _ _).2 begins) (found ▸ rfl)
  · obtain ⟨x, found⟩ := isLiteral_iff.1 isLiteral
    rw [word front ((List.mem_inits _ _).2 begins)] at found
    cases found

end TagScript
