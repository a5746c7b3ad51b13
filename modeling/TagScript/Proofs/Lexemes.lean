import Mathlib.Data.List.TakeWhile
import TagScript.Token.Scan

/-!
# Lexemes

How far a lexeme reaches and which piece it stands for. `Piece.InScript` lists the pieces that a
script is made of, with their spelling, and `Lexeme.ofScript_ofScript` finds one of them, a close
tag or nothing at the front of a script. A scan goes from lexeme to lexeme, and
`Token.scanFrom_induction` turns what holds of each lexeme into what holds of all tokens
(`Token.forall_scanFrom`).
-/

namespace TagScript

namespace Lexeme

theorem run_le (p : Char → Bool) (text : List Char) : run p text ≤ text.length :=
  (List.takeWhile_prefix p).length_le

/-- The leading characters of a class, as many as there are. -/
theorem take_run (p : Char → Bool) (text : List Char) : text.take (run p text) = text.takeWhile p :=
  (List.prefix_iff_eq_take.1 (List.takeWhile_prefix p)).symm

theorem run_pos {p : Char → Bool} {c : Char} (starts : p c) (rest : List Char) :
    0 < run p (c :: rest) := by
  rw [run, List.takeWhile_cons_of_pos starts]
  exact Nat.zero_lt_succ _

/-- A run ends where a character of another class follows. -/
theorem run_append {p : Char → Bool} {front rest : List Char} (each : ∀ c ∈ front, p c)
    (stops : ∀ c ∈ rest.head?, p c = false) : run p (front ++ rest) = front.length := by
  have nothing : rest.takeWhile p = [] := by
    cases rest with
    | nil => rfl
    | cons c rest => rw [List.takeWhile_cons_of_neg (Bool.eq_false_iff.1 (stops c rfl))]
  rw [run, List.takeWhile_append_of_pos each, nothing, List.append_nil]

theorem run_append_cons {p : Char → Bool} {front : List Char} {c : Char}
    (each : ∀ d ∈ front, p d) (stops : p c = false) (rest : List Char) :
    run p (front ++ c :: rest) = front.length := by
  apply run_append each
  rintro _ ⟨⟩
  exact stops

theorem count_add (text : List Char) (before passed : Nat) :
    inlineLength.count text (before + passed) = before + inlineLength.count text passed := by
  fun_induction inlineLength.count text passed with
  | case1 => rfl
  | case2 => rfl
  | case3 c rest passed notTag ih =>
    rw [inlineLength.count.eq_3 _ c rest notTag, ← ih, Nat.add_assoc]

/-- A tag opens at the front of the text. -/
def Opens (text : List Char) : Prop :=
  ∃ rest, text = '<' :: '?' :: rest

theorem inlineLength_of_opens {text : List Char} (opens : Opens text) : inlineLength text = 0 := by
  rcases opens with ⟨rest, rfl⟩
  rfl

theorem inlineLength_cons {c : Char} {rest : List Char} (notTag : ¬ Opens (c :: rest)) :
    inlineLength (c :: rest) = inlineLength rest + 1 := by
  rw [inlineLength, inlineLength.count.eq_3 0 c rest fun tail first second =>
    notTag ⟨tail, by rw [first, second]⟩, Nat.add_comm 0, count_add, Nat.add_comm]
  rfl

theorem inlineLength_le (text : List Char) : inlineLength text ≤ text.length := by
  induction text with
  | nil => exact Nat.le_refl _
  | cons c rest ih =>
    by_cases opens : Opens (c :: rest)
    · rw [inlineLength_of_opens opens]
      exact Nat.zero_le _
    · rw [inlineLength_cons opens]
      exact Nat.succ_le_succ ih

/-- Inline text goes up to the end or to the next tag. -/
theorem drop_inlineLength (text : List Char) :
    text.drop (inlineLength text) = [] ∨ Opens (text.drop (inlineLength text)) := by
  induction text with
  | nil => exact .inl rfl
  | cons c rest ih =>
    by_cases opens : Opens (c :: rest)
    · rw [inlineLength_of_opens opens]
      exact .inr opens
    · rw [inlineLength_cons opens]
      exact ih

/-- Inline text has no tag inside. -/
theorem inlineLength_take (text : List Char) :
    inlineLength (text.take (inlineLength text)) = inlineLength text := by
  induction text with
  | nil => rfl
  | cons c rest ih =>
    by_cases opens : Opens (c :: rest)
    · rw [inlineLength_of_opens opens]
      rfl
    · rw [inlineLength_cons opens, List.take_succ_cons, inlineLength_cons, ih]
      rintro ⟨tail, same⟩
      rcases List.cons.inj same with ⟨rfl, second⟩
      apply opens
      rw [← List.take_append_drop (inlineLength rest) rest, second]
      exact ⟨_, rfl⟩

/-- Text without a tag inside is inline text as a whole when a tag or nothing follows. -/
theorem inlineLength_append {front rest : List Char} (plain : inlineLength front = front.length)
    (next : rest = [] ∨ Opens rest) : inlineLength (front ++ rest) = front.length := by
  induction front with
  | nil =>
    rcases next with rfl | opens
    · rfl
    · exact inlineLength_of_opens opens
  | cons c front ih =>
    have notTag : ¬ Opens (c :: front) := fun opens => by
      rw [inlineLength_of_opens opens] at plain
      cases plain
    have notTag' : ¬ Opens (c :: (front ++ rest)) := by
      rintro ⟨tail, same⟩
      cases front with
      | nil => rcases next with rfl | ⟨tail, rfl⟩ <;> cases same
      | cons d front =>
        cases same
        exact notTag ⟨front, rfl⟩
    rw [inlineLength_cons notTag, List.length_cons] at plain
    rw [List.cons_append, inlineLength_cons notTag', ih (Nat.succ.inj plain), List.length_cons]

theorem lineCommentLength_le (text : List Char) : lineCommentLength text ≤ text.length := by
  fun_induction lineCommentLength with
  | case1 | case2 | case3 => exact Nat.zero_le _
  | case4 c rest _ _ ih => exact Nat.succ_le_succ ih

theorem blockCommentLength?_le {text : List Char} {length : Nat}
    (found : blockCommentLength? text = some length) : length + 2 ≤ text.length := by
  fun_induction blockCommentLength? generalizing length with
  | case1 => cases found
  | case2 rest =>
    cases found
    simp
  | case3 c rest _ ih =>
    obtain ⟨inner, foundInner, rfl⟩ := Option.map_eq_some_iff.1 found
    exact Nat.succ_le_succ (ih foundInner)

theorem stringLength?_lt {quote : Char} {text : List Char} {length : Nat}
    (found : stringLength? quote text = some length) : length < text.length := by
  fun_induction stringLength? quote text generalizing length with
  | case1 => cases found
  | case2 c rest ih =>
    obtain ⟨inner, foundInner, rfl⟩ := Option.map_eq_some_iff.1 found
    exact Nat.succ_le_succ (Nat.succ_le_succ (ih foundInner))
  | case3 c rest =>
    cases found
    exact Nat.zero_lt_succ _
  | case4 c rest _ _ ih =>
    obtain ⟨inner, foundInner, rfl⟩ := Option.map_eq_some_iff.1 found
    exact Nat.succ_le_succ (ih foundInner)

theorem tagWordLength_le (text : List Char) : tagWordLength text ≤ text.length := by
  unfold tagWordLength
  split
  · split
    · simp
    · exact Nat.zero_le _
  · exact Nat.zero_le _

theorem lineBreakLength_le (text : List Char) : lineBreakLength text ≤ text.length := by
  unfold lineBreakLength
  split <;> simp

theorem takeWhile_dollars (rest : List Char) :
    ('$' :: rest).takeWhile (· = '$') = List.replicate (run (· = '$') rest + 1) '$' := by
  refine List.eq_replicate_iff.2 ⟨by simp [run], fun c inside => ?_⟩
  simpa using List.all_eq_true.1 List.all_takeWhile c inside

end Lexeme

/-! ## Pieces of a script -/

/-- A token without its place. -/
abbrev Piece := TokenKind × String

/-- What a token is, wherever it stands. -/
def Token.piece (token : Token) : Piece :=
  (token.kind, token.value)

/-- The pieces of a script, its tags apart. Some characters are both letters and blanks. A word does
not start with one, as blanks are skipped first, but the name of a variable may. -/
inductive Piece.InScript : Piece → Prop
  | string (content : String) : InScript (.string, content)
  | integer {digits : List Char} (some : digits ≠ []) (each : ∀ c ∈ digits, c.isDigit) :
    InScript (.integer, .ofList digits)
  | float {whole places : List Char} (some : whole ≠ []) (each : ∀ c ∈ whole, c.isDigit)
    (some' : places ≠ []) (each' : ∀ c ∈ places, c.isDigit) :
    InScript (.float, .ofList (whole ++ '.' :: places))
  | variableName (dollars : Nat) {c : Char} {rest : List Char} (starts : Lexeme.isNameStart c)
    (each : ∀ d ∈ rest, Lexeme.isNameCharacter d) :
    InScript (.variableName, .ofList (List.replicate dollars '$' ++ c :: rest))
  | word {c : Char} {rest : List Char} (visible : Text.isBlank c = false)
    (starts : Lexeme.isNameStart c) (each : ∀ d ∈ rest, Lexeme.isNameCharacter d) :
    InScript ((TokenKind.ofWord? (.ofList (c :: rest))).getD .identifier, .ofList (c :: rest))
  | pair {c d : Char} {piece : Piece} (found : Lexeme.pair? c d = some piece) : InScript piece
  | single {c : Char} {kind : TokenKind} (found : Lexeme.single? c = some kind) :
    InScript (kind, c.toString)

namespace Lexeme

/-- What stands at the front of a script: nothing that matters, the close tag, or a piece. -/
inductive OfScript : Lexeme → Prop
  | skipped (length : Nat) : OfScript { token := none, length }
  | closeTag (length : Nat) : OfScript ⟨some (.closeTag, "?>"), length, .inline⟩
  | piece {piece : Piece} (inScript : piece.InScript) (length : Nat) :
    OfScript { token := some piece, length }

theorem ofScript_number {c : Char} (digit : c.isDigit) (rest : List Char) :
    OfScript (number (c :: rest)) := by
  have some : (c :: rest).takeWhile Char.isDigit ≠ [] := by simp [digit]
  have integer : OfScript (number.token (c :: rest) .integer (run Char.isDigit (c :: rest))) := by
    apply OfScript.piece
    rw [take_run]
    exact .integer some fun d => List.mem_takeWhile_imp
  unfold number
  dsimp only
  split
  · next places point =>
    split
    · exact integer
    · next fraction =>
      have some' : places.takeWhile Char.isDigit ≠ [] := fun none =>
        fraction (congrArg List.length none)
      apply OfScript.piece
      rw [Nat.add_assoc, List.take_add, take_run, point, Nat.add_comm 1, List.take_succ_cons,
        take_run]
      exact .float some (fun d => List.mem_takeWhile_imp) some' fun d => List.mem_takeWhile_imp
  · exact integer

theorem isNameCharacter_of_start {c : Char} (starts : isNameStart c) : isNameCharacter c := by
  rw [isNameCharacter, starts]
  rfl

theorem ofScript_variableName {rest : List Char} {lexeme : Lexeme}
    (found : variableName ('$' :: rest) = .ok lexeme) : OfScript lexeme := by
  unfold variableName at found
  dsimp only at found
  split at found
  · next starts =>
    cases found
    apply OfScript.piece
    rw [List.take_add, take_run, take_run, takeWhile_dollars, List.replicate_succ]
    cases behind : ('$' :: rest).drop (run (· = '$') ('$' :: rest)) with
    | nil =>
      rw [behind] at starts
      cases starts
    | cons c tail =>
      rw [behind] at starts
      rw [List.takeWhile_cons_of_pos (isNameCharacter_of_start starts)]
      exact .variableName _ starts fun d => List.mem_takeWhile_imp
  · cases found

theorem ofScript_word {c : Char} (visible : Text.isBlank c = false) (starts : isNameStart c)
    (rest : List Char) : OfScript (word (c :: rest)) := by
  apply OfScript.piece
  rw [take_run, List.takeWhile_cons_of_pos (isNameCharacter_of_start starts)]
  exact .word visible starts fun d => List.mem_takeWhile_imp

theorem ofScript_mark? {c : Char} {rest : List Char} {lexeme : Lexeme}
    (found : mark? c rest = some lexeme) : OfScript lexeme := by
  unfold mark? at found
  split at found
  · next piece isPair =>
    cases found
    rcases Option.bind_eq_some_iff.1 isPair with ⟨d, second, isPair⟩
    exact .piece (.pair isPair) 2
  · rcases Option.map_eq_some_iff.1 found with ⟨kind, isSingle, rfl⟩
    exact .piece (.single isSingle) 1

theorem ofScript_ofScript {c : Char} {rest : List Char} {lexeme : Lexeme}
    (found : ofScript c rest = .ok lexeme) : OfScript lexeme := by
  unfold ofScript at found
  split at found
  · cases found
    exact .skipped _
  next visible =>
  split at found
  · cases found
    exact .skipped _
  split at found
  · cases found
    exact .skipped _
  split at found
  · unfold blockComment at found
    split at found <;> cases found
    exact .skipped _
  split at found
  · cases found
    exact .closeTag _
  split at found
  · unfold string at found
    split at found <;> cases found
    exact .piece (.string _) _
  split at found
  · next digit =>
    cases found
    exact ofScript_number digit rest
  split at found
  · next dollar =>
    subst dollar
    exact ofScript_variableName found
  split at found
  · next mark =>
    cases found
    exact ofScript_mark? mark
  · split at found
    · next starts =>
      cases found
      exact ofScript_word (Bool.eq_false_iff.2 visible) starts rest
    · cases found

end Lexeme

/-! ## Scans -/

/-- What holds of the end of the source and passes over every lexeme holds of all scans. -/
theorem Token.scanFrom_induction {motive : Mode → List Char → List Token → Prop}
    (done : ∀ mode place, motive mode [] [⟨.endOfSource, "", place⟩])
    (step : ∀ mode place c rest lexeme tokens, Lexeme.first mode c rest = .ok lexeme →
      motive lexeme.mode (rest.drop (lexeme.length - 1)) tokens →
      motive mode (c :: rest)
        ((lexeme.token.map fun piece => ⟨piece.1, piece.2, place⟩).toList ++ tokens))
    {mode : Mode} {place : Position} {text : List Char} {tokens : List Token}
    (scanned : scanFrom mode place text = .ok tokens) : motive mode text tokens := by
  fun_induction scanFrom mode place text generalizing tokens with
  | case1 =>
    cases scanned
    exact done _ _
  | case2 => contradiction
  | case3 mode place c rest lexeme found ih =>
    cases later : scanFrom lexeme.mode (place.after ((c :: rest).take lexeme.length))
        (rest.drop (lexeme.length - 1)) with
    | error fault =>
      rw [later] at scanned
      contradiction
    | ok others =>
      rw [later] at scanned
      cases scanned
      exact step mode place c rest lexeme others found (ih later)

namespace TokenKind

/-- The kinds of tokens that no piece of a script is of: tags, the text outside scripts and the end
of the source. -/
def outer : List TokenKind :=
  [inlineText, openTag, closeTag, endOfSource]

end TokenKind

theorem Lexeme.forall_first {motive : Piece → Prop}
    (inScript : ∀ {piece}, piece.InScript → motive piece)
    (outer : ∀ {kind}, kind ∈ TokenKind.outer → ∀ text, motive (kind, text)) {mode : Mode}
    {c : Char} {rest : List Char} {lexeme : Lexeme} (found : first mode c rest = .ok lexeme) :
    ∀ piece ∈ lexeme.token, motive piece := by
  cases mode with
  | script =>
    cases ofScript_ofScript found with
    | skipped =>
      rintro _ ⟨⟩
    | closeTag =>
      rintro _ ⟨⟩
      exact outer (by decide) _
    | piece inside =>
      rintro _ ⟨⟩
      exact inScript inside
  | inline =>
    cases found
    unfold ofInline
    split <;> rintro _ ⟨⟩ <;> exact outer (by decide) _

/-- What holds of the pieces of a script and of everything outside scripts holds of all tokens. -/
theorem Token.forall_scanFrom {motive : Piece → Prop}
    (inScript : ∀ {piece}, piece.InScript → motive piece)
    (outer : ∀ {kind}, kind ∈ TokenKind.outer → ∀ text, motive (kind, text)) {mode : Mode}
    {place : Position} {text : List Char} {tokens : List Token}
    (scanned : scanFrom mode place text = .ok tokens) : ∀ token ∈ tokens, motive token.piece := by
  apply scanFrom_induction _ _ scanned
    (motive := fun _ _ tokens => ∀ token ∈ tokens, motive token.piece)
  · have ended : TokenKind.endOfSource ∈ TokenKind.outer := by decide
    exact fun mode place => List.forall_mem_singleton.2 (outer ended _)
  · intro mode place c rest lexeme others found holds
    apply List.forall_mem_append.2 ⟨_, holds⟩
    intro token inside
    rcases Option.map_eq_some_iff.1 (Option.mem_toList.1 inside) with ⟨piece, given, rfl⟩
    exact Lexeme.forall_first inScript outer found piece given

end TagScript
