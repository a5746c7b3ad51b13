import TagScript.Proofs.Confinement
import TagScript.Proofs.Lexemes

/-!
# Lexemes lie in their text

Every lexeme takes at least one character and no more than there are, and a fault is reported at a
place in the text or right behind it (`Lexeme.inBounds_first`). Only the end of the source yields
the token that marks it, so that token comes once and comes last (`Token.areClosed_of_scan`).
-/

namespace TagScript

namespace Lexeme

/-- A lexeme at the front of a text. -/
structure Fits (text : List Char) (lexeme : Lexeme) : Prop where
  positive : 0 < lexeme.length
  within : lexeme.length ≤ text.length
  inside : ∀ piece ∈ lexeme.token, piece.1 ≠ .endOfSource

/-- A lexeme at the front of a text, or a fault in it. -/
def InBounds (text : List Char) : Except (Nat × ScanFault) Lexeme → Prop
  | .ok lexeme => lexeme.Fits text
  | .error (passed, _) => passed ≤ text.length

theorem fits_none {text : List Char} {length : Nat} {mode : Mode} (positive : 0 < length)
    (within : length ≤ text.length) : Fits text ⟨none, length, mode⟩ :=
  ⟨positive, within, nofun⟩

theorem fits_some {text : List Char} {length : Nat} {mode : Mode} {kind : TokenKind}
    {value : String} (positive : 0 < length) (within : length ≤ text.length)
    (inside : kind ≠ .endOfSource) :
    Fits text ⟨some (kind, value), length, mode⟩ := by
  refine ⟨positive, within, ?_⟩
  rintro _ ⟨⟩
  exact inside

/-! ## Lexemes -/

theorem fits_ofInline (c : Char) (rest : List Char) : (ofInline (c :: rest)).Fits (c :: rest) := by
  unfold ofInline
  split
  · next rest same =>
    rw [same]
    have tag := tagWordLength_le rest
    apply fits_some _ _ (by decide)
    · omega
    · simp only [List.length_cons]
      omega
  · next notTag =>
    have positive : 0 < inlineLength (c :: rest) := by
      rw [inlineLength_cons (not_exists.2 notTag)]
      exact Nat.zero_lt_succ _
    exact fits_some positive (inlineLength_le _) (by decide)

theorem fits_number {c : Char} (digit : c.isDigit) (rest : List Char) :
    (number (c :: rest)).Fits (c :: rest) := by
  have positive := run_pos digit rest
  have whole := run_le Char.isDigit (c :: rest)
  have plain : (number.token (c :: rest) .integer (run Char.isDigit (c :: rest))).Fits
      (c :: rest) := fits_some positive whole (by decide)
  unfold number
  dsimp only
  split
  · next places point =>
    split
    · exact plain
    · have length := congrArg List.length point
      have fraction := run_le Char.isDigit places
      simp only [List.length_drop, List.length_cons] at length whole
      apply fits_some (by omega) _ (by decide)
      simp only [List.length_cons]
      omega
  · exact plain

theorem inBounds_variableName (rest : List Char) :
    InBounds ('$' :: rest) (variableName ('$' :: rest)) := by
  have positive : 0 < run (· = '$') ('$' :: rest) := run_pos (by decide) rest
  have dollars := run_le (· = '$') ('$' :: rest)
  unfold variableName
  dsimp only
  split
  · have name := run_le isNameCharacter (('$' :: rest).drop (run (· = '$') ('$' :: rest)))
    rw [List.length_drop] at name
    exact fits_some (by omega) (by omega) (by decide)
  · exact dollars

theorem fits_mark? {c : Char} {rest : List Char} {lexeme : Lexeme}
    (found : mark? c rest = some lexeme) : lexeme.Fits (c :: rest) := by
  unfold mark? at found
  split at found
  · next token pair =>
    cases found
    obtain ⟨d, second, isPair⟩ := Option.bind_eq_some_iff.1 pair
    have long : 2 ≤ (c :: rest).length := by
      cases rest with
      | nil => cases second
      | cons _ rest => simp
    refine ⟨Nat.zero_lt_two, long, ?_⟩
    rintro _ ⟨⟩
    unfold pair? at isPair
    split at isPair <;> cases isPair <;> decide
  · obtain ⟨kind, single, rfl⟩ := Option.map_eq_some_iff.1 found
    apply fits_some (by decide) (by simp)
    unfold single? at single
    split at single <;> cases single <;> decide

theorem fits_word {c : Char} (starts : isNameStart c) (rest : List Char) :
    (word (c :: rest)).Fits (c :: rest) := by
  have first : isNameCharacter c := by
    rw [isNameCharacter, starts]
    rfl
  apply fits_some (run_pos first rest) (run_le _ _)
  unfold TokenKind.ofWord?
  split <;> decide

theorem inBounds_string (quote : Char) (rest : List Char) :
    InBounds (quote :: rest) (string quote rest) := by
  unfold string
  split
  · exact Nat.zero_le _
  · next length found =>
    have within := stringLength?_lt found
    exact fits_some (by omega) (Nat.succ_le_succ within) (by decide)

theorem inBounds_blockComment (slash star : Char) (rest : List Char) :
    InBounds (slash :: star :: rest) (blockComment rest) := by
  unfold blockComment
  split
  · exact Nat.zero_le _
  · next length found =>
    have within := blockCommentLength?_le found
    exact fits_none (by omega) (by simpa using within)

theorem inBounds_ofScript (c : Char) (rest : List Char) :
    InBounds (c :: rest) (ofScript c rest) := by
  have comment : 1 + lineCommentLength rest ≤ (c :: rest).length := by
    rw [List.length_cons, Nat.add_comm]
    exact Nat.succ_le_succ (lineCommentLength_le rest)
  unfold ofScript
  split
  · next blank => exact fits_none (run_pos blank rest) (run_le _ _)
  split
  · exact fits_none (by omega) comment
  split
  · exact fits_none (by omega) comment
  split
  · next slashStar =>
    cases rest with
    | nil => simp at slashStar
    | cons star rest => exact inBounds_blockComment c star rest
  split
  · next closing =>
    cases rest with
    | nil => simp at closing
    | cons mark rest =>
      have lineBreak := lineBreakLength_le rest
      apply fits_some (by omega) _ (by decide)
      simp only [List.drop_one, List.tail_cons, List.length_cons]
      omega
  split
  · exact inBounds_string c rest
  split
  · next digit => exact fits_number digit rest
  split
  · next dollar =>
    subst dollar
    exact inBounds_variableName rest
  split
  · next found => exact fits_mark? found
  · split
    · next starts => exact fits_word starts rest
    · exact Nat.zero_le _

theorem inBounds_first (mode : Mode) (c : Char) (rest : List Char) :
    InBounds (c :: rest) (first mode c rest) := by
  cases mode with
  | inline => exact fits_ofInline c rest
  | script => exact inBounds_ofScript c rest

end Lexeme

/-! ## Tokens -/

/-- Tokens that end with the only mark of the end. -/
def Token.AreClosed (tokens : List Token) : Prop :=
  ∃ body last, tokens = body ++ [last] ∧ Closed body last

/-- Every token but the last is the token of a lexeme. -/
theorem Token.areClosed_of_scanFrom {mode : Mode} {place : Position} {text : List Char}
    {tokens : List Token} (scanned : scanFrom mode place text = .ok tokens) :
    Token.AreClosed tokens := by
  apply scanFrom_induction _ _ scanned (motive := fun _ _ tokens => Token.AreClosed tokens)
  · exact fun _ _ => ⟨[], _, rfl, rfl, nofun⟩
  · intro mode place c rest lexeme others found closedOthers
    obtain ⟨body, last, rfl, closed⟩ := closedOthers
    have fits : lexeme.Fits (c :: rest) := by
      have bounds := Lexeme.inBounds_first mode c rest
      rw [found] at bounds
      exact bounds
    refine ⟨_, last, (List.append_assoc _ body [last]).symm, closed.last, ?_⟩
    apply List.forall_mem_append.2 ⟨_, closed.body⟩
    intro token inside
    obtain ⟨piece, given, rfl⟩ := Option.map_eq_some_iff.1 (Option.mem_toList.1 inside)
    exact fits.inside piece given

theorem Token.areClosed_of_scan {source : String} {tokens : List Token}
    (scanned : Token.scan source = .ok tokens) : Token.AreClosed tokens :=
  areClosed_of_scanFrom scanned

end TagScript
