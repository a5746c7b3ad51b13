import Mathlib.Data.List.DropRight
import TagScript.Proofs.Scanning

/-!
# Where tokens stand

The place of a token is counted up from lexeme to lexeme, over text that is skipped and text that is
taken, in two modes. It is nevertheless the place of an offset in the source, and at this offset the
token is written (`Token.StandsAt`). The offsets increase, and a fault is reported behind all tokens
that have been found before it (`Token.exists_offsets_scan`).
-/

namespace TagScript

/-! ## Offsets -/

/-- The place of an offset: lines are counted by the line breaks before it, and columns by the
characters since the last of them. -/
def Position.ofOffset (text : List Char) (offset : Nat) : Position where
  line := (text.take offset).count '\n' + 1
  column := ((text.take offset).rtakeWhile (· ≠ '\n')).length + 1

/-- Counting on character by character gives the place of an offset. The induction is on the text
from its end, as the last character decides whether a line is complete. -/
theorem Position.after_start (front rest : List Char) :
    start.after front = ofOffset (front ++ rest) front.length := by
  unfold ofOffset
  rw [List.take_left]
  induction front using List.reverseRecOn with
  | nil => rfl
  | append_singleton front c ih =>
    have onward : start.after (front ++ [c]) = (start.after front).next c := List.foldl_append
    rw [onward, ih, List.rtakeWhile_concat, List.count_append]
    by_cases lineBreak : c = '\n' <;> simp [next, lineBreak]

theorem Position.after_take (front : List Char) {text : List Char} {length : Nat}
    (within : length ≤ text.length) : (start.after front).after (text.take length) =
      ofOffset (front ++ text) (front.length + length) := by
  have passed := after_start (front ++ text.take length) (text.drop length)
  rw [List.append_assoc, List.take_append_drop, List.length_append, List.length_take,
    min_eq_left within] at passed
  exact List.foldl_append.symm.trans passed

/-- How a piece is written at the front of a text. A string is between quotes and a variable has a
dollar sign; the value of any other piece is its text. -/
def Piece.IsWritten (text : List Char) : Piece → Prop
  | (.endOfSource, _) => text = []
  | (.string, content) => ∃ quote inner, (quote = '\x27' ∨ quote = '"') ∧
      quote :: inner ++ [quote] <+: text ∧ Lexeme.unescape quote inner = content.toList
  | (.variableName, name) => '$' :: name.toList <+: text
  | (_, value) => value.toList <+: text

/-- What is wrong at an offset. -/
inductive ScanFault.IsAt (text : List Char) : Nat → ScanFault → Prop
  | unexpectedCharacter {offset : Nat} {c : Char} {rest : List Char}
    (here : text.drop offset = c :: rest) : IsAt text offset (.unexpectedCharacter c)
  | unterminatedString {offset : Nat} {quote : Char} {rest : List Char}
    (isQuote : quote = '\x27' ∨ quote = '"') (here : text.drop offset = quote :: rest)
    (unclosed : Lexeme.stringLength? quote rest = none) : IsAt text offset .unterminatedString
  | unterminatedComment {offset : Nat} {rest : List Char}
    (here : text.drop offset = '/' :: '*' :: rest)
    (unclosed : Lexeme.blockCommentLength? rest = none) : IsAt text offset .unterminatedComment
  | missingVariableName {offset : Nat} {rest : List Char} (before : text.drop offset = '$' :: rest)
    (nameless : ∀ c ∈ rest.head?, ¬ Lexeme.isNameStart c) :
    IsAt text (offset + 1) .missingVariableName

theorem ScanFault.IsAt.append {text : List Char} {offset : Nat} {cause : ScanFault}
    (isAt : cause.IsAt text offset) (front : List Char) :
    cause.IsAt (front ++ text) (front.length + offset) := by
  have behind (offset : Nat) : (front ++ text).drop (front.length + offset) = text.drop offset :=
    List.drop_length_add_append offset
  cases isAt with
  | unexpectedCharacter here => exact .unexpectedCharacter ((behind _).trans here)
  | unterminatedString isQuote here unclosed =>
    exact .unterminatedString isQuote ((behind _).trans here) unclosed
  | unterminatedComment here unclosed =>
    exact .unterminatedComment ((behind _).trans here) unclosed
  | missingVariableName before nameless =>
    exact .missingVariableName ((behind _).trans before) nameless

/-- A token is written at an offset and has its place. -/
structure Token.StandsAt (text : List Char) (token : Token) (offset : Nat) : Prop where
  within : offset ≤ text.length
  written : token.piece.IsWritten (text.drop offset)
  position : token.position = .ofOffset text offset

/-- The cause of a fault is found at an offset and the fault has its place. -/
structure ScanFault.StandsAt (text : List Char) (fault : Located ScanFault) (offset : Nat) :
    Prop where
  within : offset ≤ text.length
  found : fault.cause.IsAt text offset
  position : fault.position = .ofOffset text offset

/-! ## Lexemes -/

/-- The kinds whose pieces are written as their value. -/
def TokenKind.IsLiteral (kind : TokenKind) : Prop :=
  kind ≠ .endOfSource ∧ kind ≠ .string ∧ kind ≠ .variableName

instance : DecidablePred TokenKind.IsLiteral := fun kind =>
  inferInstanceAs (Decidable (kind ≠ .endOfSource ∧ kind ≠ .string ∧ kind ≠ .variableName))

theorem Piece.isWritten_of_prefix {text : List Char} {kind : TokenKind} {value : String}
    (literal : kind.IsLiteral)
    (written : value.toList <+: text) : Piece.IsWritten text (kind, value) := by
  unfold IsWritten
  split
  · next same => exact absurd (congrArg Prod.fst same) literal.1
  · next same => exact absurd (congrArg Prod.fst same) literal.2.1
  · next same => exact absurd (congrArg Prod.fst same) literal.2.2
  · next same =>
    cases same
    exact written

namespace Lexeme

/-- The piece of a lexeme is written at the front of the text, and the cause of a fault is where the
fault is reported. -/
def Shows (text : List Char) : Except (Nat × ScanFault) Lexeme → Prop
  | .ok lexeme => ∀ piece ∈ lexeme.token, Piece.IsWritten text piece
  | .error (passed, cause) => cause.IsAt text passed

theorem shows_none {text : List Char} {length : Nat} {mode : Mode} :
    Shows text (.ok ⟨none, length, mode⟩) := by
  intro piece given
  contradiction

theorem shows_some {text : List Char} {piece : Piece} {length : Nat} {mode : Mode}
    (written : Piece.IsWritten text piece) : Shows text (.ok ⟨some piece, length, mode⟩) := by
  rintro _ ⟨⟩
  exact written

/-- Pieces whose value is cut out of the text. -/
theorem shows_take {text : List Char} {kind : TokenKind} {length : Nat} {mode : Mode}
    (literal : kind.IsLiteral) :
    Shows text (.ok ⟨some (kind, .ofList (text.take length)), length, mode⟩) := by
  apply shows_some
  apply Piece.isWritten_of_prefix literal
  rw [String.toList_ofList]
  exact List.take_prefix length text

theorem shows_ofInline (text : List Char) : Shows text (.ok (ofInline text)) := by
  unfold ofInline
  split
  · next rest => exact shows_some (Piece.isWritten_of_prefix (by decide) ⟨rest, rfl⟩)
  · exact shows_take (by decide)

/-- What stands between the quotes is followed by a quote. -/
theorem exists_of_stringLength? {quote : Char} {text : List Char} {length : Nat}
    (found : stringLength? quote text = some length) :
    ∃ tail, text = text.take length ++ quote :: tail := by
  fun_induction stringLength? quote text generalizing length with
  | case1 => contradiction
  | case2 c rest ih =>
    rcases Option.map_eq_some_iff.1 found with ⟨inner, foundInner, rfl⟩
    rcases ih foundInner with ⟨tail, same⟩
    exact ⟨tail, congrArg (fun text => '\\' :: c :: text) same⟩
  | case3 rest =>
    cases found
    exact ⟨rest, rfl⟩
  | case4 c rest _ _ ih =>
    rcases Option.map_eq_some_iff.1 found with ⟨inner, foundInner, rfl⟩
    rcases ih foundInner with ⟨tail, same⟩
    exact ⟨tail, congrArg (c :: ·) same⟩

theorem shows_string {quote : Char} (isQuote : quote = '\x27' ∨ quote = '"') (rest : List Char) :
    Shows (quote :: rest) (string quote rest) := by
  unfold string
  split
  · next unclosed => exact .unterminatedString isQuote rfl unclosed
  · next length found =>
    rcases exists_of_stringLength? found with ⟨tail, same⟩
    refine shows_some ⟨quote, rest.take length, isQuote, ⟨tail, ?_⟩, String.toList_ofList.symm⟩
    rw [List.cons_append, List.cons_append, List.append_assoc]
    exact congrArg (quote :: ·) same.symm

theorem shows_number (text : List Char) : Shows text (.ok (number text)) := by
  have digits (kind : TokenKind) (length : Nat)
      (literal : kind.IsLiteral) :
      Shows text (.ok (number.token text kind length)) := shows_take literal
  unfold number
  dsimp only
  split
  · split
    · exact digits .integer _ (by decide)
    · exact digits .float _ (by decide)
  · exact digits .integer _ (by decide)

/-- The fault is reported behind the dollar signs. -/
theorem shows_variableName (rest : List Char) :
    Shows ('$' :: rest) (variableName ('$' :: rest)) := by
  have dollars : run (· = '$') ('$' :: rest) = run (· = '$') rest + 1 := by
    rw [run, takeWhile_dollars, List.length_replicate]
  have cut := List.take_append_drop (run (· = '$') ('$' :: rest)) ('$' :: rest)
  rw [take_run, takeWhile_dollars] at cut
  unfold variableName
  dsimp only
  split
  · apply shows_some
    show '$' :: (String.ofList _).toList <+: _
    rw [String.toList_ofList, dollars, Nat.add_right_comm, List.take_succ_cons, List.drop_one,
      List.tail_cons]
    exact List.cons_prefix_cons.2 ⟨rfl, List.take_prefix _ rest⟩
  · next nameless =>
    have before : ('$' :: rest).drop (run (· = '$') rest) =
        '$' :: ('$' :: rest).drop (run (· = '$') ('$' :: rest)) := by
      rw [List.replicate_succ', List.append_assoc] at cut
      conv_lhs => rw [← cut]
      exact List.drop_left' List.length_replicate
    rw [dollars]
    exact .missingVariableName before fun c first starts =>
      nameless ((Option.any_eq_true _ _).2 ⟨c, first, starts⟩)

theorem shows_mark? {c : Char} {rest : List Char} {lexeme : Lexeme}
    (found : mark? c rest = some lexeme) : Shows (c :: rest) (.ok lexeme) := by
  unfold mark? at found
  split at found
  · next token pair =>
    cases found
    rcases Option.bind_eq_some_iff.1 pair with ⟨d, second, isPair⟩
    rcases List.head?_eq_some_iff.1 second with ⟨tail, rfl⟩
    apply shows_some
    unfold pair? at isPair
    split at isPair <;> cases isPair <;>
      exact Piece.isWritten_of_prefix (by decide) ⟨tail, rfl⟩
  · rcases Option.map_eq_some_iff.1 found with ⟨kind, single, rfl⟩
    apply shows_some
    apply Piece.isWritten_of_prefix _ ⟨rest, by simp⟩
    unfold single? at single
    split at single <;> cases single <;> decide

theorem shows_word (text : List Char) : Shows text (.ok (word text)) := by
  apply shows_take
  unfold TokenKind.ofWord?
  split <;> decide

theorem shows_blockComment (rest : List Char) :
    Shows ('/' :: '*' :: rest) (blockComment rest) := by
  unfold blockComment
  split
  · next unclosed => exact .unterminatedComment rfl unclosed
  · exact shows_none

theorem shows_ofScript (c : Char) (rest : List Char) : Shows (c :: rest) (ofScript c rest) := by
  unfold ofScript
  split
  · exact shows_none
  split
  · exact shows_none
  split
  · exact shows_none
  split
  · next slashStar =>
    simp only [Bool.and_eq_true, decide_eq_true_eq] at slashStar
    rcases slashStar with ⟨rfl, star⟩
    rcases List.head?_eq_some_iff.1 star with ⟨tail, rfl⟩
    exact shows_blockComment tail
  split
  · next closing =>
    simp only [Bool.and_eq_true, decide_eq_true_eq] at closing
    rcases closing with ⟨rfl, mark⟩
    rcases List.head?_eq_some_iff.1 mark with ⟨tail, rfl⟩
    exact shows_some (Piece.isWritten_of_prefix (by decide) ⟨tail, rfl⟩)
  split
  · next isQuote =>
    simp only [Bool.or_eq_true, decide_eq_true_eq] at isQuote
    exact shows_string isQuote rest
  split
  · exact shows_number (c :: rest)
  split
  · next dollar =>
    subst dollar
    exact shows_variableName rest
  split
  · next found => exact shows_mark? found
  split
  · exact shows_word (c :: rest)
  · exact .unexpectedCharacter rfl

theorem shows_first (mode : Mode) (c : Char) (rest : List Char) :
    Shows (c :: rest) (first mode c rest) := by
  cases mode with
  | inline => exact shows_ofInline (c :: rest)
  | script => exact shows_ofScript c rest

end Lexeme

/-! ## Scans -/

namespace Token

/-- The tokens that are found up to the end or up to a fault, and this fault. -/
def scanned (mode : Mode) (place : Position) (text : List Char) :
    List Token × Option (Located ScanFault) :=
  match text with
  | [] => ([⟨.endOfSource, "", place⟩], none)
  | c :: rest =>
    match Lexeme.first mode c rest with
    | .error (passed, cause) => ([], some ⟨place.after (text.take passed), cause⟩)
    | .ok lexeme =>
      let others := scanned lexeme.mode (place.after (text.take lexeme.length))
        (rest.drop (lexeme.length - 1))
      ((lexeme.token.map fun (kind, value) => ⟨kind, value, place⟩).toList ++ others.1, others.2)
termination_by text.length
decreasing_by
  simp only [List.length_drop, List.length_cons]
  omega

/-- A scan gives all tokens, or else the fault alone. -/
theorem scanFrom_eq_scanned (mode : Mode) (place : Position) (text : List Char) :
    scanFrom mode place text =
      (scanned mode place text).2.elim (.ok (scanned mode place text).1) .error := by
  fun_induction scanned mode place text with
  | case1 =>
    rw [scanFrom]
    rfl
  | case2 mode place c rest passed cause found =>
    rw [scanFrom, found]
    rfl
  | case3 mode place c rest lexeme found ih =>
    rw [scanFrom, found]
    simp only [ih]
    cases (scanned lexeme.mode (place.after ((c :: rest).take lexeme.length))
        (rest.drop (lexeme.length - 1))).2 <;> rfl

/-- From an offset on, the tokens stand at increasing offsets, and a fault stands behind them. -/
structure ArePlaced (text : List Char) (least : Nat)
    (found : List Token × Option (Located ScanFault)) (offsets : List Nat) : Prop where
  tokens : List.Forall₂ (StandsAt text) found.1 offsets
  increasing : offsets.Pairwise (· < ·)
  bounded : ∀ offset ∈ offsets, least ≤ offset
  fault : ∀ fault ∈ found.2, ∃ offset, ScanFault.StandsAt text fault offset ∧ least ≤ offset ∧
    ∀ earlier ∈ offsets, earlier < offset

section Placing

variable {text : List Char} {least offset : Nat} {token : Token} {offsets : List Nat}
  {found : List Token × Option (Located ScanFault)}

theorem ArePlaced.mono (placed : ArePlaced text least found offsets) (le : offset ≤ least) :
    ArePlaced text offset found offsets := by
  refine ⟨placed.tokens, placed.increasing, ?_, ?_⟩
  · exact fun other inside => le.trans (placed.bounded other inside)
  · intro fault given
    rcases placed.fault fault given with ⟨other, stands, behind, later⟩
    exact ⟨other, stands, le.trans behind, later⟩

theorem ArePlaced.cons (stands : token.StandsAt text offset)
    (placed : ArePlaced text least found offsets) (lt : offset < least) :
    ArePlaced text offset (token :: found.1, found.2) (offset :: offsets) := by
  have placed' := placed.mono lt.le
  have before (other : Nat) (inside : other ∈ offsets) : offset < other :=
    lt.trans_le (placed.bounded other inside)
  refine ⟨.cons stands placed.tokens, .cons before placed.increasing, ?_, ?_⟩
  · exact List.forall_mem_cons.2 ⟨le_rfl, placed'.bounded⟩
  · intro fault given
    rcases placed.fault fault given with ⟨other, stands, behind, later⟩
    exact ⟨other, stands, (lt.trans_le behind).le,
      List.forall_mem_cons.2 ⟨lt.trans_le behind, later⟩⟩

/-- The end of the source. -/
theorem arePlaced_end (text : List Char) :
    ArePlaced text text.length ([⟨.endOfSource, "", Position.start.after text⟩], none)
      [text.length] := by
  have stands : StandsAt text ⟨.endOfSource, "", Position.start.after text⟩ text.length := by
    refine ⟨le_rfl, List.drop_length, ?_⟩
    rw [Position.after_start text [], List.append_nil]
  refine ⟨.cons stands .nil, List.pairwise_singleton _ _, ?_, ?_⟩
  · simp
  · intro fault given
    contradiction

/-- A fault that is found where nothing has been found yet. -/
theorem arePlaced_fault {fault : Located ScanFault}
    (stands : ScanFault.StandsAt text fault offset) (le : least ≤ offset) :
    ArePlaced text least ([], some fault) [] := by
  refine ⟨.nil, .nil, ?_, ?_⟩
  · simp
  · rintro _ ⟨⟩
    exact ⟨offset, stands, le, by simp⟩

end Placing

/-- The induction is on the lexemes. What has been passed is carried along, and offsets are counted
in the whole text. -/
theorem exists_arePlaced_scanned (mode : Mode) (front text : List Char) :
    ∃ offsets, ArePlaced (front ++ text) front.length
      (scanned mode (Position.start.after front) text) offsets := by
  generalize start : Position.start.after front = place
  fun_induction scanned mode place text generalizing front with
  | case1 mode place =>
    subst start
    rw [List.append_nil]
    exact ⟨_, arePlaced_end front⟩
  | case2 mode place c rest passed cause found =>
    subst start
    have within := Lexeme.inBounds_first mode c rest
    have isAt := Lexeme.shows_first mode c rest
    rw [found] at within isAt
    have stands : ScanFault.StandsAt (front ++ c :: rest)
        ⟨(Position.start.after front).after ((c :: rest).take passed), cause⟩
        (front.length + passed) := by
      refine ⟨?_, isAt.append front, Position.after_take front within⟩
      rw [List.length_append]
      exact Nat.add_le_add_left within _
    exact ⟨[], arePlaced_fault stands (Nat.le_add_right _ _)⟩
  | case3 mode place c rest lexeme found ih =>
    subst start
    have fits := Lexeme.inBounds_first mode c rest
    have shown := Lexeme.shows_first mode c rest
    rw [found] at fits shown
    have remaining : rest.drop (lexeme.length - 1) = (c :: rest).drop lexeme.length := by
      rw [← Nat.sub_add_cancel fits.positive, List.drop_succ_cons, Nat.add_sub_cancel]
    have passed : (front ++ (c :: rest).take lexeme.length).length =
        front.length + lexeme.length := by
      rw [List.length_append, List.length_take, min_eq_left fits.within]
    rcases ih (front ++ (c :: rest).take lexeme.length) List.foldl_append with ⟨offsets, placed⟩
    rw [remaining, List.append_assoc, List.take_append_drop, passed, ← remaining] at placed
    have lt : front.length < front.length + lexeme.length := Nat.lt_add_of_pos_right fits.positive
    cases given : lexeme.token with
    | none => exact ⟨offsets, placed.mono lt.le⟩
    | some piece =>
      refine ⟨front.length :: offsets, .cons ⟨?_, ?_, ?_⟩ placed lt⟩
      · simp
      · rw [List.drop_left]
        exact shown piece given
      · exact Position.after_start front (c :: rest)

/-- The tokens of a source that are found before its end or before a fault. -/
def found (source : String) : List Token :=
  (scanned .inline .start source.toList).1

/-- All tokens stand at increasing offsets of the source: each is written at its offset, and its
line and column are those of the offset. The tokens are the result of the scan, or else the scan
fails at an offset behind all of them, with its line and column. -/
theorem exists_offsets_scan (source : String) :
    ∃ offsets : List Nat, offsets.Pairwise (· < ·) ∧
      List.Forall₂ (StandsAt source.toList) (found source) offsets ∧
      (scan source = .ok (found source) ∨
        ∃ fault offset, scan source = .error fault ∧
          ScanFault.StandsAt source.toList fault offset ∧
          ∀ earlier ∈ offsets, earlier < offset) := by
  rcases exists_arePlaced_scanned .inline [] source.toList with ⟨offsets, placed⟩
  refine ⟨offsets, placed.increasing, placed.tokens, ?_⟩
  rw [scan, scanFrom_eq_scanned]
  cases ended : (scanned .inline .start source.toList).2 with
  | none => exact .inl rfl
  | some fault =>
    rcases placed.fault fault ended with ⟨offset, stands, -, later⟩
    exact .inr ⟨fault, offset, rfl, stands, later⟩

end Token

end TagScript
