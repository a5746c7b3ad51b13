import Mathlib
import TagScript.Proofs.Lexemes
import TagScript.Proofs.Numerals

/-!
# Tokens written as text

Blanks, comments, the word of an open tag and the choice of quotes leave no trace in the tokens, so
the source cannot be told from them. Nevertheless the tokens lose nothing that matters to a scan:
`scan_write` writes them as text again and finds the same tokens there.

`Piece.Arises` describes the pieces that a scan gives, in their order. It follows from any scan
(`Piece.arises_of_scanFrom`), and it suffices for the written text to be scanned as intended
(`Piece.Arises.yields`): a blank behind each piece keeps it apart from the next, and inline text
holds no tag and is not followed by more of its kind.
-/

namespace TagScript

namespace Piece

/-- A character as it stands between single quotes. -/
def escaped (c : Char) : List Char :=
  if c = '\\' || c = '\x27' then ['\\', c] else [c]

/-- A piece as text. A blank follows what stands in a script, and a line break its close tag. -/
def text : Piece → List Char
  | (.inlineText, content) => content.toList
  | (.openTag, _) => ['<', '?', ' ']
  | (.closeTag, _) => ['?', '>', '\n']
  | (.endOfSource, _) => []
  | (.string, content) => '\x27' :: content.toList.flatMap escaped ++ ['\x27', ' ']
  | (.variableName, name) => '$' :: name.toList ++ [' ']
  | (_, value) => value.toList ++ [' ']

/-- The pieces of a text that starts in this mode, in their order. -/
inductive Arises : Mode → List Piece → Prop
  | done (mode : Mode) : Arises mode [(.endOfSource, "")]
  | inlineText {content : List Char} {pieces : List Piece} (some : content ≠ [])
    (plain : Lexeme.inlineLength content = content.length)
    (apart : ∀ piece ∈ pieces.head?, piece.1 ≠ .inlineText) (later : Arises .inline pieces) :
    Arises .inline ((.inlineText, .ofList content) :: pieces)
  | openTag {pieces : List Piece} (later : Arises .script pieces) :
    Arises .inline ((.openTag, "<?") :: pieces)
  | closeTag {pieces : List Piece} (later : Arises .inline pieces) :
    Arises .script ((.closeTag, "?>") :: pieces)
  | script {piece : Piece} {pieces : List Piece} (inScript : piece.InScript)
    (later : Arises .script pieces) : Arises .script (piece :: pieces)

end Piece

namespace Lexeme

/-! ## What a text yields -/

theorem ofInline_of_not_opens {text : List Char} (notTag : ¬ Opens text) : ofInline text =
    ⟨some (.inlineText, .ofList (text.take (inlineLength text))), inlineLength text, .inline⟩ := by
  unfold ofInline
  split
  · next rest => exact absurd ⟨rest, rfl⟩ notTag
  · rfl

end Lexeme

theorem Piece.arises_of_scanFrom {mode : Mode} {place : Position} {text : List Char}
    {tokens : List Token} (scanned : Token.scanFrom mode place text = .ok tokens) :
    Arises mode (tokens.map Token.piece) := by
  -- Inline text ends at a tag or at the end, so another inline text never follows it.
  apply And.left
  apply Token.scanFrom_induction _ _ scanned (motive := fun mode text tokens =>
    Arises mode (tokens.map Token.piece) ∧ (mode = .inline → text = [] ∨ Lexeme.Opens text →
      ∀ piece ∈ (tokens.map Token.piece).head?, piece.1 ≠ .inlineText))
  · intro mode place
    apply And.intro (.done mode)
    rintro - - _ ⟨⟩ ⟨⟩
  · intro mode place c rest lexeme others found later
    cases mode with
    | script =>
      apply And.intro _ nofun
      cases Lexeme.ofScript_ofScript found with
      | skipped => exact later.1
      | closeTag => exact .closeTag later.1
      | piece inScript => exact .script inScript later.1
    | inline =>
      cases found
      by_cases opens : Lexeme.Opens (c :: rest)
      · rcases opens with ⟨tail, same⟩
        cases same
        apply And.intro (.openTag later.1)
        rintro - - _ ⟨⟩ ⟨⟩
      · have length := Lexeme.inlineLength_cons opens
        rw [Lexeme.ofInline_of_not_opens opens] at later ⊢
        dsimp only at later ⊢
        rw [length, Nat.add_sub_cancel] at later
        apply And.intro
        · apply Arises.inlineText _ _ _ later.1
          · rw [length]
            exact List.cons_ne_nil _ _
          · rw [Lexeme.inlineLength_take, List.length_take_of_le (Lexeme.inlineLength_le _)]
          · exact later.2 rfl (Lexeme.drop_inlineLength rest)
        · intro _ next
          rcases next with nothing | tag
          · cases nothing
          · exact absurd tag opens

/-! ## What is read back -/

namespace Lexeme

theorem ne_of_class {p : Char → Bool} {c d : Char} (here : p c) (other : p d = false) : c ≠ d := by
  rintro rfl
  rw [other] at here
  contradiction

theorem isDigit_of_isNameStart {c : Char} (starts : isNameStart c) : c.isDigit = false := by
  rw [Bool.eq_false_iff]
  intro digit
  have range : 48 ≤ c.toNat ∧ c.toNat ≤ 57 := Char.isDigit_iff_toNat.1 digit
  simp only [isNameStart, Bool.or_eq_true, decide_eq_true_eq] at starts
  rcases starts with (letter | rfl) | high
  · grind [Char.isAlpha, Char.isUpper, Char.isLower, Char.toNat, UInt32.le_iff_toNat_le]
  · cases digit
  · omega

theorem mark?_of_isNameStart {c : Char} (starts : isNameStart c) (rest : List Char) :
    mark? c rest = none := by
  have noPair (d : Char) : pair? c d = none := by
    unfold pair?
    split <;> first | rfl | exact absurd starts (by decide)
  have noSingle : single? c = none := by
    unfold single?
    split <;> first | rfl | exact absurd starts (by decide)
  cases rest with
  | nil => simp [mark?, noSingle]
  | cons d rest => simp [mark?, noPair, noSingle]

theorem ofScript_of_isDigit {c : Char} (digit : c.isDigit) (rest : List Char) :
    ofScript c rest = .ok (number (c :: rest)) := by
  have ne {d : Char} (other : d.isDigit = false) : c ≠ d := ne_of_class digit other
  simp [ofScript, isBlank_of_isDigit digit, digit, ne (d := '#') rfl, ne (d := '/') rfl,
    ne (d := '?') rfl, ne (d := '\x27') rfl, ne (d := '"') rfl]

theorem ofScript_of_isNameStart {c : Char} (visible : Text.isBlank c = false)
    (starts : isNameStart c) (rest : List Char) : ofScript c rest = .ok (word (c :: rest)) := by
  have ne {d : Char} (other : isNameStart d = false) : c ≠ d := ne_of_class starts other
  simp [ofScript, visible, starts, isDigit_of_isNameStart starts, mark?_of_isNameStart starts,
    ne (d := '#') rfl, ne (d := '/') rfl, ne (d := '?') rfl, ne (d := '\x27') rfl,
    ne (d := '"') rfl, ne (d := '$') rfl]

/-! A run of digits or of name characters ends at the blank behind it. -/

theorem run_digits {digits : List Char} (each : ∀ d ∈ digits, d.isDigit) (tail : List Char) :
    run Char.isDigit (digits ++ ' ' :: tail) = digits.length :=
  run_append_cons each rfl tail

theorem run_name {c : Char} {rest : List Char} (starts : isNameStart c)
    (each : ∀ d ∈ rest, isNameCharacter d) (tail : List Char) :
    run isNameCharacter (c :: (rest ++ ' ' :: tail)) = rest.length + 1 := by
  have all : ∀ d ∈ c :: rest, isNameCharacter d :=
    List.forall_mem_cons.2 ⟨isNameCharacter_of_start starts, each⟩
  exact run_append_cons all rfl tail

theorem number_of_digits {digits : List Char} (each : ∀ d ∈ digits, d.isDigit)
    (tail : List Char) : number (digits ++ ' ' :: tail) =
      { token := some (.integer, .ofList digits), length := digits.length } := by
  simp [number, number.token, run_digits each]

theorem number_of_point {whole places : List Char} (each : ∀ d ∈ whole, d.isDigit)
    (some : places ≠ []) (each' : ∀ d ∈ places, d.isDigit) (tail : List Char) :
    number (whole ++ '.' :: places ++ ' ' :: tail) =
      { token := .some (.float, .ofList (whole ++ '.' :: places))
        length := (whole ++ '.' :: places).length } := by
  have length : (whole ++ '.' :: places).length = whole.length + 1 + places.length := by
    rw [List.length_append, List.length_cons]
    omega
  have reached : run Char.isDigit (whole ++ '.' :: places ++ ' ' :: tail) = whole.length := by
    rw [List.append_assoc]
    exact run_append_cons each rfl _
  have behind : (whole ++ '.' :: places ++ ' ' :: tail).drop whole.length =
      '.' :: (places ++ ' ' :: tail) := by
    rw [List.append_assoc, List.drop_left, List.cons_append]
  have fraction : places.length ≠ 0 := List.length_eq_zero_iff.not.2 some
  rw [number, reached, behind]
  show (if run Char.isDigit (places ++ ' ' :: tail) = 0 then _ else _) = _
  rw [run_digits each', if_neg fraction, number.token, ← length, List.take_left]

end Lexeme

namespace Piece

/-- A piece is written with this first character and this rest, and read back from them. -/
structure Spelled (piece : Piece) (c : Char) (rest : List Char) : Prop where
  text : piece.text = c :: (rest ++ [' '])
  visible : Text.isBlank c = false
  read : ∀ tail, Lexeme.ofScript c (rest ++ ' ' :: tail) =
    .ok { token := some piece, length := rest.length + 1 }

theorem stringLength?_escaped (content tail : List Char) :
    Lexeme.stringLength? '\x27' (content.flatMap escaped ++ '\x27' :: tail) =
      some (content.flatMap escaped).length := by
  induction content with
  | nil => rfl
  | cons c content ih =>
    rw [List.flatMap_cons, List.append_assoc, escaped]
    split
    · rw [List.cons_append, List.cons_append, List.nil_append, Lexeme.stringLength?, ih]
      rfl
    · next other =>
      have plain : c ≠ '\\' ∧ c ≠ '\x27' := by simpa using other
      simp [Lexeme.stringLength?, plain, ih]

theorem unescape_escaped (content : List Char) :
    Lexeme.unescape '\x27' (content.flatMap escaped) = content := by
  induction content with
  | nil => rfl
  | cons c content ih =>
    rw [List.flatMap_cons, escaped]
    split
    · next hidden =>
      rw [List.cons_append, List.cons_append, List.nil_append, Lexeme.unescape, ih,
        Lexeme.unescaped, if_pos hidden, List.singleton_append]
    · next other =>
      have plain : c ≠ '\\' ∧ c ≠ '\x27' := by simpa using other
      simp [Lexeme.unescape, plain, ih]

theorem spelled_string (content : String) : Spelled (.string, content) '\x27'
    (content.toList.flatMap escaped ++ ['\x27']) := by
  constructor
  case text => simp [text]
  case visible => decide
  case read =>
    intro tail
    show Lexeme.string '\x27' _ = _
    rw [List.append_assoc, List.singleton_append, Lexeme.string, stringLength?_escaped]
    simp [unescape_escaped]

theorem spelled_integer {c : Char} {rest : List Char} (each : ∀ d ∈ c :: rest, d.isDigit) :
    Spelled (.integer, .ofList (c :: rest)) c rest := by
  have digit : c.isDigit := each c List.mem_cons_self
  constructor
  case text => simp [text]
  case visible => exact isBlank_of_isDigit digit
  case read =>
    intro tail
    rw [Lexeme.ofScript_of_isDigit digit, ← List.cons_append, Lexeme.number_of_digits each,
      List.length_cons]

theorem spelled_float {c : Char} {rest places : List Char} (each : ∀ d ∈ c :: rest, d.isDigit)
    (some : places ≠ []) (each' : ∀ d ∈ places, d.isDigit) :
    Spelled (.float, .ofList (c :: rest ++ '.' :: places)) c (rest ++ '.' :: places) := by
  have digit : c.isDigit := each c List.mem_cons_self
  constructor
  case text => simp [text]
  case visible => exact isBlank_of_isDigit digit
  case read =>
    intro tail
    rw [Lexeme.ofScript_of_isDigit digit, ← List.cons_append, ← List.cons_append,
      Lexeme.number_of_point each some each', List.cons_append, List.length_cons]

theorem spelled_variableName (dollars : Nat) {c : Char} {rest : List Char}
    (starts : Lexeme.isNameStart c) (each : ∀ d ∈ rest, Lexeme.isNameCharacter d) :
    Spelled (.variableName, .ofList (List.replicate dollars '$' ++ c :: rest)) '$'
      (List.replicate dollars '$' ++ c :: rest) := by
  constructor
  case text => simp [text]
  case visible => decide
  case read =>
    intro tail
    -- The first dollar sign marks the variable, the others belong to its name.
    have signs : Lexeme.run (· = '$')
        (List.replicate (dollars + 1) '$' ++ (c :: (rest ++ ' ' :: tail))) = dollars + 1 := by
      have all : ∀ d ∈ List.replicate (dollars + 1) '$', decide (d = '$') = true := fun d inside =>
        decide_eq_true (List.eq_of_mem_replicate inside)
      have stops : decide (c = '$') = false := decide_eq_false (Lexeme.ne_of_class starts rfl)
      rw [Lexeme.run_append_cons all stops, List.length_replicate]
    have taken : (List.replicate (dollars + 1) '$' ++ (c :: (rest ++ ' ' :: tail))).take
        (dollars + 1 + (rest.length + 1)) = List.replicate (dollars + 1) '$' ++ c :: rest := by
      rw [← List.cons_append, ← List.append_assoc]
      apply List.take_left'
      rw [List.length_append, List.length_replicate, List.length_cons]
    have length : (List.replicate dollars '$' ++ c :: rest).length + 1 =
        dollars + 1 + (rest.length + 1) := by
      rw [List.length_append, List.length_replicate, List.length_cons]
      omega
    show Lexeme.variableName _ = _
    rw [List.append_assoc, ← List.cons_append, ← List.replicate_succ, List.cons_append,
      Lexeme.variableName]
    dsimp only
    rw [signs, List.drop_left' List.length_replicate, Lexeme.run_name starts each, taken, length]
    simp [starts, List.replicate_succ]

theorem spelled_word {c : Char} {rest : List Char} (visible : Text.isBlank c = false)
    (starts : Lexeme.isNameStart c) (each : ∀ d ∈ rest, Lexeme.isNameCharacter d) :
    Spelled ((TokenKind.ofWord? (.ofList (c :: rest))).getD .identifier, .ofList (c :: rest)) c
      rest := by
  constructor
  case text =>
    unfold TokenKind.ofWord?
    split <;> simp [text]
  case visible => exact visible
  case read =>
    intro tail
    rw [Lexeme.ofScript_of_isNameStart visible starts]
    simp [Lexeme.word, Lexeme.run_name starts each]

theorem spelled_pair {c d : Char} {piece : Piece} (found : Lexeme.pair? c d = some piece) :
    Spelled piece c [d] := by
  unfold Lexeme.pair? at found
  split at found <;> cases found <;> exact ⟨rfl, rfl, fun tail => rfl⟩

theorem spelled_single {c : Char} {kind : TokenKind} (found : Lexeme.single? c = some kind) :
    Spelled (kind, c.toString) c [] := by
  unfold Lexeme.single? at found
  split at found <;> cases found <;> exact ⟨rfl, rfl, fun tail => rfl⟩

/-- Every piece of a script is read back from its text when a blank follows. -/
theorem InScript.spelled {piece : Piece} (inScript : piece.InScript) :
    ∃ c rest, Spelled piece c rest := by
  cases inScript with
  | string content => exact ⟨_, _, spelled_string content⟩
  | @integer digits some each =>
    cases digits with
    | nil => contradiction
    | cons c rest => exact ⟨_, _, spelled_integer each⟩
  | @float whole places some each some' each' =>
    cases whole with
    | nil => contradiction
    | cons c rest => exact ⟨_, _, spelled_float each some' each'⟩
  | variableName dollars starts each => exact ⟨_, _, spelled_variableName dollars starts each⟩
  | word visible starts each => exact ⟨_, _, spelled_word visible starts each⟩
  | pair found => exact ⟨_, _, spelled_pair found⟩
  | single found => exact ⟨_, _, spelled_single found⟩

/-- The text of pieces. -/
def write (pieces : List Piece) : List Char :=
  pieces.flatMap text

/-- The text is scanned into these pieces, wherever it stands. -/
def Yields (mode : Mode) (text : List Char) (pieces : List Piece) : Prop :=
  ∀ place, ∃ tokens, Token.scanFrom mode place text = .ok tokens ∧ tokens.map Token.piece = pieces

theorem yields_nil (mode : Mode) : Yields mode [] [(.endOfSource, "")] := by
  intro place
  rw [Token.scanFrom]
  exact ⟨_, rfl, rfl⟩

theorem yields_cons {mode : Mode} {c : Char} {rest : List Char} {lexeme : Lexeme}
    {pieces : List Piece} (found : Lexeme.first mode c rest = .ok lexeme)
    (later : Yields lexeme.mode (rest.drop (lexeme.length - 1)) pieces) :
    Yields mode (c :: rest) (lexeme.token.toList ++ pieces) := by
  intro place
  rcases later (place.after ((c :: rest).take lexeme.length)) with ⟨tokens, scanned, rfl⟩
  rw [Token.scanFrom, found]
  dsimp only
  rw [scanned]
  refine ⟨_, rfl, ?_⟩
  cases lexeme.token <;> rfl

/-- A blank in front makes no difference. -/
theorem yields_blank {text : List Char} {pieces : List Piece}
    (visible : ∀ c ∈ text.head?, Text.isBlank c = false) (later : Yields .script text pieces) :
    Yields .script (' ' :: text) pieces := by
  have blank : Lexeme.first .script ' ' text = .ok { token := none, length := 1 } := by
    show Except.ok _ = _
    rw [← List.singleton_append, Lexeme.run_append (List.forall_mem_singleton.2 rfl) visible]
    rfl
  exact yields_cons blank later

theorem Arises.head_write {pieces : List Piece} (arises : Arises .script pieces) :
    ∀ c ∈ (write pieces).head?, Text.isBlank c = false := by
  cases arises with
  | done => exact nofun
  | closeTag later =>
    rintro _ ⟨⟩
    decide
  | script inScript later =>
    rcases inScript.spelled with ⟨c, rest, spelled⟩
    rw [write, List.flatMap_cons, spelled.text]
    rintro _ ⟨⟩
    exact spelled.visible

theorem Arises.write_opens {pieces : List Piece} (arises : Arises .inline pieces)
    (apart : ∀ piece ∈ pieces.head?, piece.1 ≠ .inlineText) :
    write pieces = [] ∨ Lexeme.Opens (write pieces) := by
  cases arises with
  | done => exact .inl rfl
  | openTag later => exact .inr ⟨_, rfl⟩
  | inlineText => exact absurd rfl (apart _ rfl)

theorem yields_inlineText {content text : List Char} {pieces : List Piece} (some : content ≠ [])
    (plain : Lexeme.inlineLength content = content.length)
    (next : text = [] ∨ Lexeme.Opens text) (later : Yields .inline text pieces) :
    Yields .inline (content ++ text) ((.inlineText, .ofList content) :: pieces) := by
  have length := Lexeme.inlineLength_append plain next
  have notTag : ¬ Lexeme.Opens (content ++ text) := by
    intro opens
    rw [Lexeme.inlineLength_of_opens opens] at length
    exact some (List.eq_nil_of_length_eq_zero length.symm)
  cases content with
  | nil => contradiction
  | cons c content =>
    have found : Lexeme.first .inline c (content ++ text) =
        .ok ⟨.some (.inlineText, .ofList (c :: content)), content.length + 1, .inline⟩ := by
      show Except.ok (Lexeme.ofInline (c :: content ++ text)) = _
      rw [Lexeme.ofInline_of_not_opens notTag, length, List.take_left, List.length_cons]
    apply yields_cons found
    rw [Nat.add_sub_cancel, List.drop_left]
    exact later

theorem yields_openTag {text : List Char} {pieces : List Piece}
    (visible : ∀ c ∈ text.head?, Text.isBlank c = false) (later : Yields .script text pieces) :
    Yields .inline ('<' :: '?' :: ' ' :: text) ((.openTag, "<?") :: pieces) := by
  have noWord : Lexeme.tagWordLength (' ' :: text) = 0 := by
    unfold Lexeme.tagWordLength
    split
    · next same =>
      cases same
      rfl
    · rfl
  have found : Lexeme.first .inline '<' ('?' :: ' ' :: text) =
      .ok ⟨some (.openTag, "<?"), 2, .script⟩ := by
    show Except.ok (Lexeme.mk _ (2 + Lexeme.tagWordLength (' ' :: text)) _) = _
    rw [noWord]
  exact yields_cons found (yields_blank visible later)

theorem yields_closeTag {text : List Char} {pieces : List Piece}
    (later : Yields .inline (text.drop (Lexeme.lineBreakLength text)) pieces) :
    Yields .script ('?' :: '>' :: text) ((.closeTag, "?>") :: pieces) := by
  have found : Lexeme.first .script '?' ('>' :: text) =
      .ok ⟨some (.closeTag, "?>"), 2 + Lexeme.lineBreakLength text, .inline⟩ := rfl
  apply yields_cons found
  dsimp only
  rw [Nat.add_comm, Nat.add_sub_assoc (by decide)]
  exact later

theorem yields_script {piece : Piece} {text : List Char} {pieces : List Piece}
    (inScript : piece.InScript) (visible : ∀ c ∈ text.head?, Text.isBlank c = false)
    (later : Yields .script text pieces) :
    Yields .script (piece.text ++ text) (piece :: pieces) := by
  rcases inScript.spelled with ⟨c, rest, spelled⟩
  rw [spelled.text, List.cons_append, List.append_assoc, List.singleton_append]
  have found : Lexeme.first .script c (rest ++ ' ' :: text) =
      .ok { token := some piece, length := rest.length + 1 } := spelled.read text
  apply yields_cons found
  rw [Nat.add_sub_cancel, List.drop_left]
  exact yields_blank visible later

/-- Pieces that arise from some text arise from their own. -/
theorem Arises.yields {mode : Mode} {pieces : List Piece} (arises : Arises mode pieces) :
    Yields mode (write pieces) pieces := by
  induction arises with
  | done mode => exact yields_nil mode
  | inlineText some plain apart later ih =>
    rw [write, List.flatMap_cons, text, String.toList_ofList]
    exact yields_inlineText some plain (later.write_opens apart) ih
  | openTag later ih => exact yields_openTag later.head_write ih
  | closeTag later ih => exact yields_closeTag ih
  | script inScript later ih => exact yields_script inScript later.head_write ih

end Piece

/-- The text of tokens. -/
def Token.write (tokens : List Token) : String :=
  .ofList (Piece.write (tokens.map Token.piece))

/-- Tokens written as text are scanned into the same tokens, up to their places. -/
theorem scan_write {source : String} {tokens : List Token}
    (scanned : Token.scan source = .ok tokens) : ∃ tokens', Token.scan (Token.write tokens) =
      .ok tokens' ∧ tokens'.map Token.piece = tokens.map Token.piece := by
  have arises : Piece.Arises .inline (tokens.map Token.piece) := Piece.arises_of_scanFrom scanned
  rw [Token.scan, Token.write, String.toList_ofList]
  exact arises.yields .start

/-- Angle brackets in inline text, a tag with its word, comments, escapes and two dollar signs. -/
def Script.greeting : String :=
  "a < b<?php # start\necho \"it\x27s\\t\\q\".$$to/* end */->\u00e9[1.50]?>\r\nbye"

theorem scan_write_of_greeting : ∃ tokens, Token.scan Script.greeting = .ok tokens ∧
    Token.write tokens =
      "a < b<? echo \x27it\\\x27s\t\\\\q\x27 . $$to -> \u00e9 [ 1.50 ] ?>\nbye" ∧
    ∃ tokens', Token.scan (Token.write tokens) = .ok tokens' ∧
      tokens'.map Token.piece = tokens.map Token.piece := by
  have written : (Token.scan Script.greeting).map Token.write =
      .ok "a < b<? echo \x27it\\\x27s\t\\\\q\x27 . $$to -> \u00e9 [ 1.50 ] ?>\nbye" := by cbv
  cases scanned : Token.scan Script.greeting with
  | error fault =>
    rw [scanned] at written
    cases written
  | ok tokens =>
    rw [scanned] at written
    exact ⟨tokens, rfl, Except.ok.inj written, scan_write scanned⟩

end TagScript
