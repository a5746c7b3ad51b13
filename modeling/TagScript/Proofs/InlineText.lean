import TagScript.Machine.Run
import TagScript.Proofs.Spelling
import TagScript.Proofs.Writing

/-!
# Text outside scripts

A source that consists of inline text and empty scripts writes its text. Only the line break right
behind a script is missing, since it belongs to the close tag (`interpret?_intercalate`).
-/

namespace TagScript

namespace Text

/-- A text without the line break that it may start with. -/
def dropLineBreak (text : String) : String :=
  match text.toList with
  | '\n' :: rest => .ofList rest
  | '\r' :: '\n' :: rest => .ofList rest
  | _ => text

end Text

/-! ## Tokens -/

namespace Lexeme

theorem inlineLength_eq_length {text : List Char} (plain : ¬ ['<', '?'] <:+: text) :
    inlineLength text = text.length := by
  induction text with
  | nil => rfl
  | cons c rest ih =>
    have notTag : ¬ Opens (c :: rest) := by
      rintro ⟨tail, same⟩
      rw [same] at plain
      exact plain (List.prefix_append ['<', '?'] tail).isInfix
    rw [inlineLength_cons notTag, ih fun inside => plain (List.infix_cons inside),
      List.length_cons]

/-- A tag behind the text is not taken for a part of its line break. -/
theorem lineBreakLength_append {text rest : List Char} (next : rest = [] ∨ Opens rest) :
    lineBreakLength (text ++ rest) = lineBreakLength text := by
  rcases next with rfl | ⟨tail, rfl⟩
  · rw [List.append_nil]
  · fun_cases lineBreakLength text with
    | case1 | case2 => rfl
    | case3 _ other other' =>
      apply lineBreakLength.eq_3
      · intro tail' same
        cases text with
        | nil => cases same
        | cons c text =>
          cases same
          exact other text rfl
      · intro tail' same
        rcases text with _ | ⟨c, _ | ⟨d, text⟩⟩
        · cases same
        · cases same
        · cases same
          exact other' text rfl

theorem toList_dropLineBreak (text : String) : (Text.dropLineBreak text).toList =
    text.toList.drop (lineBreakLength text.toList) := by
  unfold Text.dropLineBreak
  split
  · next rest same =>
    rw [same, String.toList_ofList]
    rfl
  · next rest same =>
    rw [same, String.toList_ofList]
    rfl
  · next other other' => rw [lineBreakLength.eq_3 _ other other', List.drop_zero]

end Lexeme

namespace Piece

/-- The piece of inline text that is not empty. -/
def ofText (text : String) : List Piece :=
  if text = "" then [] else [(.inlineText, text)]

/-- The pieces of texts that each follow an empty script. -/
def ofTexts (texts : List String) : List Piece :=
  texts.flatMap fun text =>
    (.openTag, "<?") :: (.closeTag, "?>") :: ofText (Text.dropLineBreak text)

/-- Texts that each follow an empty script. -/
def scripted (texts : List String) : List Char :=
  texts.flatMap fun text => "<? ?>".toList ++ text.toList

theorem scripted_opens (texts : List String) :
    scripted texts = [] ∨ Lexeme.Opens (scripted texts) := by
  cases texts with
  | nil => exact .inl rfl
  | cons text texts => exact .inr ⟨_, rfl⟩

theorem yields_ofText {text : String} {rest : List Char} {pieces : List Piece}
    (plain : ¬ ['<', '?'] <:+: text.toList) (next : rest = [] ∨ Lexeme.Opens rest)
    (later : Yields .inline rest pieces) :
    Yields .inline (text.toList ++ rest) (ofText text ++ pieces) := by
  unfold ofText
  split
  · next nothing =>
    rw [nothing]
    exact later
  · next something =>
    have content : text.toList ≠ [] := fun nothing => something (String.toList_eq_nil_iff.1 nothing)
    have read := yields_inlineText content (Lexeme.inlineLength_eq_length plain) next later
    rwa [String.ofList_toList] at read

/-- An empty script takes the line break behind it. -/
theorem yields_ofTexts {texts : List String}
    (plain : ∀ text ∈ texts, ¬ ['<', '?'] <:+: text.toList) :
    Yields .inline (scripted texts) (ofTexts texts ++ [(.endOfSource, "")]) := by
  induction texts with
  | nil => exact yields_nil .inline
  | cons text texts ih =>
    rw [List.forall_mem_cons] at plain
    have next := scripted_opens texts
    have behind : (text.toList ++ scripted texts).drop
        (Lexeme.lineBreakLength (text.toList ++ scripted texts)) =
          (Text.dropLineBreak text).toList ++ scripted texts := by
      rw [Lexeme.lineBreakLength_append next, Lexeme.toList_dropLineBreak,
        List.drop_append_of_le_length (Lexeme.lineBreakLength_le _)]
    have shorter : ¬ ['<', '?'] <:+: (Text.dropLineBreak text).toList := by
      rw [Lexeme.toList_dropLineBreak]
      exact fun inside => plain.1 (inside.trans (List.drop_suffix _ _).isInfix)
    have read := yields_ofText shorter next (ih plain.2)
    rw [← behind] at read
    have whole := yields_openTag (by rintro _ ⟨⟩; decide) (yields_closeTag read)
    rwa [← List.append_assoc] at whole

end Piece

/-! ## Programs -/

/-- The node that writes a text. -/
def Node.print (content : String) : Node :=
  .echo (.text content)

/-- The content of inline text. -/
def Piece.inlineText? (piece : Piece) : Option String :=
  if piece.1 = .inlineText then some piece.2 else none

/-- A piece that does not belong to a script. -/
def Piece.IsOutside (piece : Piece) : Prop :=
  Statement.isTag piece.1 ∨ piece.1 = .inlineText

namespace Statement

open Reader

/-- What a statement loop makes of a piece outside scripts. -/
def ofOutside (piece : Piece) : Parts :=
  (∅, piece.inlineText?.map Node.print)

/-- Text outside scripts is a statement, and a tag is none. -/
theorem leads_outside {piece : Piece} (outside : piece.IsOutside) (room : Nat) :
    ∃ item, statements? (statement (room + 1)) .endOfSource piece.1 = some item ∧
      Leads item [piece] (fun _ => True) True (pure (ofOutside piece)) := by
  obtain ⟨kind, value⟩ := piece
  rcases outside with tag | inline
  · simp only [isTag, Bool.or_eq_true, decide_eq_true_eq] at tag
    rcases tag with rfl | rfl <;>
    · refine ⟨advance *> pure (∅, none), rfl, leads_cons ?_ leads_refl⟩
      intro token rest _
      rfl
  · dsimp only at inline
    subst inline
    refine ⟨statement (room + 1), rfl, leads_cons ?_ leads_refl⟩
    rintro ⟨kind, value', place⟩ rest same
    cases same
    rfl

theorem leads_statements {pieces : List Piece} (outside : ∀ piece ∈ pieces, piece.IsOutside)
    (room : Nat) : Leads (many (statements? (statement (room + 1)) .endOfSource)) pieces
      (· = .endOfSource) True (pure (pieces.map ofOutside)) := by
  induction pieces with
  | nil =>
    refine leads_many_nil.mono ?_
    rintro _ rfl
    rfl
  | cons piece pieces ih =>
    rw [List.forall_mem_cons] at outside
    obtain ⟨item, found, reads⟩ := leads_outside outside.1 room
    have round := leads_many found reads
    have whole := round.trans ((ih outside.2).bind fun items => pure (ofOutside piece :: items))
      (starts_any fun _ => trivial)
    apply whole.congr
    simp

theorem gather_outside (pieces : List Piece) : gather (pieces.map ofOutside) =
    (∅, (pieces.filterMap Piece.inlineText?).map Node.print) := by
  induction pieces with
  | nil => rfl
  | cons piece pieces ih =>
    rw [gather, Prod.mk.injEq] at ih ⊢
    rw [List.map_cons, List.foldr_cons, ih.1, List.filterMap_cons, List.filterMap_cons, ih.2]
    refine ⟨rfl, ?_⟩
    simp only [ofOutside]
    cases piece.inlineText? <;> rfl

end Statement

open Reader in
/-- Tokens outside scripts form a program that writes their texts. -/
theorem Program.parse_outside {tokens : List Token} {pieces : List Piece}
    (outside : ∀ piece ∈ pieces, piece.IsOutside)
    (spelled : tokens.map Token.piece = pieces ++ [(.endOfSource, "")]) :
    Program.parse tokens =
      .ok ⟨[], [], .sequence ((pieces.filterMap Piece.inlineText?).map Node.print)⟩ := by
  obtain ⟨front, last, rfl, spelledFront, spelledLast⟩ := List.map_eq_append_iff.1 spelled
  obtain ⟨token, rfl, same⟩ := List.map_eq_singleton_iff.1 spelledLast
  have ends : token.kind = .endOfSource := congrArg Prod.fst same
  have list : Leads (Statement.list (Statement.statement maximumDepth) .endOfSource) pieces
      (· = .endOfSource) True (pure (Statement.gather (pieces.map Statement.ofOutside))) :=
    (Statement.leads_statements outside 255).bind fun parts => pure (Statement.gather parts)
  rw [Statement.gather_outside] at list
  have program : Leads Program.read pieces (· = .endOfSource) True (do
      if (← peekKind) = .endOfSource then
        return ⟨[], [], .sequence ((pieces.filterMap Piece.inlineText?).map Node.print)⟩
      else failHere .unexpected) := list.bind _
  rcases @program front [token] spelledFront ends with ⟨_, read⟩ | ⟨deep, _⟩
  · rw [Program.parse, StateT.run, read]
    show Except.map Prod.fst ((if token.kind = .endOfSource then pure _ else _ : Reader Program)
      [token]) = _
    rw [if_pos ends]
    rfl
  · exact absurd trivial deep

/-! ## Output -/

namespace Eval

theorem outcome?_print (steps : Nat) (content : String) (machine : Machine) :
    (statement (exec (steps + 2)) (.print content)).outcome? machine =
      some (.ok (.normal .empty), { machine with output := machine.output ++ content }) :=
  rfl

theorem outcome?_block (steps : Nat) (contents : List String) (machine : Machine) :
    (block (exec (steps + 2)) (contents.map Node.print)).outcome? machine =
      some (.ok (.normal .empty),
        { machine with output := machine.output ++ String.join contents }) := by
  induction contents generalizing machine with
  | nil => simp [block]
  | cons content contents ih =>
    rw [List.map_cons, block, outcome?_bind, outcome?_print, Option.bind_some]
    dsimp only
    rw [ih, String.join_cons, String.append_assoc]

theorem outcome?_program (steps : Nat) (contents : List String) (machine : Machine) :
    (program (steps + 3) ⟨[], [], .sequence (contents.map Node.print)⟩).outcome? machine =
      some (.ok (), { machine with output := machine.output ++ String.join contents }) := by
  have body : (statement (exec (steps + 3)) (.sequence (contents.map Node.print))).outcome?
      machine = some (.ok (.normal .empty),
        { machine with output := machine.output ++ String.join contents }) := by
    rw [statement, outcome?_bind, exec, step, outcome?_block]
    rfl
  rw [program, outcome?_bind]
  show (statement (exec (steps + 3)) _ >>= _).outcome? machine = _
  rw [outcome?_bind, body]
  rfl

end Eval

namespace Piece

theorem toList_intercalate (first : String) (rest : List String) :
    ("<? ?>".intercalate (first :: rest)).toList = first.toList ++ scripted rest := by
  induction rest generalizing first with
  | nil => rw [String.intercalate_singleton, scripted, List.flatMap_nil, List.append_nil]
  | cons text rest ih =>
    rw [String.intercalate_cons_cons, String.toList_append, String.toList_append, ih, scripted,
      scripted, List.flatMap_cons, List.append_assoc, List.append_assoc]

theorem isOutside_of_mem_ofText {text : String} {piece : Piece} (inside : piece ∈ ofText text) :
    piece.IsOutside := by
  unfold ofText at inside
  split at inside
  · contradiction
  · cases List.mem_singleton.1 inside
    exact .inr rfl

theorem isOutside_of_mem_ofTexts {texts : List String} {piece : Piece}
    (inside : piece ∈ ofTexts texts) : piece.IsOutside := by
  obtain ⟨text, _, inside⟩ := List.mem_flatMap.1 inside
  rw [List.mem_cons, List.mem_cons] at inside
  rcases inside with rfl | rfl | inside
  · exact .inl rfl
  · exact .inl rfl
  · exact isOutside_of_mem_ofText inside

theorem join_ofText (text : String) : String.join ((ofText text).filterMap inlineText?) = text := by
  unfold ofText
  split
  · next nothing => rw [nothing, List.filterMap_nil, String.join_nil]
  · simp [inlineText?]

theorem join_ofTexts (texts : List String) :
    String.join ((ofTexts texts).filterMap inlineText?) =
      String.join (texts.map Text.dropLineBreak) := by
  induction texts with
  | nil => rfl
  | cons text texts ih =>
    have split : ofTexts (text :: texts) = (.openTag, "<?") :: (.closeTag, "?>") ::
        (ofText (Text.dropLineBreak text) ++ ofTexts texts) := rfl
    rw [split, List.filterMap_cons_none rfl, List.filterMap_cons_none rfl, List.filterMap_append,
      String.join_append, join_ofText, ih, List.map_cons, String.join_cons]

end Piece

/-- Inline text between empty scripts is parsed into a program that writes it. -/
theorem Program.ofSource_intercalate {first : String} {rest : List String}
    (plain : ∀ text ∈ first :: rest, ¬ ['<', '?'] <:+: text.toList) :
    ∃ contents, String.join contents = first ++ String.join (rest.map Text.dropLineBreak) ∧
      Program.ofSource ("<? ?>".intercalate (first :: rest)) =
        .ok ⟨[], [], .sequence (contents.map Node.print)⟩ := by
  rw [List.forall_mem_cons] at plain
  have yields := Piece.yields_ofText plain.1 (Piece.scripted_opens rest)
    (Piece.yields_ofTexts plain.2)
  rw [← Piece.toList_intercalate, ← List.append_assoc] at yields
  obtain ⟨tokens, scanned, spelled⟩ := yields .start
  refine ⟨(Piece.ofText first ++ Piece.ofTexts rest).filterMap Piece.inlineText?, ?_, ?_⟩
  · rw [List.filterMap_append, String.join_append, Piece.join_ofText, Piece.join_ofTexts]
  · have parsed := Program.parse_outside (fun piece inside => by
      rcases List.mem_append.1 inside with inside | inside
      · exact Piece.isOutside_of_mem_ofText inside
      · exact Piece.isOutside_of_mem_ofTexts inside) spelled
    rw [Program.ofSource, Token.scan, scanned]
    show (Program.parse tokens).mapError Failure.parse = _
    rw [parsed]
    rfl

theorem interpret?_of_texts {first : String} {rest : List String} {steps : Nat}
    (enough : 3 ≤ steps) (plain : ∀ text ∈ first :: rest, ¬ ['<', '?'] <:+: text.toList) :
    interpret? ("<? ?>".intercalate (first :: rest)) steps =
      some (.ok (first ++ String.join (rest.map Text.dropLineBreak))) := by
  obtain ⟨contents, joined, program⟩ := Program.ofSource_intercalate plain
  obtain ⟨steps, rfl⟩ := Nat.exists_eq_add_of_le' enough
  have ran : Machine.runSource? {} ("<? ?>".intercalate (first :: rest)) (steps + 3) =
      some (.ok (), { output := first ++ String.join (rest.map Text.dropLineBreak) }) := by
    rw [Machine.runSource?, Machine.afterParsing, program]
    dsimp only
    rw [Eval.outcome?_program, joined, String.empty_append]
    rfl
  rw [interpret?, Transcript.ofSource?, ran]
  rfl

/-- Text outside scripts is written as it stands, except for a line break right behind a script. -/
theorem interpret?_intercalate (first : String) (rest : List String) {steps : Nat}
    (enough : 3 ≤ steps) (plain : ∀ text ∈ first :: rest, ¬ ['<', '?'] <:+: text.toList) :
    interpret? ("<? ?>".intercalate (first :: rest)) steps =
        some (.ok (first ++ String.join (rest.map Text.dropLineBreak))) ∧
      interpret? first steps = some (.ok first) := by
  refine ⟨interpret?_of_texts enough plain, ?_⟩
  have alone : ∀ text ∈ [first], ¬ ['<', '?'] <:+: text.toList := by
    intro text inside
    cases List.mem_singleton.1 inside
    exact plain first List.mem_cons_self
  have written := interpret?_of_texts enough alone
  rwa [String.intercalate_singleton, List.map_nil, String.join_nil, String.append_empty] at written

/-- Texts that end in half a tag, hold a close tag, are empty, or start with line breaks or with
half of one. -/
theorem interpret?_intercalate_of_edges :
    3 ≤ stepLimit ∧ (∀ text ∈ ["\na<", "?>b<", "", "\r\n\nc", "\rd", "\n"],
      ¬ ['<', '?'] <:+: text.toList) ∧
    "<? ?>".intercalate ["\na<", "?>b<", "", "\r\n\nc", "\rd", "\n"] =
      "\na<<? ?>?>b<<? ?><? ?>\r\n\nc<? ?>\rd<? ?>\n" ∧
    interpret? "\na<<? ?>?>b<<? ?><? ?>\r\n\nc<? ?>\rd<? ?>\n" =
      some (.ok "\na<?>b<\nc\rd") ∧
    interpret? "\na<" = some (.ok "\na<") := by
  have enough : 3 ≤ stepLimit := by decide
  have plain : ∀ text ∈ ["\na<", "?>b<", "", "\r\n\nc", "\rd", "\n"],
      ¬ ['<', '?'] <:+: text.toList := by decide
  have source : "<? ?>".intercalate ["\na<", "?>b<", "", "\r\n\nc", "\rd", "\n"] =
      "\na<<? ?>?>b<<? ?><? ?>\r\n\nc<? ?>\rd<? ?>\n" := by cbv
  obtain ⟨written, alone⟩ :=
    interpret?_intercalate "\na<" ["?>b<", "", "\r\n\nc", "\rd", "\n"] enough plain
  rw [source] at written
  exact ⟨enough, plain, source, written, alone⟩

end TagScript
