import TagScript.Proofs.Lexemes
import TagScript.Proofs.Loops

/-!
# Readers on spelled-out tokens

A token without its place is a piece, and a list of tokens spells a list of pieces. `Reader.Leads`
says what a reader does on tokens that spell given pieces: it goes on behind them as another reader,
or it fails because they are nested too deeply. There is one rule for each way in which the grammar
puts readers together.
-/

namespace TagScript

namespace Reader

variable {α β γ : Type}

theorem peek_bind (f : Token → Reader α) (token : Token) (rest : List Token) :
    (peek >>= f) (token :: rest) = f token (token :: rest) :=
  rfl

theorem advance_bind (f : Token → Reader α) (token : Token) (rest : List Token) :
    (advance >>= f) (token :: rest) = f token rest :=
  rfl

/-- In front of a token of a kind in `follow`, and behind tokens that spell the pieces, `x` goes on
as `y`. It fails because of the nesting exactly if the pieces do not fit. -/
def Leads (x : Reader α) (pieces : List Piece) (follow : TokenKind → Prop) (fits : Prop)
    (y : Reader α) : Prop :=
  ∀ ⦃tokens rest⦄, tokens.map Token.piece = pieces → follow (front rest).kind →
    (fits ∧ x (tokens ++ rest) = y rest) ∨
      (¬fits ∧ ∃ place, x (tokens ++ rest) = .error ⟨place, .tooDeep⟩)

/-- Whatever spells the pieces in front of a kind in `follow` starts with a kind in `p`. -/
def Starts (pieces : List Piece) (follow p : TokenKind → Prop) : Prop :=
  ∀ ⦃tokens rest⦄, tokens.map Token.piece = pieces → follow (front rest).kind →
    p (front (tokens ++ rest)).kind

variable {x y z : Reader α} {pieces more : List Piece} {follow follow' p : TokenKind → Prop}
  {fits fits' : Prop} {kind : TokenKind} {value : String}

theorem starts_cons (here : p kind) : Starts ((kind, value) :: pieces) follow p := by
  intro tokens rest spelled _
  obtain ⟨token, others, rfl, same, -⟩ := List.map_eq_cons_iff.1 spelled
  show p token.kind
  rw [show token.kind = kind from congrArg Prod.fst same]
  exact here

theorem starts_nil (here : ∀ kind, follow kind → p kind) : Starts [] follow p := by
  intro tokens rest spelled ended
  rw [List.map_eq_nil_iff.1 spelled]
  exact here _ ended

theorem starts_any (here : ∀ kind, p kind) : Starts pieces follow p :=
  fun _ _ _ _ => here _

theorem Leads.congr (leads : Leads x pieces follow fits y) (same : fits ↔ fits') :
    Leads x pieces follow fits' y := by
  intro tokens rest spelled ended
  rw [← same]
  exact leads spelled ended

theorem Leads.mono (leads : Leads x pieces follow fits y)
    (weaker : ∀ kind, follow' kind → follow kind) : Leads x pieces follow' fits y :=
  fun _ _ spelled ended => leads spelled (weaker _ ended)

theorem leads_refl : Leads x [] follow True x := by
  intro tokens rest spelled _
  rw [List.map_eq_nil_iff.1 spelled]
  exact Or.inl ⟨trivial, rfl⟩

/-- Pieces are read one after the other. -/
theorem Leads.trans (one : Leads x pieces follow fits y) (two : Leads y more follow' fits' z)
    (next : Starts more follow' follow) :
    Leads x (pieces ++ more) follow' (fits ∧ fits') z := by
  intro tokens rest spelled ended
  obtain ⟨before, behind, rfl, spelledBefore, spelledBehind⟩ := List.map_eq_append_iff.1 spelled
  rw [List.append_assoc]
  rcases one spelledBefore (next spelledBehind ended) with ⟨fit, goes⟩ | ⟨deep, fails⟩
  · rw [goes]
    rcases two spelledBehind ended with ⟨fit', goes'⟩ | ⟨deep', fails'⟩
    · exact Or.inl ⟨⟨fit, fit'⟩, goes'⟩
    · exact Or.inr ⟨fun both => deep' both.2, fails'⟩
  · exact Or.inr ⟨fun both => deep both.1, fails⟩

/-- A reader that takes one token after looking at the kind of the next one. -/
theorem leads_lookahead (step : ∀ token rest, token.piece = (kind, value) →
      p (front rest).kind → x (token :: rest) = y rest)
    (later : Leads y pieces follow fits z) (next : Starts pieces follow p) :
    Leads x ((kind, value) :: pieces) follow fits z := by
  intro tokens rest spelled ended
  obtain ⟨token, others, rfl, same, spelledOthers⟩ := List.map_eq_cons_iff.1 spelled
  rw [List.cons_append, step token (others ++ rest) same (next spelledOthers ended)]
  exact later spelledOthers ended

/-- A reader that takes one token. -/
theorem leads_cons (step : ∀ token rest, token.piece = (kind, value) → x (token :: rest) = y rest)
    (later : Leads y pieces follow fits z) : Leads x ((kind, value) :: pieces) follow fits z :=
  leads_lookahead (fun token rest same _ => step token rest same) later
    (starts_any fun _ => trivial : Starts pieces follow fun _ => True)

theorem Leads.andThen (leads : Leads x pieces follow fits y) (next : α → Reader β) :
    Leads (x >>= next) pieces follow fits (y >>= next) := by
  intro tokens rest spelled ended
  show (fits ∧ (x (tokens ++ rest) >>= fun pair => next pair.1 pair.2) = _) ∨
    (¬fits ∧ ∃ place, (x (tokens ++ rest) >>= fun pair => next pair.1 pair.2) = _)
  rcases leads spelled ended with ⟨fit, goes⟩ | ⟨deep, place, fails⟩
  · rw [goes]
    exact Or.inl ⟨fit, rfl⟩
  · rw [fails]
    exact Or.inr ⟨deep, place, rfl⟩

theorem Leads.bind {a : α} (leads : Leads x pieces follow fits (pure a)) (next : α → Reader β) :
    Leads (x >>= next) pieces follow fits (next a) :=
  leads.andThen next

/-- A mark that is not used is taken. -/
theorem leads_expect (later : Leads y pieces follow fits z) :
    Leads (expect kind >>= fun _ => y) ((kind, value) :: pieces) follow fits z := by
  apply leads_cons _ later
  intro token rest same
  have here : token.kind = kind := congrArg Prod.fst same
  show ((if token.kind = kind then advance else failHere (.expected kind)) (token :: rest) >>=
    fun pair => y pair.2) = y rest
  rw [if_pos here]
  rfl

/-- A choice by the kind of the next token. -/
theorem leads_peekKind {choose : TokenKind → Reader α} (chosen : ∀ kind, p kind → choose kind = y)
    (starts : Starts pieces follow p) (leads : Leads y pieces follow fits z) :
    Leads (peekKind >>= choose) pieces follow fits z := by
  intro tokens rest spelled ended
  show (fits ∧ choose (front (tokens ++ rest)).kind (tokens ++ rest) = _) ∨
    (¬fits ∧ ∃ place, choose (front (tokens ++ rest)).kind (tokens ++ rest) = _)
  rw [chosen _ (starts spelled ended)]
  exact leads spelled ended

theorem leads_tooDeep : Leads (tooDeep : Reader α) pieces follow False y :=
  fun _ _ _ _ => Or.inr ⟨id, _, rfl⟩

/-! ## Loops -/

variable {item? : TokenKind → Option (Reader α)} {item : Reader α} {a : α}

/-- One more round of a loop. -/
theorem leads_many (found : item? kind = some item)
    (leads : Leads item ((kind, value) :: pieces) follow fits (pure a)) :
    Leads (many item?) ((kind, value) :: pieces) follow fits
      (many item? >>= fun items => pure (a :: items)) := by
  intro tokens rest spelled ended
  have read := leads spelled ended
  obtain ⟨token, others, rfl, same, -⟩ := List.map_eq_cons_iff.1 spelled
  have starts : item? (front (token :: others ++ rest)).kind = some item := by
    rw [← found]
    exact congrArg item? (congrArg Prod.fst same)
  have shorter : rest.length < (token :: others ++ rest).length := by
    simp only [List.length_append, List.length_cons]
    omega
  rcases read with ⟨fit, goes⟩ | ⟨deep, place, fails⟩
  · left
    refine ⟨fit, ?_⟩
    rw [many_of_ok starts goes shorter]
    show _ = (many item? rest >>= fun pair => pure (a :: pair.1, pair.2))
    cases many item? rest <;> rfl
  · exact Or.inr ⟨deep, place, many_of_error starts fails⟩

/-- The end of a loop. -/
theorem leads_many_nil : Leads (many item?) [] (fun kind => item? kind = none) True (pure []) := by
  intro tokens rest spelled ended
  rw [List.map_eq_nil_iff.1 spelled, List.nil_append]
  exact Or.inl ⟨trivial, many_of_none ended⟩

/-- A whole loop over items that start with the same mark. -/
theorem leads_many_list {parts : List γ} {write : γ → List Piece} {result : γ → α}
    {fitting : γ → Prop}
    (each : ∀ part ∈ parts, Leads item ((kind, value) :: write part) follow (fitting part)
      (pure (result part)))
    (again : follow kind) (last : ∀ other, follow' other → follow other ∧ other ≠ kind) :
    Leads (many fun other => if other = kind then some item else none)
      (parts.flatMap fun part => (kind, value) :: write part) follow'
      (∀ part ∈ parts, fitting part) (pure (parts.map result)) := by
  induction parts with
  | nil =>
    have ends : Leads (many fun other => if other = kind then some item else none) []
        (fun other => (if other = kind then some item else none) = none) True (pure []) :=
      leads_many_nil
    apply (ends.mono fun other ended => if_neg (last other ended).2).congr
    simp
  | cons part parts ih =>
    have first := each part List.mem_cons_self
    have others := ih fun part inside => each part (List.mem_cons_of_mem _ inside)
    have round : Leads (many fun other => if other = kind then some item else none)
        ((kind, value) :: write part) follow (fitting part) (_ >>= fun items =>
          pure (result part :: items)) := leads_many (if_pos rfl) first
    have whole := round.trans (others.bind fun items => pure (result part :: items)) (by
      cases parts with
      | nil => exact starts_nil fun other ended => (last other ended).1
      | cons second parts => exact starts_cons again)
    apply whole.congr
    simp

/-- A loop that folds its items into what it started with. -/
def folding (item? : TokenKind → Option (Reader α)) (combine : β → α → β) (start : β) :
    Reader β := do
  let items ← many item?
  return items.foldl combine start

variable {combine : β → α → β} {start : β}

theorem leads_folding (found : item? kind = some item)
    (leads : Leads item ((kind, value) :: pieces) follow fits (pure a)) :
    Leads (folding item? combine start) ((kind, value) :: pieces) follow fits
      (folding item? combine (combine start a)) := by
  have round := (leads_many found leads).andThen fun items => pure (items.foldl combine start)
  rw [bind_assoc] at round
  exact round

theorem leads_folding_nil :
    Leads (folding item? combine start) [] (fun kind => item? kind = none) True (pure start) :=
  leads_many_nil.bind fun items => pure (items.foldl combine start)

/-! ## Lists in parentheses -/

/-- The pieces of arguments with commas between them. -/
def separated : List (List Piece) → List Piece
  | [] => []
  | first :: others => first ++ others.flatMap fun other => (.comma, ",") :: other

/-- The pieces of arguments in parentheses. -/
def enclosed (parts : List (List Piece)) : List Piece :=
  (.leftParen, "(") :: (separated parts ++ [(.rightParen, ")")])

section Lists

variable {parts : List γ} {write : γ → List Piece} {result : γ → α} {fitting : γ → Prop}

theorem leads_commaSeparated {part : γ}
    (each : ∀ other ∈ part :: parts, Leads item (write other) follow (fitting other)
      (pure (result other)))
    (comma : follow .comma) (last : ∀ kind, follow' kind → follow kind ∧ kind ≠ .comma) :
    Leads (commaSeparated item) (separated ((part :: parts).map write)) follow'
      (∀ other ∈ part :: parts, fitting other) (pure ((part :: parts).map result)) := by
  have others : ∀ other ∈ parts, Leads (advance *> item) ((.comma, ",") :: write other) follow
      (fitting other) (pure (result other)) := by
    intro other inside
    apply leads_cons _ (each other (List.mem_cons_of_mem _ inside))
    intro token rest _
    rfl
  have loop : Leads (many (others? item)) _ _ _ _ := leads_many_list others comma last
  have first := (each part List.mem_cons_self).bind fun head => do
    let tail ← many (others? item)
    return head :: tail
  have whole := first.trans (loop.bind fun tail => pure (result part :: tail)) (by
    cases parts with
    | nil => exact starts_nil fun kind ended => (last kind ended).1
    | cons second parts => exact starts_cons comma)
  rw [List.map_cons, separated, List.flatMap_map]
  apply whole.congr
  simp

/-- Arguments that can each stand in front of a comma and of a closing parenthesis. -/
theorem leads_parenthesized
    (each : ∀ part ∈ parts, Leads item (write part) follow (fitting part) (pure (result part)))
    (opens : ∀ part ∈ parts, ∃ piece others, write part = piece :: others ∧ piece.1 ≠ .rightParen)
    (comma : follow .comma) (close : follow .rightParen) :
    Leads (parenthesized item) (enclosed (parts.map write)) (fun _ => True)
      (∀ part ∈ parts, fitting part) (pure (parts.map result)) := by
  have closed (items : List α) : Leads (expect .rightParen >>= fun _ => pure items)
      [(.rightParen, ")")] (fun _ => True) True (pure items) := leads_expect leads_refl
  apply leads_expect
  cases parts with
  | nil =>
    apply leads_peekKind (p := fun kind => kind = .rightParen)
      (y := pure [] >>= fun items => expect .rightParen >>= fun _ => pure items)
    · intro kind same
      exact if_pos same
    · exact starts_cons rfl
    · apply (closed []).congr
      simp
  | cons part parts =>
    obtain ⟨piece, others, starts, notClose⟩ := opens part List.mem_cons_self
    have last : ∀ kind, kind = TokenKind.rightParen → follow kind ∧ kind ≠ .comma := by
      rintro _ rfl
      exact ⟨close, by decide⟩
    have list := (leads_commaSeparated each comma last).bind fun items =>
      expect .rightParen >>= fun _ => pure items
    have whole := list.trans (closed _) (starts_cons rfl)
    apply leads_peekKind (p := fun kind => kind ≠ .rightParen)
      (y := commaSeparated item >>= fun items => expect .rightParen >>= fun _ => pure items)
    · intro kind other
      exact if_neg other
    · rw [List.map_cons, separated, starts]
      exact starts_cons notClose
    · apply whole.congr
      simp

end Lists

end Reader

end TagScript
