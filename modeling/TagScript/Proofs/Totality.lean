import TagScript.Proofs.Parsing
import TagScript.Proofs.Scanning

/-!
# Every source is read safely

Scanning and parsing a source ends with a program or with a fault, and nothing goes wrong on the way
(`isReadSafely`): lexemes lie in their text, the tokens end with the only mark of the end, no reader
looks behind it, every round of a loop takes a token, and a program is made of all tokens.

The nesting is bounded by the recursion of the readers. `Counted.read` is the same grammar over a
counter of levels, which goes up where a statement, an expression or a negation is entered and down
where it is left, with a result or with a fault. The counter outlives a fault, and there is none any
more once it would have gone below zero. With the bound and with the counter the same is read, and
the counter ends at zero, or one above when there was no room for a level.
-/

namespace TagScript

open Reader

/-! ## The counter -/

namespace Counted

variable {α : Type}

/-- Computations with a counter that is kept when they fail. There is none any more once it would
have gone below zero, and nothing that follows brings it back. -/
abbrev Counting := ExceptT (Located ParseFault) (StateM (Option Nat))

/-- Counts one level more. It is a fault if there are more than allowed, and the level stays
counted. -/
def enter (token : Token) : Counting Unit := do
  modify (Option.map (· + 1))
  if (← get).any (maximumDepth < ·) then throw ⟨token.position, .tooDeep⟩

/-- One less, if that is not below zero. -/
def lower? : Nat → Option Nat
  | 0 => none
  | depth + 1 => some depth

/-- Counts one level less behind a computation, with a result or with a fault. -/
def leaving (x : Counting α) : Counting α := .mk do
  let result ← x.run
  modify (·.bind lower?)
  return result

/-- Reads on a level of its own. -/
def nested (x : Reading Counting α) : Reading Counting α := fun tokens => do
  enter (front tokens)
  leaving (x tokens)

/-- Loses count. -/
def runaway : Reading Counting α := fun tokens => do
  set (none : Option Nat)
  throw ⟨(front tokens).position, .tooDeep⟩

/-- An operand. The bound only makes the recursion end; whoever reaches it loses count. -/
def operand : Nat → Reading Counting Node
  | 0 => runaway
  | bound + 1 =>
    Expression.operandWith (nested (operand bound)) (nested (Expression.binary (operand bound)))

/-- An expression. -/
def expression (bound : Nat) : Reading Counting Node :=
  nested (Expression.binary (operand bound))

/-- A statement. -/
def statement : Nat → Reading Counting Statement.Parts
  | 0 => runaway
  | bound + 1 => nested (Statement.statementWith (statement bound) (expression bound))

/-- A program. -/
def read : Reading Counting Program :=
  Program.readWith (statement (maximumDepth + 1))

/-- What a computation comes to from so many levels, and the counter in the end. -/
def count (x : Counting α) (depth : Nat) : Except (Located ParseFault) α × Option Nat :=
  (x.run.run (some depth)).run

/-- How many levels stay entered at such an end. -/
def overrun : Except (Located ParseFault) α → Nat
  | .ok _ => 0
  | .error fault => fault.cause.overrun

theorem count_bind {β : Type} {x : Counting α} {f : α → Counting β} {a : α} {d e : Nat}
    (first : count x d = (.ok a, some e)) : count (x >>= f) d = count (f a) e := by
  show (ExceptT.bindCont f (count x d).1 (count x d).2).run = _
  rw [first]
  rfl

/-- From so many levels, a computation leaves all levels that it enters. -/
def outcome (depth : Nat) : Outcome Counting where
  Yields x result := count x depth = (result, some (depth + overrun result))
  pure _ := rfl
  throw := by
    intro α fault shallow
    show (Except.error fault, some depth) = (Except.error fault, some (depth + fault.cause.overrun))
    rw [shallow, Nat.add_zero]
  bind := by
    intro α β x f a result first second
    rw [count_bind first]
    exact second
  fail := by
    intro α β x f fault fails
    show (ExceptT.bindCont f (count x depth).1 (count x depth).2).run = _
    rw [fails]
    rfl

variable {p : TokenKind → Prop} {n d room bound : Nat} {x : Reading Counting α} {y : Reader α}
  {tokens : List Token}

theorem count_enter (free : d < maximumDepth) (token : Token) :
    count (enter token) d = (.ok (), some (d + 1)) := by
  have within : (some (d + 1)).any (maximumDepth < ·) = false :=
    decide_eq_false (Nat.not_lt.2 free)
  show count (if (some (d + 1)).any (maximumDepth < ·) then throw ⟨token.position, .tooDeep⟩
    else pure ()) (d + 1) = _
  rw [within]
  rfl

/-- Where there is room for a level, it is entered, and left however the reading ends. -/
theorem yields_nested {result : Except (Located ParseFault) (α × List Token)}
    (free : d < maximumDepth) (inner : (outcome (d + 1)).Yields (x tokens) result) :
    (outcome d).Yields (nested x tokens) result := by
  show count (enter (front tokens) >>= fun _ => leaving (x tokens)) d = _
  rw [count_bind (count_enter free _)]
  show ((count (x tokens) (d + 1)).1, (count (x tokens) (d + 1)).2.bind lower?) = _
  rw [inner, Nat.add_right_comm]
  rfl

/-- Where there is none, the level stays entered. -/
theorem yields_nested_full : (outcome maximumDepth).Yields (nested x tokens)
    (.error ⟨(front tokens).position, .tooDeep⟩) :=
  rfl

theorem agree_nested (free : d < maximumDepth) (agree : Agree (outcome (d + 1)) [] p n x y) :
    Agree (outcome d) [] p n (nested x) y := by
  intro body last closed starts
  rcases agree closed starts with
    ⟨fault, failsX, failsY⟩ | ⟨a, taken, left, split, least, readX, readY⟩
  · exact Or.inl ⟨fault, yields_nested free failsX, failsY⟩
  · exact Or.inr ⟨a, taken, left, split, least, yields_nested free readX, readY⟩

/-- A nested reader that there is no room for fails. -/
theorem agree_nested_full : Agree (outcome maximumDepth) [] p n (nested x) (tooDeep : Reader α) :=
  fun _ _ _ _ => Or.inl ⟨_, yields_nested_full, rfl⟩

theorem agree_operand (total : d + room = maximumDepth) (enough : room < bound) :
    Agree (outcome d) [] (fun _ => True) 1 (operand bound) (Expression.operand room) := by
  induction room generalizing d bound with
  | zero =>
    obtain ⟨bound, rfl⟩ := Nat.exists_eq_succ_of_ne_zero (Nat.ne_of_gt enough)
    obtain rfl : d = maximumDepth := total
    exact Expression.agree_operandWith TokenKind.mem_boundaries_of_end agree_nested_full
      agree_nested_full
  | succ room ih =>
    obtain ⟨bound, rfl⟩ := Nat.exists_eq_succ_of_ne_zero (Nat.ne_of_gt (Nat.zero_lt_of_lt enough))
    have inner : Agree (outcome (d + 1)) [] (fun _ => True) 1 (operand bound)
        (Expression.operand room) := ih (by omega) (Nat.lt_of_succ_lt_succ enough)
    exact Expression.agree_operandWith TokenKind.mem_boundaries_of_end
      (agree_nested (by omega) (Expression.agree_binary TokenKind.mem_boundaries_of_end inner))
      (agree_nested (by omega) inner)

theorem agree_expression (total : d + room = maximumDepth) (enough : room ≤ bound) :
    Agree (outcome d) [] (fun _ => True) 1 (expression bound) (Node.readExpression room) := by
  cases room with
  | zero =>
    obtain rfl : d = maximumDepth := total
    exact agree_nested_full
  | succ room =>
    have inner : Agree (outcome (d + 1)) [] (fun _ => True) 1 (operand bound)
        (Expression.operand room) := agree_operand (by omega) enough
    exact agree_nested (by omega) (Expression.agree_binary TokenKind.mem_boundaries_of_end inner)

theorem agree_statement (total : d + room = maximumDepth) (enough : room < bound) :
    Agree (outcome d) [] (fun _ => True) 1 (statement bound) (Statement.statement room) := by
  induction room generalizing d bound with
  | zero =>
    obtain ⟨bound, rfl⟩ := Nat.exists_eq_succ_of_ne_zero (Nat.ne_of_gt enough)
    obtain rfl : d = maximumDepth := total
    exact agree_nested_full
  | succ room ih =>
    obtain ⟨bound, rfl⟩ := Nat.exists_eq_succ_of_ne_zero (Nat.ne_of_gt (Nat.zero_lt_of_lt enough))
    have inner : Agree (outcome (d + 1)) [] (fun _ => True) 1 (statement bound)
        (Statement.statement room) := ih (by omega) (Nat.lt_of_succ_lt_succ enough)
    exact agree_nested (by omega)
      (Statement.agree_statementWith inner (agree_expression (by omega) (by omega)))

end Counted

/-! ## Whole programs -/

theorem Program.agree_readWith {m : Type → Type} [Monad m] [MonadExceptOf (Located ParseFault) m]
    {M : Outcome m} {behind : List Token} {s : Reading m Statement.Parts}
    {t : Reader Statement.Parts} (statements : Agree M behind (fun _ => True) 1 s t) :
    Agree M behind (fun _ => True) 0 (Program.readWith s) (Program.readWith t) := by
  apply (Statement.agree_list statements _).bind
  intro parts
  apply agree_peekKind
  intro kind _
  apply AgreeBy.ite
  · intro _
    exact agree_pure _
  · intro _
    exact agree_failHere _ fun _ => rfl

/-- What is left of the tokens starts with the mark of the end. -/
theorem Program.front_of_read {tokens rest : List Token} {program : Program}
    (read : Program.read tokens = .ok (program, rest)) : (front rest).kind = .endOfSource := by
  obtain ⟨parts, middle, -, read⟩ := read_of_bind read
  obtain ⟨kind, _, ⟨⟩, read⟩ := read_of_bind read
  split at read
  · next ended =>
    cases read
    exact ended
  · cases read

/-- Whatever stands behind the end, reading a program is the same and does not touch it. -/
theorem Program.read_append {tokens : List Token} (closed : Token.AreClosed tokens)
    (behind : List Token) : Program.read (tokens ++ behind) =
      (Program.read tokens).map fun read => (read.1, read.2 ++ behind) := by
  obtain ⟨body, last, rfl, closed⟩ := closed
  have agree : Agree .itself behind (fun _ => True) 0 Program.read Program.read :=
    Program.agree_readWith (Statement.agree_statement behind maximumDepth)
  rw [List.append_assoc, List.singleton_append]
  rcases agree closed trivial with
    ⟨fault, fails, fails'⟩ | ⟨program, taken, left, -, -, read, read'⟩
  · rw [fails, fails']
    rfl
  · rw [read, read']
    show _ = Except.ok (program, left ++ [last] ++ behind)
    rw [List.append_assoc, List.singleton_append]

/-- A program is made of all tokens in front of the end. -/
theorem Program.eq_of_read {body rest : List Token} {last : Token} {program : Program}
    (closed : Closed body last) (read : Program.read (body ++ [last]) = .ok (program, rest)) :
    rest = [last] := by
  have agree : Agree .itself [] (fun _ => True) 0 Program.read Program.read :=
    Program.agree_readWith (Statement.agree_statement [] maximumDepth)
  rcases agree closed trivial with ⟨fault, fails, -⟩ | ⟨_, taken, left, rfl, -, read', -⟩
  · rw [read] at fails
    cases fails
  · rw [read] at read'
    cases read'
    cases left with
    | nil => rfl
    | cons token left =>
      have ended : token.kind = .endOfSource := Program.front_of_read read
      exact absurd ended (closed.suffix.body token List.mem_cons_self)

/-- Reading with the counter is reading, and all levels are left. -/
theorem Counted.count_read {tokens : List Token} (closed : Token.AreClosed tokens) :
    count (read tokens) 0 = (Program.read tokens, some (overrun (Program.read tokens))) := by
  obtain ⟨body, last, rfl, closed⟩ := closed
  have agree : Agree (outcome 0) [] (fun _ => True) 0 read Program.read :=
    Program.agree_readWith (agree_statement (Nat.zero_add _) (Nat.lt_succ_self _))
  have counted : (outcome 0).Yields (read (body ++ [last])) (Program.read (body ++ [last])) := by
    rcases agree closed trivial with
      ⟨fault, fails, fails'⟩ | ⟨program, taken, left, -, -, read, read'⟩
    · rw [fails']
      exact fails
    · rw [read']
      exact read
  rw [counted, Nat.zero_add]

/-! ## Loops -/

variable {α : Type} {item? : TokenKind → Option (Reader α)}

theorem Loop.rel (loop : Loop item?) (kind : TokenKind) :
    Option.Rel (Agree .itself [] (· = kind) 1) (item? kind) (item? kind) := by
  have few := TokenKind.mem_boundaries_of_end
  have statements := Statement.agree_statement []
  have expressions := Node.agree_readExpression few []
  have operands := Expression.agree_operand few []
  have products (room : Nat) := Expression.agree_chain
    (fun _ ended => BinaryOperator.multiplicative?_eq_none _ (few _ ended)) (operands room)
  have sums (room : Nat) := Expression.agree_chain
    (fun _ ended => BinaryOperator.additive?_eq_none _ (few _ ended)) (products room)
  cases loop with
  | statements room last => exact Statement.rel_statements? (statements room) last kind
  | tags => exact Statement.rel_tags? kind
  | members room => exact Statement.rel_members? (statements room) (expressions room) kind
  | parameters => exact rel_others? few (agree_expect (by decide)) kind
  | arguments room => exact rel_others? few (expressions room) kind
  | subscripts room => exact Expression.rel_keys? few (expressions room) kind
  | accesses room => exact Expression.rel_accesses? few (expressions room) kind
  | products room =>
    exact Expression.rel_operations?
      (fun _ ended => BinaryOperator.multiplicative?_eq_none _ (few _ ended)) (operands room) kind
  | sums room =>
    exact Expression.rel_operations?
      (fun _ ended => BinaryOperator.additive?_eq_none _ (few _ ended)) (products room) kind
  | comparisons room =>
    exact Expression.rel_operations?
      (fun _ ended => BinaryOperator.comparison?_eq_none _ (few _ ended)) (sums room) kind

/-- A round of a loop takes a token, or fails. -/
theorem Loop.length_lt (loop : Loop item?) {tokens rest : List Token} {item : Reader α} {a : α}
    (closed : Token.AreClosed tokens) (found : item? (front tokens).kind = some item)
    (read : item tokens = .ok (a, rest)) : rest.length < tokens.length := by
  obtain ⟨body, last, rfl, closed⟩ := closed
  have rel := loop.rel (front (body ++ [last])).kind
  rw [found] at rel
  cases rel with
  | some agree =>
    rcases agree closed rfl with ⟨fault, -, fails⟩ | ⟨_, taken, left, rfl, least, -, read'⟩
    · rw [read] at fails
      cases fails
    · rw [read] at read'
      cases read'
      simp only [List.length_append]
      omega

/-! ## Sources -/

/-- Reading a source ends, and nothing goes wrong on the way. -/
structure IsReadSafely (source : String) : Prop where
  /-- There is a program or a fault. -/
  answers : (∃ fault, Program.ofSource source = .error (.scan fault)) ∨
    (∃ fault, Program.ofSource source = .error (.parse fault)) ∨
    ∃ program, Program.ofSource source = .ok program
  /-- Wherever a lexeme starts, it takes at least one character and no more than there are. -/
  lexemes : ∀ mode c rest, Lexeme.InBounds (c :: rest) (Lexeme.first mode c rest)
  /-- The end is marked once, by the last token. -/
  closed : ∀ tokens, Token.scan source = .ok tokens → Token.AreClosed tokens
  /-- No token behind the end is looked at. -/
  confined : ∀ tokens, Token.scan source = .ok tokens → ∀ behind,
    Program.read (tokens ++ behind) =
      (Program.read tokens).map fun read => (read.1, read.2 ++ behind)
  /-- Every round of a loop takes a token, or fails. -/
  rounds : ∀ {α : Type} {item? : TokenKind → Option (Reader α)}, Loop item? → ∀ tokens item a rest,
    Token.AreClosed tokens → item? (front tokens).kind = some item →
    item tokens = .ok (a, rest) → rest.length < tokens.length
  /-- A counter of levels does the same as the bound on the nesting. Whether reading succeeds or
  fails, the counter has not gone below zero and all levels have been left in the end, but for the
  one that there was no room for. -/
  counted : ∀ tokens, Token.scan source = .ok tokens →
    Counted.count (Counted.read tokens) 0 =
      (Program.read tokens, some (Counted.overrun (Program.read tokens)))
  /-- When a program has been read, only the end is left, and the counter is at zero. -/
  whole : ∀ tokens program rest, Token.scan source = .ok tokens →
    Program.read tokens = .ok (program, rest) →
    (∃ body last, tokens = body ++ [last] ∧ rest = [last]) ∧
      Counted.count (Counted.read tokens) 0 = (.ok (program, rest), some 0)

theorem isReadSafely (source : String) : IsReadSafely source := by
  constructor
  case answers =>
    unfold Program.ofSource
    cases Token.scan source with
    | error fault => exact Or.inl ⟨fault, rfl⟩
    | ok tokens =>
      show (∃ fault, (Program.parse tokens).mapError Failure.parse = .error (.scan fault)) ∨
        (∃ fault, (Program.parse tokens).mapError Failure.parse = .error (.parse fault)) ∨
        ∃ program, (Program.parse tokens).mapError Failure.parse = .ok program
      cases Program.parse tokens with
      | error fault => exact Or.inr (Or.inl ⟨fault, rfl⟩)
      | ok program => exact Or.inr (Or.inr ⟨program, rfl⟩)
  case lexemes => exact Lexeme.inBounds_first
  case closed =>
    intro tokens scanned
    exact Token.areClosed_of_scan scanned
  case confined =>
    intro tokens scanned
    exact Program.read_append (Token.areClosed_of_scan scanned)
  case rounds =>
    intro α item? loop tokens item a rest closed found read
    exact loop.length_lt closed found read
  case counted =>
    intro tokens scanned
    exact Counted.count_read (Token.areClosed_of_scan scanned)
  case whole =>
    intro tokens program rest scanned read
    have counted := Counted.count_read (Token.areClosed_of_scan scanned)
    rw [read] at counted
    obtain ⟨body, last, rfl, closed⟩ := Token.areClosed_of_scan scanned
    exact ⟨⟨body, last, rfl, Program.eq_of_read closed read⟩, counted⟩

end TagScript
