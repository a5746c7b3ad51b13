import Mathlib.Data.Option.Basic
import TagScript.Proofs.Loops

/-!
# Readers stay in front of the end

The tokens of a source end with a mark of its end. No reader of the grammar takes that mark or looks
behind it, and the readers that loops and nested readers rely on take at least one token.
`Reader.Agree` says so of two readers at once: the first runs with other tokens behind the end, the
second without. So it also relates two readers that differ in what they do with the tokens behind
the end. There is one rule for each way of putting readers together, and one for each reader of the
grammar. Readers of expressions also stop at the tokens that a statement can end with, so for them
the end may be the first of those (`Reader.AgreeBy`).
-/

namespace TagScript

/-- Tokens followed by one that ends them. No token before it does. -/
structure ClosedBy (ends : TokenKind → Prop) (body : List Token) (last : Token) : Prop where
  last : ends last.kind
  body : ∀ token ∈ body, ¬ ends token.kind

theorem ClosedBy.suffix {ends : TokenKind → Prop} {taken left : List Token} {last : Token}
    (closed : ClosedBy ends (taken ++ left) last) : ClosedBy ends left last :=
  ⟨closed.last, fun token inside => closed.body token (List.mem_append_right taken inside)⟩

/-- Tokens followed by the mark of the end, which occurs nowhere before. -/
abbrev Closed (body : List Token) (last : Token) : Prop :=
  ClosedBy (· = .endOfSource) body last

namespace TokenKind

/-- The kinds of tokens that a statement can end with. No expression contains one. -/
def closers : List TokenKind :=
  [semicolon, rightBrace, openTag, closeTag, inlineText]

/-- The kinds of tokens that an expression stops at. -/
def boundaries : List TokenKind :=
  endOfSource :: closers

theorem mem_boundaries_of_end (kind : TokenKind) (ended : kind = endOfSource) :
    kind ∈ boundaries := by
  subst ended
  exact List.mem_cons_self

end TokenKind

namespace Reader

variable {m : Type → Type} [Monad m] [MonadExceptOf (Located ParseFault) m] {α β : Type}

/-- In front of a token of a kind in `p`, `x` comes to the same with tokens behind the end as `y`
without them. Both fail alike, or both read the same and take the same tokens in front of the end, at
least so many. The end is the first token of a kind in `ends`. -/
def AgreeBy (M : Outcome m) (ends : TokenKind → Prop) (behind : List Token) (p : TokenKind → Prop)
    (least : Nat) (x : Reading m α) (y : Reader α) : Prop :=
  ∀ ⦃body last⦄, ClosedBy ends body last → p (front (body ++ [last])).kind →
    (∃ fault, M.Yields (x (body ++ last :: behind)) (.error fault) ∧
      y (body ++ [last]) = .error fault) ∨
    ∃ a taken left, body = taken ++ left ∧ least ≤ taken.length ∧
      M.Yields (x (body ++ last :: behind)) (.ok (a, left ++ last :: behind)) ∧
      y (body ++ [last]) = .ok (a, left ++ [last])

/-- Agreement in front of the end of the source. -/
abbrev Agree (M : Outcome m) (behind : List Token) (p : TokenKind → Prop) (least : Nat)
    (x : Reading m α) (y : Reader α) : Prop :=
  AgreeBy M (· = .endOfSource) behind p least x y

variable {M : Outcome m} {ends : TokenKind → Prop} {behind : List Token} {p q : TokenKind → Prop}
  {k n : Nat} {x : Reading m α} {y : Reader α}

theorem front_append (body behind : List Token) (last : Token) :
    front (body ++ last :: behind) = front (body ++ [last]) := by
  cases body <;> rfl

theorem AgreeBy.weaken (agree : AgreeBy M ends behind p k x y) (le : n ≤ k)
    (narrower : ∀ kind, q kind → p kind) : AgreeBy M ends behind q n x y := by
  intro body last closed starts
  rcases agree closed (narrower _ starts) with failed | ⟨a, taken, left, split, least, reads⟩
  · exact Or.inl failed
  · exact Or.inr ⟨a, taken, left, split, Nat.le_trans le least, reads⟩

theorem AgreeBy.lax (agree : AgreeBy M ends behind p k x y) : AgreeBy M ends behind p 0 x y :=
  agree.weaken (Nat.zero_le k) fun _ => id

/-- A reader that can stand anywhere. -/
theorem AgreeBy.anywhere (agree : AgreeBy M ends behind (fun _ => True) k x y) :
    AgreeBy M ends behind q k x y :=
  agree.weaken (Nat.le_refl k) fun _ _ => trivial

theorem agree_pure (a : α) : AgreeBy M ends behind p 0 (pure a) (pure a) := by
  intro body last _ _
  exact Or.inr ⟨a, [], body, rfl, Nat.le_refl 0, M.pure _, rfl⟩

theorem agree_failAt (token : Token) (cause : ParseFault) (shallow : cause.overrun = 0) :
    AgreeBy M ends behind p n (failAt token cause : Reading m α) (failAt token cause) := by
  intro body last _ _
  exact Or.inl ⟨_, yields_failAt M token shallow _, rfl⟩

/-- How many tokens are taken is known from the first of two readers. -/
theorem AgreeBy.bind {f : α → Reading m β} {g : α → Reader β}
    (first : AgreeBy M ends behind p k x y)
    (second : ∀ a, AgreeBy M ends behind (fun _ => True) 0 (f a) (g a)) :
    AgreeBy M ends behind p k (x >>= f) (y >>= g) := by
  intro body last closed starts
  rcases first closed starts with
    ⟨fault, failsX, failsY⟩ | ⟨a, taken, left, rfl, least, readX, readY⟩
  · exact Or.inl ⟨fault, M.fail failsX, Outcome.itself.fail failsY⟩
  · rcases second a closed.suffix trivial with
      ⟨fault, failsX, failsY⟩ | ⟨b, more, left, rfl, -, laterX, laterY⟩
    · exact Or.inl ⟨fault, M.bind readX failsX, Outcome.itself.bind readY failsY⟩
    · refine Or.inr ⟨b, taken ++ more, left, ?_, ?_, M.bind readX laterX,
        Outcome.itself.bind readY laterY⟩
      · rw [List.append_assoc]
      · rw [List.length_append]
        omega

/-- A reader that only looks at the first token, and what it goes on with. -/
theorem agree_of_look (see : Token → β) {look : Reading m β} {look' : Reader β}
    {f : β → Reading m α} {g : β → Reader α}
    (sees : ∀ tokens, M.Yields (look tokens) (.ok (see (front tokens), tokens)))
    (sees' : ∀ tokens, look' tokens = .ok (see (front tokens), tokens))
    (each : ∀ token, p token.kind →
      AgreeBy M ends behind (· = token.kind) n (f (see token)) (g (see token))) :
    AgreeBy M ends behind p n (look >>= f) (look' >>= g) := by
  intro body last closed starts
  have seen := sees (body ++ last :: behind)
  have seen' := sees' (body ++ [last])
  rw [front_append] at seen
  rcases each _ starts closed rfl with
    ⟨fault, failsX, failsY⟩ | ⟨a, taken, left, split, least, readX, readY⟩
  · exact Or.inl ⟨fault, M.bind seen failsX, Outcome.itself.bind seen' failsY⟩
  · exact Or.inr ⟨a, taken, left, split, least, M.bind seen readX,
      Outcome.itself.bind seen' readY⟩

theorem agree_peek {f : Token → Reading m α} {g : Token → Reader α}
    (each : ∀ token, p token.kind → AgreeBy M ends behind (· = token.kind) n (f token) (g token)) :
    AgreeBy M ends behind p n (peek >>= f) (peek >>= g) :=
  agree_of_look id (yields_peek M) (fun _ => rfl) each

theorem agree_peekKind {f : TokenKind → Reading m α} {g : TokenKind → Reader α}
    (each : ∀ kind, p kind → AgreeBy M ends behind (· = kind) n (f kind) (g kind)) :
    AgreeBy M ends behind p n (peekKind >>= f) (peekKind >>= g) :=
  agree_of_look Token.kind (yields_peekKind M) (fun _ => rfl) fun token => each token.kind

theorem agree_pure_bind {f : β → Reading m α} {g : β → Reader α} (b : β)
    (agree : AgreeBy M ends behind p n (f b) (g b)) :
    AgreeBy M ends behind p n (pure b >>= f) (pure b >>= g) := by
  apply agree_of_look (fun _ => b) (fun tokens => M.pure (b, tokens)) fun _ => rfl
  intro token starts
  apply agree.weaken (Nat.le_refl n)
  rintro _ rfl
  exact starts

theorem agree_failHere (cause : Token → ParseFault) (shallow : ∀ token, (cause token).overrun = 0) :
    AgreeBy M ends behind p n (failHere cause : Reading m α) (failHere cause) :=
  agree_peek fun token _ => agree_failAt token (cause token) (shallow token)

/-- Whatever would follow a failure. -/
theorem agree_failHere_bind {f : α → Reading m β} {g : α → Reader β} (cause : Token → ParseFault)
    (shallow : ∀ token, (cause token).overrun = 0) :
    AgreeBy M ends behind p n (failHere cause >>= f) (failHere cause >>= g) := by
  intro body last closed starts
  left
  refine ⟨⟨(front (body ++ [last])).position, cause (front (body ++ [last]))⟩, ?_, rfl⟩
  rw [← front_append body behind last]
  exact M.fail (yields_failHere M shallow _)

theorem agree_tooDeep : AgreeBy .itself ends behind p n (tooDeep : Reader α) tooDeep := by
  intro body last _ _
  left
  refine ⟨⟨(front (body ++ [last])).position, .tooDeep⟩, ?_, rfl⟩
  rw [← front_append body behind last]
  rfl

/-- The end is not taken. -/
theorem agree_advance {kind : TokenKind} (inside : ¬ ends kind) :
    AgreeBy M ends behind (· = kind) 1 advance advance := by
  rintro body last closed rfl
  cases body with
  | nil => exact absurd closed.last inside
  | cons token body =>
    exact Or.inr ⟨token, [token], body, rfl, Nat.le_refl 1, yields_advance M _, rfl⟩

theorem AgreeBy.ite {x' : Reading m α} {y' : Reader α} {condition : Prop} [Decidable condition]
    (holds : condition → AgreeBy M ends behind p n x y)
    (fails : ¬condition → AgreeBy M ends behind p n x' y') :
    AgreeBy M ends behind p n (if condition then x else x') (if condition then y else y') := by
  by_cases given : condition
  · rw [if_pos given, if_pos given]
    exact holds given
  · rw [if_neg given, if_neg given]
    exact fails given

theorem agree_expect {kind : TokenKind} (inside : ¬ ends kind) :
    AgreeBy M ends behind p 1 (expect kind) (expect kind) := by
  apply agree_peekKind
  intro found _
  apply AgreeBy.ite
  · intro same
    exact agree_advance (same ▸ inside)
  · intro _
    exact agree_failHere _ fun _ => rfl

/-- Every round of a loop takes a token. -/
theorem agree_many {item? : TokenKind → Option (Reading m α)}
    {other? : TokenKind → Option (Reader α)}
    (each : ∀ kind, Option.Rel (AgreeBy M ends behind (· = kind) 1) (item? kind) (other? kind)) :
    AgreeBy M ends behind p 0 (many item?) (many other?) := by
  rintro body last closed -
  induction length : body.length using Nat.strongRecOn generalizing body with
  | ind size ih =>
    subst length
    have starts := each (front (body ++ [last])).kind
    have ahead := congrArg (fun token => item? token.kind) (front_append body behind last)
    revert starts
    generalize found' : other? (front (body ++ [last])).kind = other
    generalize found : item? (front (body ++ [last])).kind = item at ahead
    rintro (agree | _)
    · rcases agree closed rfl with
        ⟨fault, failsX, failsY⟩ | ⟨a, taken, left, rfl, least, readX, readY⟩
      · exact Or.inl ⟨fault, yields_many_of_error M ahead failsX, many_of_error found' failsY⟩
      · have shorter (tail : List Token) :
            (left ++ tail).length < (taken ++ left ++ tail).length := by
          simp only [List.length_append]
          omega
        have fewer : left.length < (taken ++ left).length := by
          simpa using shorter []
        rcases ih left.length fewer closed.suffix rfl with
          ⟨fault, failsX, failsY⟩ | ⟨items, more, left, rfl, -, laterX, laterY⟩
        · exact Or.inl ⟨fault, yields_many_of_later_error M ahead readX (shorter _) failsX,
            yields_many_of_later_error .itself found' readY (shorter _) failsY⟩
        · exact Or.inr ⟨a :: items, taken ++ more, left, by rw [List.append_assoc], Nat.zero_le _,
            yields_many_of_ok M ahead readX (shorter _) laterX,
            yields_many_of_ok .itself found' readY (shorter _) laterY⟩
    · exact Or.inr ⟨[], [], body, rfl, Nat.le_refl 0, yields_many_of_none M ahead,
        many_of_none found'⟩

theorem AgreeBy.then {x' : Reading m β} {y' : Reader β} (first : AgreeBy M ends behind p k x y)
    (second : AgreeBy M ends behind (fun _ => True) 0 x' y') :
    AgreeBy M ends behind p k (x *> x') (y *> y') :=
  first.bind fun _ => second

omit [Monad m] [MonadExceptOf (Located ParseFault) m] in
/-- A round that some kinds of tokens start. -/
theorem rel_ite {relation : Reading m α → Reader α → Prop} {condition : Prop} [Decidable condition]
    (holds : condition → relation x y) :
    Option.Rel relation (if condition then some x else none)
      (if condition then some y else none) := by
  by_cases given : condition
  · rw [if_pos given, if_pos given]
    exact .some (holds given)
  · rw [if_neg given, if_neg given]
    exact .none

/-! ## Lists -/

section Lists

variable (few : ∀ kind, ends kind → kind ∈ TokenKind.boundaries)
include few

theorem rel_others? (items : AgreeBy M ends behind (fun _ => True) 1 x y) (kind : TokenKind) :
    Option.Rel (AgreeBy M ends behind (· = kind) 1) (others? x kind) (others? y kind) := by
  apply rel_ite
  rintro rfl
  exact (agree_advance (mt (few _) (by decide))).then items.lax

theorem agree_commaSeparated (items : AgreeBy M ends behind (fun _ => True) 1 x y) :
    AgreeBy M ends behind p 1 (commaSeparated x) (commaSeparated y) := by
  rw [commaSeparated_eq, commaSeparated_eq]
  apply items.anywhere.bind
  intro first
  have others : AgreeBy M ends behind (fun _ => True) 0 (many (others? x)) (many (others? y)) :=
    agree_many (rel_others? few items)
  exact others.bind fun others => agree_pure (first :: others)

theorem agree_parenthesized (items : AgreeBy M ends behind (fun _ => True) 1 x y) :
    AgreeBy M ends behind p 1 (parenthesized x) (parenthesized y) := by
  apply (agree_expect (mt (few _) (by decide))).bind
  intro _
  apply agree_peekKind
  intro kind _
  have closing (items : List α) : AgreeBy M ends behind (fun _ => True) 0
      (expect .rightParen >>= fun _ => pure items) (expect .rightParen >>= fun _ => pure items) :=
    (agree_expect (mt (few _) (by decide))).lax.bind fun _ => agree_pure items
  apply AgreeBy.ite
  · intro _
    exact (agree_pure []).bind closing
  · intro _
    exact (agree_commaSeparated few items).lax.bind closing

end Lists

end Reader

namespace BinaryOperator

theorem comparison?_eq_none : ∀ kind ∈ TokenKind.boundaries, comparison? kind = none := by
  decide

theorem additive?_eq_none : ∀ kind ∈ TokenKind.boundaries, additive? kind = none := by
  decide

theorem multiplicative?_eq_none : ∀ kind ∈ TokenKind.boundaries, multiplicative? kind = none := by
  decide

end BinaryOperator

namespace Expression

open Reader

variable {m : Type → Type} [Monad m] [MonadExceptOf (Located ParseFault) m] {M : Outcome m}
  {ends : TokenKind → Prop} {behind : List Token} {p : TokenKind → Prop} {x : Reading m Node}
  {y : Reader Node}

theorem rel_operations? {operator? : TokenKind → Option BinaryOperator}
    (apart : ∀ kind, ends kind → operator? kind = none)
    (operands : AgreeBy M ends behind (fun _ => True) 1 x y) (kind : TokenKind) :
    Option.Rel (AgreeBy M ends behind (· = kind) 1) (operations? operator? x kind)
      (operations? operator? y kind) := by
  unfold operations?
  cases found : operator? kind with
  | none => exact .none
  | some op =>
    have inside : ¬ ends kind := by
      intro ended
      rw [apart kind ended] at found
      cases found
    apply Option.Rel.some
    apply (agree_advance inside).bind
    intro _
    exact operands.lax.bind fun node => agree_pure (op, node)

theorem agree_chain {operator? : TokenKind → Option BinaryOperator}
    (apart : ∀ kind, ends kind → operator? kind = none)
    (operands : AgreeBy M ends behind (fun _ => True) 1 x y) :
    AgreeBy M ends behind (fun _ => True) 1 (chain operator? x) (chain operator? y) := by
  rw [chain_eq, chain_eq]
  apply operands.bind
  intro first
  have others : AgreeBy M ends behind (fun _ => True) 0 (many (operations? operator? x))
      (many (operations? operator? y)) := agree_many (rel_operations? apart operands)
  exact others.bind fun others => agree_pure _

section Parts

variable (few : ∀ kind, ends kind → kind ∈ TokenKind.boundaries)
include few

theorem agree_binary (operands : AgreeBy M ends behind (fun _ => True) 1 x y) :
    AgreeBy M ends behind (fun _ => True) 1 (binary x) (binary y) := by
  apply agree_chain fun _ ended => BinaryOperator.comparison?_eq_none _ (few _ ended)
  apply agree_chain fun _ ended => BinaryOperator.additive?_eq_none _ (few _ ended)
  exact agree_chain (fun _ ended => BinaryOperator.multiplicative?_eq_none _ (few _ ended)) operands

variable (expressions : AgreeBy M ends behind (fun _ => True) 1 x y)

include expressions

theorem rel_keys? (kind : TokenKind) :
    Option.Rel (AgreeBy M ends behind (· = kind) 1) (keys? x kind) (keys? y kind) := by
  apply rel_ite
  rintro rfl
  apply (agree_advance (mt (few _) (by decide))).bind
  intro _
  apply expressions.lax.bind
  intro key
  exact (agree_expect (mt (few _) (by decide))).lax.bind fun _ => agree_pure key

theorem agree_subscripts : AgreeBy M ends behind p 0 (subscripts x) (subscripts y) := by
  rw [subscripts_eq, subscripts_eq]
  have keys : AgreeBy M ends behind p 0 (many (keys? x)) (many (keys? y)) :=
    agree_many (rel_keys? few expressions)
  exact keys.bind fun keys => agree_pure (Index.ofKeys keys)

theorem agree_newObject : AgreeBy M ends behind p 1 (newObject x) (newObject y) := by
  have arguments (name : Name) : AgreeBy M ends behind (fun _ => True) 0
      (peekKind >>= fun kind =>
        if kind = .leftParen then parenthesized x >>= fun args => pure (Node.new name args)
        else pure [] >>= fun args => pure (Node.new name args))
      (peekKind >>= fun kind =>
        if kind = .leftParen then parenthesized y >>= fun args => pure (Node.new name args)
        else pure [] >>= fun args => pure (Node.new name args)) := by
    apply agree_peekKind
    intro kind _
    apply AgreeBy.ite
    · intro _
      exact (agree_parenthesized few expressions).lax.bind fun args => agree_pure _
    · intro _
      exact (agree_pure []).bind fun args => agree_pure _
  apply agree_peek
  intro token _
  split
  · next identifier =>
    rw [identifier]
    apply agree_pure_bind
    exact (agree_advance (mt (few _) (by decide))).bind fun _ => arguments _
  · next variableName =>
    rw [variableName]
    apply agree_pure_bind
    exact (agree_advance (mt (few _) (by decide))).bind fun _ => arguments _
  · exact agree_failHere_bind _ fun _ => rfl

theorem agree_fromVariable (name : String) :
    AgreeBy M ends behind p 0 (fromVariable x name) (fromVariable y name) := by
  apply agree_peekKind
  intro kind _
  split
  · exact (agree_subscripts few expressions).bind fun index => agree_pure _
  · exact (agree_parenthesized few expressions).lax.bind fun args =>
      agree_pure _
  · exact agree_pure _

theorem agree_fromWord (token : Token) :
    AgreeBy M ends behind p 0 (fromWord x token) (fromWord y token) := by
  apply agree_peekKind
  intro kind _
  apply AgreeBy.ite
  · intro _
    exact (agree_parenthesized few expressions).lax.bind fun args =>
      agree_pure _
  · intro _
    split
    · exact agree_pure _
    · exact agree_failAt _ _ rfl

theorem agree_primary : AgreeBy M ends behind p 1 (primary x) (primary y) := by
  apply agree_peek
  intro token _
  split
  · next kind =>
    rw [kind]
    exact (agree_advance (mt (few _) (by decide))).then (agree_fromVariable few expressions _)
  · next kind =>
    rw [kind]
    exact (agree_advance (mt (few _) (by decide))).then (agree_fromWord few expressions _)
  · next kind =>
    rw [kind]
    exact (agree_advance (mt (few _) (by decide))).then (agree_pure _)
  · next kind =>
    rw [kind]
    apply (agree_advance (mt (few _) (by decide))).bind
    intro _
    split
    · exact agree_pure _
    · exact agree_failAt _ _ rfl
  · next kind =>
    rw [kind]
    apply (agree_advance (mt (few _) (by decide))).bind
    intro _
    split
    · exact agree_pure _
    · exact agree_failAt _ _ rfl
  · next kind =>
    rw [kind]
    apply (agree_advance (mt (few _) (by decide))).bind
    intro _
    apply expressions.lax.bind
    intro node
    exact (agree_expect (mt (few _) (by decide))).lax.bind fun _ => agree_pure node
  · next kind =>
    rw [kind]
    exact (agree_advance (mt (few _) (by decide))).then
      (agree_newObject few expressions).lax
  · exact agree_failHere _ fun _ => rfl

omit few expressions in
theorem memberName?_eq_none {token : Token} (boundary : token.kind ∈ TokenKind.boundaries) :
    memberName? token = none := by
  unfold memberName?
  generalize token.kind = kind at boundary
  revert kind
  simp [TokenKind.boundaries, TokenKind.closers, TokenKind.isKeyword]

theorem agree_access : AgreeBy M ends behind (· = .arrow) 1 (access x) (access y) := by
  apply (agree_advance (mt (few _) (by decide))).bind
  intro _
  apply agree_peek
  intro token _
  split
  · exact agree_failHere _ fun _ => rfl
  · next member named =>
    have inside : ¬ ends token.kind := by
      intro ended
      rw [memberName?_eq_none (few _ ended)] at named
      cases named
    apply (agree_advance inside).lax.bind
    intro _
    apply agree_peekKind
    intro kind _
    apply AgreeBy.ite
    · intro _
      exact (agree_parenthesized few expressions).lax.bind fun args =>
        agree_pure _
    · intro _
      exact agree_pure _

theorem rel_accesses? (kind : TokenKind) :
    Option.Rel (AgreeBy M ends behind (· = kind) 1) (accesses? x kind) (accesses? y kind) := by
  apply rel_ite
  rintro rfl
  exact agree_access few expressions

theorem agree_withAccesses : AgreeBy M ends behind p 1 (withAccesses x) (withAccesses y) := by
  rw [withAccesses_eq, withAccesses_eq]
  apply (agree_primary few expressions).bind
  intro target
  have accesses : AgreeBy M ends behind (fun _ => True) 0 (many (accesses? x))
      (many (accesses? y)) :=
    agree_many (rel_accesses? few expressions)
  exact accesses.bind fun accesses => agree_pure _

theorem agree_operandWith {negated : Reading m Node} {negated' : Reader Node}
    (operands : AgreeBy M ends behind (fun _ => True) 1 negated negated') :
    AgreeBy M ends behind p 1 (operandWith negated x) (operandWith negated' y) := by
  apply agree_peekKind
  intro kind _
  apply AgreeBy.ite
  · rintro rfl
    apply (agree_advance (mt (few _) (by decide))).bind
    intro _
    exact operands.lax.bind fun node => agree_pure _
  · intro _
    exact agree_withAccesses few expressions

end Parts

theorem agree_operand (few : ∀ kind, ends kind → kind ∈ TokenKind.boundaries) (behind : List Token)
    (room : Nat) : AgreeBy .itself ends behind (fun _ => True) 1 (operand room) (operand room) := by
  induction room with
  | zero => exact agree_operandWith few agree_tooDeep agree_tooDeep
  | succ room ih => exact agree_operandWith few (agree_binary few ih) ih

end Expression

theorem Node.agree_readExpression {ends : TokenKind → Prop}
    (few : ∀ kind, ends kind → kind ∈ TokenKind.boundaries) (behind : List Token) (room : Nat) :
    Reader.AgreeBy .itself ends behind (fun _ => True) 1 (Node.readExpression room)
      (Node.readExpression room) := by
  cases room with
  | zero => exact Reader.agree_tooDeep
  | succ room => exact Expression.agree_binary few (Expression.agree_operand few behind room)

namespace Statement

open Reader

variable {m : Type → Type} [Monad m] [MonadExceptOf (Located ParseFault) m] {M : Outcome m}
  {behind : List Token} {p : TokenKind → Prop} {s : Reading m Parts} {t : Reader Parts}
  {x : Reading m Node} {y : Reader Node}

theorem agree_terminator : Agree M behind p 0 terminator terminator := by
  apply agree_peekKind
  intro kind _
  split
  · exact (agree_advance (by decide)).lax.bind fun _ => agree_pure ()
  · exact agree_pure ()
  · exact agree_pure ()
  · exact agree_failHere _ fun _ => rfl

theorem agree_condition {ends : TokenKind → Prop}
    (few : ∀ kind, ends kind → kind ∈ TokenKind.boundaries)
    (expressions : AgreeBy M ends behind (fun _ => True) 1 x y) :
    AgreeBy M ends behind p 1 (condition x) (condition y) := by
  apply (agree_expect (mt (few _) (by decide))).bind
  intro _
  apply expressions.lax.bind
  intro node
  exact (agree_expect (mt (few _) (by decide))).lax.bind fun _ => agree_pure node

section Expressions

variable (expressions : Agree M behind (fun _ => True) 1 x y)
include expressions

theorem agree_expressionStatement :
    Agree M behind p 1 (expressionStatement x) (expressionStatement y) := by
  apply expressions.anywhere.bind
  intro target
  apply agree_peekKind
  intro kind _
  apply AgreeBy.ite
  · rintro rfl
    apply (agree_advance (by decide)).lax.bind
    intro sign
    apply expressions.lax.bind
    intro value
    split
    · exact agree_failAt _ _ rfl
    · exact agree_terminator.then (agree_pure _)
  · intro _
    exact agree_terminator.then (agree_pure _)

theorem agree_echo : Agree M behind p 1 (echo x) (echo y) := by
  apply (agree_expect (by decide)).bind
  intro _
  apply (agree_commaSeparated TokenKind.mem_boundaries_of_end expressions).lax.bind
  intro values
  apply agree_terminator.bind
  intro _
  split
  · exact agree_pure _
  · exact agree_pure _

theorem agree_exit : Agree M behind p 1 (exit x) (exit y) := by
  apply (agree_expect (by decide)).bind
  intro _
  apply agree_peekKind
  intro kind _
  have ending (value : Option Node) : Agree M behind (fun _ => True) 0
      (terminator >>= fun _ => pure (Node.exit value))
      (terminator >>= fun _ => pure (Node.exit value)) :=
    agree_terminator.bind fun _ => agree_pure _
  split
  · exact (agree_pure none).bind ending
  · exact (agree_pure none).bind ending
  · exact (agree_pure none).bind ending
  · have value : Agree M behind (· = kind) 0 (some <$> x) (some <$> y) :=
      expressions.anywhere.lax.bind fun value => agree_pure (some value)
    exact value.bind ending

theorem agree_field (visibility : Visibility) :
    Agree M behind p 1 (field x visibility) (field y visibility) := by
  apply (agree_expect (by decide)).bind
  intro name
  apply agree_peekKind
  intro kind _
  have ending (init : Option Node) : Agree M behind (fun _ => True) 0
      (expect .semicolon >>= fun _ => pure (⟨visibility, name.value, init⟩ : AttributeDecl))
      (expect .semicolon >>= fun _ => pure ⟨visibility, name.value, init⟩) :=
    (agree_expect (by decide)).lax.bind fun _ => agree_pure _
  apply AgreeBy.ite
  · rintro rfl
    have init : Agree M behind (· = .assign) 1 (advance *> some <$> x) (advance *> some <$> y) :=
      (agree_advance (by decide)).then
        (expressions.lax.bind fun value => agree_pure (some value))
    exact init.lax.bind ending
  · intro _
    exact (agree_pure none).bind ending

end Expressions

section Statements

variable (statements : Agree M behind (fun _ => True) 1 s t)

theorem ne_endOfSource_of_isTag {kind : TokenKind} (tag : isTag kind) : kind ≠ .endOfSource := by
  rintro rfl
  cases tag

theorem rel_tags? (kind : TokenKind) :
    Option.Rel (Agree M behind (· = kind) 1) (tags? kind) (tags? kind) := by
  apply rel_ite
  intro tag
  exact agree_advance (ne_endOfSource_of_isTag tag)

include statements

theorem rel_statements? (last kind : TokenKind) :
    Option.Rel (Agree M behind (· = kind) 1) (statements? s last kind)
      (statements? t last kind) := by
  unfold statements?
  split
  · exact .none
  · split
    · next tag =>
      have taken : Agree M behind (· = kind) 1 advance advance :=
        agree_advance (ne_endOfSource_of_isTag tag)
      exact .some (taken.then (agree_pure _))
    · exact .some statements.anywhere

theorem agree_list (last : TokenKind) : Agree M behind p 0 (list s last) (list t last) := by
  rw [list_eq, list_eq]
  have parts : Agree M behind p 0 (many (statements? s last)) (many (statements? t last)) :=
    agree_many (rel_statements? statements last)
  exact parts.bind fun parts => agree_pure (gather parts)

theorem agree_block : Agree M behind p 1 (block s) (block t) := by
  apply (agree_expect (by decide)).bind
  intro _
  apply (agree_list statements _).bind
  intro parts
  exact (agree_expect (by decide)).lax.bind fun _ => agree_pure parts

theorem agree_body : Agree M behind p 0 (body s) (body t) := by
  rw [body_eq, body_eq]
  have tags : Agree M behind p 0 (many tags?) (many tags?) := agree_many rel_tags?
  apply tags.bind
  intro _
  exact statements.lax.bind fun parts => agree_pure _

theorem agree_function : Agree M behind p 1 (function s) (function t) := by
  apply (agree_expect (by decide)).bind
  intro _
  apply (agree_expect (by decide)).lax.bind
  intro name
  apply (agree_parenthesized TokenKind.mem_boundaries_of_end (agree_expect (by decide))).lax.bind
  intro params
  exact (agree_block statements).lax.bind fun parts => agree_pure _

variable (expressions : Agree M behind (fun _ => True) 1 x y)
include expressions

theorem agree_branch : Agree M behind p 1 (branch s x) (branch t y) := by
  apply (agree_expect (by decide)).bind
  intro _
  apply (agree_condition TokenKind.mem_boundaries_of_end expressions).lax.bind
  intro test
  apply (agree_body statements).bind
  intro parts
  apply agree_peekKind
  intro kind _
  apply AgreeBy.ite
  · rintro rfl
    apply (agree_advance (by decide)).lax.bind
    intro _
    exact (agree_body statements).bind fun parts => agree_pure _
  · intro _
    exact agree_pure _

theorem agree_whileLoop : Agree M behind p 1 (whileLoop s x) (whileLoop t y) := by
  apply (agree_expect (by decide)).bind
  intro _
  apply (agree_condition TokenKind.mem_boundaries_of_end expressions).lax.bind
  intro test
  exact (agree_body statements).bind fun parts => agree_pure _

theorem agree_doLoop : Agree M behind p 1 (doLoop s x) (doLoop t y) := by
  apply (agree_expect (by decide)).bind
  intro _
  apply (agree_body statements).bind
  intro parts
  apply (agree_expect (by decide)).lax.bind
  intro _
  apply (agree_condition TokenKind.mem_boundaries_of_end expressions).lax.bind
  intro test
  exact agree_terminator.bind fun _ => agree_pure _

/-- A member after its modifier. -/
def declaration (statement : Reading m Parts) (expression : Reading m Node)
    (visibility : Option Visibility) : Reading m (Declarations × Member) := do
  if (← peekKind) = .kwFunction then
    let (declarations, decl) ← function statement
    return (declarations, .method ⟨visibility.getD .anyone, decl⟩)
  else
    match visibility with
    | none => failHere .expectedDeclaration
    | some visibility => return (∅, .field (← field expression visibility))

theorem agree_declaration (visibility : Option Visibility) :
    Agree M behind p 1 (declaration s x visibility) (declaration t y visibility) := by
  apply agree_peekKind
  intro kind _
  apply AgreeBy.ite
  · intro _
    exact (agree_function statements).bind fun parts => agree_pure _
  · intro _
    cases visibility with
    | none => exact agree_failHere _ fun _ => rfl
    | some visibility => exact (agree_field expressions visibility).bind fun decl => agree_pure _

theorem agree_member : Agree M behind p 1 (member s x) (member t y) := by
  have declared {q : TokenKind → Prop} (visibility : Option Visibility) :=
    agree_declaration (p := q) statements expressions visibility
  apply agree_peekKind
  intro kind _
  apply AgreeBy.ite
  · intro modified
    have taken : Agree M behind (· = kind) 1 advance advance := by
      apply agree_advance
      rintro rfl
      cases modified
    exact taken.bind fun _ => (declared _).lax
  · intro _
    exact declared _

theorem rel_members? (kind : TokenKind) :
    Option.Rel (Agree M behind (· = kind) 1) (members? s x kind) (members? t y kind) := by
  unfold members?
  split
  · exact .none
  · exact .some (agree_member statements expressions)

theorem agree_classDecl : Agree M behind p 1 (classDecl s x) (classDecl t y) := by
  rw [classDecl_eq, classDecl_eq]
  apply (agree_expect (by decide)).bind
  intro _
  apply (agree_expect (by decide)).lax.bind
  intro name
  apply (agree_expect (by decide)).lax.bind
  intro _
  have members : Agree M behind (fun _ => True) 0 (many (members? s x)) (many (members? t y)) :=
    agree_many (rel_members? statements expressions)
  apply members.bind
  intro members
  exact (agree_expect (by decide)).lax.bind fun _ => agree_pure _

theorem agree_statementWith :
    Agree M behind (fun _ => True) 1 (statementWith s x) (statementWith t y) := by
  apply agree_peek
  intro token _
  split
  · exact (agree_function statements).bind fun parts => agree_pure _
  · exact (agree_classDecl statements expressions).bind fun parts => agree_pure _
  · next kind =>
    rw [kind]
    exact (agree_advance (by decide)).then (agree_pure _)
  · next kind =>
    rw [kind]
    exact (agree_advance (by decide)).then (agree_pure _)
  · exact (agree_block statements).bind fun parts => agree_pure _
  · exact agree_branch statements expressions
  · exact agree_whileLoop statements expressions
  · exact agree_doLoop statements expressions
  · exact (agree_echo expressions).bind fun node => agree_pure _
  · exact (agree_exit expressions).bind fun node => agree_pure _
  · exact (agree_expressionStatement expressions).bind fun node => agree_pure _

end Statements

theorem agree_statement (behind : List Token) (room : Nat) :
    Agree .itself behind (fun _ => True) 1 (statement room) (statement room) := by
  induction room with
  | zero => exact agree_tooDeep
  | succ room ih =>
    exact agree_statementWith ih
      (Node.agree_readExpression TokenKind.mem_boundaries_of_end behind room)

end Statement

end TagScript
