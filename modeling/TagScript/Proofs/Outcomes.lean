import TagScript.Program.Statement

/-!
# What readings come to

The grammar is written over a base monad that can fail, and readings over different ones can be
compared through what they come to. An `Outcome` says when a computation comes to a result or to a
fault. All that is asked of it is one rule for each way of putting computations together, so the
parts of readings, the loop included, are followed once for every base monad.
-/

namespace TagScript

/-- How many levels of nesting stay entered when reading fails: the one that there was no room
for. -/
def ParseFault.overrun : ParseFault → Nat
  | tooDeep => 1
  | _ => 0

/-- What computations come to. Only readers that keep the nesting fail because of it, so this fault
is left to them. -/
structure Outcome (m : Type → Type) [Monad m] [MonadExceptOf (Located ParseFault) m] where
  /-- A computation comes to a result or to a fault. -/
  Yields : {α : Type} → m α → Except (Located ParseFault) α → Prop
  pure : ∀ {α : Type} (a : α), Yields (Pure.pure a) (.ok a)
  throw : ∀ {α : Type} {fault : Located ParseFault}, fault.cause.overrun = 0 →
    Yields (MonadExceptOf.throw fault : m α) (.error fault)
  bind : ∀ {α β : Type} {x : m α} {f : α → m β} {a : α} {result : Except (Located ParseFault) β},
    Yields x (.ok a) → Yields (f a) result → Yields (x >>= f) result
  fail : ∀ {α β : Type} {x : m α} {f : α → m β} {fault : Located ParseFault},
    Yields x (.error fault) → Yields (x >>= f) (.error fault)

/-- A result or a fault comes to itself. -/
abbrev Outcome.itself : Outcome (Except (Located ParseFault)) where
  Yields x result := x = result
  pure _ := rfl
  throw _ := rfl
  bind := by
    rintro α β x f a result rfl rfl
    rfl
  fail := by
    rintro α β x f fault rfl
    rfl

namespace Reader

variable {m : Type → Type} [Monad m] [MonadExceptOf (Located ParseFault) m] (M : Outcome m)
  {α : Type} {tokens rest : List Token}

theorem yields_peek (tokens : List Token) :
    M.Yields (peek tokens) (.ok (front tokens, tokens)) :=
  M.bind (M.pure (tokens, tokens)) (M.pure _)

theorem yields_peekKind (tokens : List Token) :
    M.Yields (peekKind tokens) (.ok ((front tokens).kind, tokens)) :=
  M.bind (yields_peek M tokens) (M.pure _)

theorem yields_advance (tokens : List Token) :
    M.Yields (advance tokens) (.ok (front tokens, tokens.tail)) :=
  M.bind (yields_peek M tokens) (M.bind (M.pure ((), tokens.tail)) (M.pure _))

theorem yields_failAt (token : Token) {cause : ParseFault} (shallow : cause.overrun = 0)
    (tokens : List Token) :
    M.Yields (failAt (α := α) token cause tokens) (.error ⟨token.position, cause⟩) :=
  M.fail (M.throw shallow)

theorem yields_failHere {cause : Token → ParseFault} (shallow : ∀ token, (cause token).overrun = 0)
    (tokens : List Token) : M.Yields (failHere (α := α) cause tokens)
      (.error ⟨(front tokens).position, cause (front tokens)⟩) :=
  M.bind (yields_peek M tokens) (yields_failAt M (front tokens) (shallow _) tokens)

/-! ## The loop -/

section Loop

variable {item? : TokenKind → Option (Reading m α)} {item : Reading m α} {a : α}
  {fault : Located ParseFault}

theorem yields_many_of_none (found : item? (front tokens).kind = none) :
    M.Yields (many item? tokens) (.ok ([], tokens)) := by
  rw [many, found]
  exact M.pure _

theorem yields_many_of_error (found : item? (front tokens).kind = some item)
    (fails : M.Yields (item tokens) (.error fault)) :
    M.Yields (many item? tokens) (.error fault) := by
  rw [many, found]
  exact M.fail fails

variable (found : item? (front tokens).kind = some item)
  (read : M.Yields (item tokens) (.ok (a, rest)))
include found read

/-- The round after one that takes a token fails. -/
theorem yields_many_of_later_error (shorter : rest.length < tokens.length)
    (fails : M.Yields (many item? rest) (.error fault)) :
    M.Yields (many item? tokens) (.error fault) := by
  rw [many, found]
  apply M.bind read
  simp only [if_pos shorter]
  exact M.fail fails

theorem yields_many_of_ok (shorter : rest.length < tokens.length) {more : List α × List Token}
    (later : M.Yields (many item? rest) (.ok more)) :
    M.Yields (many item? tokens) (.ok (a :: more.1, more.2)) := by
  rw [many, found]
  apply M.bind read
  simp only [if_pos shorter]
  exact M.bind later (M.pure _)

/-- A round that takes no token is the last. -/
theorem yields_many_of_stuck (stuck : ¬rest.length < tokens.length) :
    M.Yields (many item? tokens) (.ok ([a], rest)) := by
  rw [many, found]
  apply M.bind read
  simp only [if_neg stuck]
  exact M.pure _

end Loop

end Reader

end TagScript
