import TagScript.Token

/-!
# Reading tokens

The grammar is written with readers that take tokens from the front of a list. The list ends with
the token that marks the end of the source, and no reader of the grammar takes that one. `many` is
the only loop: it goes on only while each round takes a token.
-/

namespace TagScript

/-- Why tokens do not form a program. -/
inductive ParseFault
  | tooDeep
  | unexpected (found : Token)
  | expected (kind : TokenKind) (found : Token)
  | expectedTerminator (found : Token)
  | expectedDeclaration (found : Token)
  | expectedMemberName (found : Token)
  | expectedClassName (found : Token)
  | invalidTarget
  | undefinedConstant (name : String)
  | integerOutOfRange (digits : String)
  | invalidFloat (literal : String)
  deriving DecidableEq, Repr

/-- How deeply statements and expressions may be nested. -/
def maximumDepth : Nat := 256

namespace ParseFault

/-- A token as diagnostics mention it. -/
def mention (token : Token) : String :=
  s!"{token.kind.name} ({Text.quoted token.value})"

/-- The wording of a fault. -/
def message : ParseFault → String
  | tooDeep => s!"Maximum nesting depth ({maximumDepth}) exceeded"
  | unexpected found => s!"Unexpected {mention found}"
  | expected kind found => s!"Expected {kind.name}, got {mention found}"
  | expectedTerminator found => s!"Expected ';', got {mention found}"
  | expectedDeclaration found =>
    s!"Expected attribute or method declaration, got {mention found}"
  | expectedMemberName found => s!"Expected member name after '->', got {mention found}"
  | expectedClassName found => s!"Expected class name after 'new', got {mention found}"
  | invalidTarget => "Invalid assignment target"
  | undefinedConstant name => s!"Undefined constant {name}"
  | integerOutOfRange digits => s!"Integer literal out of range: {digits}"
  | invalidFloat literal => s!"Invalid float literal: {literal}"

end ParseFault

/-- Takes tokens from the front of a list. What a reading does besides is up to `m`. -/
abbrev Reading (m : Type → Type) := StateT (List Token) m

/-- Takes tokens from the front of a list, or fails. -/
abbrev Reader := Reading (Except (Located ParseFault))

namespace Reader

variable {m : Type → Type} [Monad m] {α : Type}

/-- The first token. -/
def front (tokens : List Token) : Token :=
  tokens.headD ⟨.endOfSource, "", .start⟩

/-- Looks at the first token. -/
def peek : Reading m Token :=
  return front (← get)

/-- Looks at the kind of the first token. -/
def peekKind : Reading m TokenKind :=
  return (← peek).kind

/-- Takes the first token. -/
def advance : Reading m Token := do
  let token ← peek
  modify List.tail
  return token

/-- Reads items for as long as the next token starts one. An item that takes no token is the last. -/
def many (item? : TokenKind → Option (Reading m α)) (tokens : List Token) :
    m (List α × List Token) :=
  match item? (front tokens).kind with
  | none => return ([], tokens)
  | some item => do
    let (a, rest) ← item tokens
    if rest.length < tokens.length then
      let (more, rest) ← many item? rest
      return (a :: more, rest)
    else return ([a], rest)
termination_by tokens.length

/-- Items with commas between them, at least one. -/
def commaSeparated (item : Reading m α) : Reading m (List α) := do
  let first ← item
  let others ← many fun kind => if kind = .comma then some (advance *> item) else none
  return first :: others

variable [MonadExceptOf (Located ParseFault) m]

/-- Fails at a token. -/
def failAt (token : Token) (cause : ParseFault) : Reading m α :=
  throw ⟨token.position, cause⟩

/-- Fails at the first token, which the cause may mention. -/
def failHere (cause : Token → ParseFault) : Reading m α := do
  let token ← peek
  failAt token (cause token)

/-- Takes a token of this kind. -/
def expect (kind : TokenKind) : Reading m Token := do
  if (← peekKind) = kind then advance else failHere (.expected kind)

/-- Items with commas between them in parentheses, possibly none. -/
def parenthesized (item : Reading m α) : Reading m (List α) := do
  let _ ← expect .leftParen
  let items ← if (← peekKind) = .rightParen then pure [] else commaSeparated item
  let _ ← expect .rightParen
  return items

/-- Fails because the nesting has used up its room. -/
def tooDeep : Reading m α :=
  failHere fun _ => .tooDeep

end Reader

end TagScript
