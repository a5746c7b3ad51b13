import TagScript.Proofs.Outcomes

/-!
# The loops of the grammar

Every loop of the grammar is a `Reader.many`. What a round of each loop reads, if the token in front
starts one, has a name here, and the readers are given in terms of these names.
-/

namespace TagScript

open Reader

variable {m : Type → Type} [Monad m] {α : Type}

namespace Reader

/-- A round of the loop over what follows the first of several items. -/
def others? (item : Reading m α) (kind : TokenKind) : Option (Reading m α) :=
  if kind = .comma then some (advance *> item) else none

section Rounds

variable {item? : TokenKind → Option (Reader α)} {item : Reader α} {tokens rest : List Token}

theorem many_of_none (found : item? (front tokens).kind = none) :
    many item? tokens = .ok ([], tokens) :=
  yields_many_of_none .itself found

theorem many_of_error {fault : Located ParseFault} (found : item? (front tokens).kind = some item)
    (fails : item tokens = .error fault) : many item? tokens = .error fault :=
  yields_many_of_error .itself found fails

theorem many_of_ok {a : α} (found : item? (front tokens).kind = some item)
    (read : item tokens = .ok (a, rest)) (shorter : rest.length < tokens.length) :
    many item? tokens = (many item? rest).map fun more => (a :: more.1, more.2) := by
  cases later : many item? rest with
  | error fault => exact yields_many_of_later_error .itself found read shorter later
  | ok more => exact yields_many_of_ok .itself found read shorter later

/-- The rounds of a loop that ends with a result. -/
theorem rounds_of_many {items : List α} (read : many item? tokens = .ok (items, rest)) :
    (item? (front tokens).kind = none ∧ items = [] ∧ rest = tokens) ∨
      ∃ item a middle, item? (front tokens).kind = some item ∧ item tokens = .ok (a, middle) ∧
        ((∃ more, middle.length < tokens.length ∧ many item? middle = .ok (more, rest) ∧
            items = a :: more) ∨
          items = [a] ∧ rest = middle) := by
  cases found : item? (front tokens).kind with
  | none =>
    rw [many_of_none found] at read
    cases read
    exact .inl ⟨rfl, rfl, rfl⟩
  | some item =>
    cases first : item tokens with
    | error fault =>
      rw [many_of_error found first] at read
      contradiction
    | ok pair =>
      obtain ⟨a, middle⟩ := pair
      refine .inr ⟨item, a, middle, rfl, first, ?_⟩
      by_cases shorter : middle.length < tokens.length
      · rw [many_of_ok found first shorter] at read
        cases later : many item? middle with
        | error fault =>
          rw [later] at read
          contradiction
        | ok more =>
          rw [later] at read
          cases read
          exact .inl ⟨more.1, shorter, rfl, rfl⟩
      · have stuck : many item? tokens = .ok ([a], middle) :=
          yields_many_of_stuck .itself found first shorter
        rw [stuck] at read
        cases read
        exact .inr ⟨rfl, rfl⟩

end Rounds

theorem commaSeparated_eq (item : Reading m α) : commaSeparated item = do
    let first ← item
    let others ← many (others? item)
    return first :: others :=
  rfl

end Reader

namespace Expression

/-- A round of the loop over operators of one level. -/
def operations? (operator? : TokenKind → Option BinaryOperator) (operand : Reading m Node)
    (kind : TokenKind) : Option (Reading m (BinaryOperator × Node)) :=
  (operator? kind).map fun op => do
    let _ ← advance
    return (op, ← operand)

theorem chain_eq (operator? : TokenKind → Option BinaryOperator) (operand : Reading m Node) :
    chain operator? operand = do
      let first ← operand
      let others ← many (operations? operator? operand)
      return others.foldl (fun left pair => pair.1.node left pair.2) first :=
  rfl

variable [MonadExceptOf (Located ParseFault) m]

/-- A subscript. -/
def key (expression : Reading m Node) : Reading m Node := do
  let _ ← advance
  let key ← expression
  let _ ← expect .rightBracket
  return key

/-- A round of the loop over subscripts. -/
def keys? (expression : Reading m Node) (kind : TokenKind) : Option (Reading m Node) :=
  if kind = .leftBracket then some (key expression) else none

theorem subscripts_eq (expression : Reading m Node) : subscripts expression = do
    let keys ← many (keys? expression)
    return .ofKeys keys :=
  rfl

/-- A round of the loop over accesses to members. -/
def accesses? (expression : Reading m Node) (kind : TokenKind) : Option (Reading m Access) :=
  if kind = .arrow then some (access expression) else none

theorem withAccesses_eq (expression : Reading m Node) : withAccesses expression = do
    let target ← primary expression
    let accesses ← many (accesses? expression)
    return accesses.foldl Access.node target :=
  rfl

end Expression

namespace Statement

/-- A round of the loop over statements. -/
def statements? (statement : Reading m Parts) (last kind : TokenKind) : Option (Reading m Parts) :=
  if kind = last || kind = .endOfSource then none
  else if isTag kind then some (advance *> pure (∅, none))
  else some statement

theorem list_eq (statement : Reading m Parts) (last : TokenKind) : list statement last = do
    let parts ← many (statements? statement last)
    return gather parts :=
  rfl

/-- A round of the loop over the tags in front of a body. -/
def tags? (kind : TokenKind) : Option (Reading m Token) :=
  if isTag kind then some advance else none

theorem body_eq (statement : Reading m Parts) : body statement = do
    let _ ← many tags?
    let parts ← statement
    return (parts.1, parts.2.getD (.sequence [])) :=
  rfl

variable [MonadExceptOf (Located ParseFault) m]

/-- A round of the loop over the members of a class. -/
def members? (statement : Reading m Parts) (expression : Reading m Node) (kind : TokenKind) :
    Option (Reading m (Declarations × Member)) :=
  if kind = .rightBrace || kind = .endOfSource then none else some (member statement expression)

theorem classDecl_eq (statement : Reading m Parts) (expression : Reading m Node) :
    classDecl statement expression = do
      let _ ← expect .kwClass
      let name ← expect .identifier
      let _ ← expect .leftBrace
      let members ← many (members? statement expression)
      let _ ← expect .rightBrace
      return (members.foldr (fun part later => part.1 ++ later) ∅,
        { visibility := .anyone
          name := name.value
          attributes := members.filterMap fun part => part.2.field?
          methods := members.filterMap fun part => part.2.method? }) :=
  rfl

end Statement

/-- The loops of the grammar, each by what a round of it reads. -/
inductive Loop : {α : Type} → (TokenKind → Option (Reader α)) → Prop
  | statements (room : Nat) (last : TokenKind) :
    Loop (Statement.statements? (Statement.statement room) last)
  | tags : Loop Statement.tags?
  | members (room : Nat) :
    Loop (Statement.members? (Statement.statement room) (Node.readExpression room))
  | parameters : Loop (others? (expect .variableName))
  | arguments (room : Nat) : Loop (others? (Node.readExpression room))
  | subscripts (room : Nat) : Loop (Expression.keys? (Node.readExpression room))
  | accesses (room : Nat) : Loop (Expression.accesses? (Node.readExpression room))
  | products (room : Nat) :
    Loop (Expression.operations? BinaryOperator.multiplicative? (Expression.operand room))
  | sums (room : Nat) :
    Loop (Expression.operations? BinaryOperator.additive?
      (Expression.chain BinaryOperator.multiplicative? (Expression.operand room)))
  | comparisons (room : Nat) :
    Loop (Expression.operations? BinaryOperator.comparison?
      (Expression.chain BinaryOperator.additive?
        (Expression.chain BinaryOperator.multiplicative? (Expression.operand room))))

end TagScript
