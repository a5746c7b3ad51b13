import TagScript.Failure
import TagScript.Proofs.Grammar
import TagScript.Proofs.Lexemes
import TagScript.Proofs.Loops
import TagScript.Proofs.Numerals

/-!
# What is read is well formed

Words and variables keep the form that they are scanned in, and each reader of the grammar builds a
proper part of a program from proper tokens. So every source that can be read yields a program with
`Program.IsProper`. Where the grammar goes by the kind of a token alone, the text of a scanned token
would tell the same (`Expression.memberName?_eq_byText`).
-/

namespace TagScript

/-- Words, variables and integers are spelled as such. -/
structure Token.IsProper (token : Token) : Prop where
  word : token.kind = .identifier → IsWord token.value
  variableName : token.kind = .variableName → IsVariableName token.value
  integer : token.kind = .integer → ∀ c ∈ token.value.toList, c.isDigit

namespace Reader

variable {α β : Type}

/-- From proper tokens a reader reads something with a property, and leaves proper tokens. -/
def Reads (x : Reader α) (yields : α → Prop) : Prop :=
  ∀ ⦃tokens a rest⦄, (∀ token ∈ tokens, token.IsProper) → x tokens = .ok (a, rest) →
    yields a ∧ ∀ token ∈ rest, token.IsProper

variable {x : Reader α} {yields : α → Prop}

/-- A reader in sequence goes on where the first one stopped. -/
theorem read_of_bind {next : α → Reader β} {tokens rest : List Token} {b : β}
    (read : (x >>= next) tokens = .ok (b, rest)) :
    ∃ a middle, x tokens = .ok (a, middle) ∧ next a middle = .ok (b, rest) := by
  change (x tokens >>= fun pair => next pair.1 pair.2) = _ at read
  cases first : x tokens with
  | error fault => rw [first] at read; contradiction
  | ok pair =>
    rw [first] at read
    exact ⟨pair.1, pair.2, rfl, read⟩

theorem Reads.bind {next : α → Reader β} {finally' : β → Prop} (first : Reads x yields)
    (second : ∀ a, yields a → Reads (next a) finally') : Reads (x >>= next) finally' := by
  intro tokens b rest proper read
  obtain ⟨a, middle, readFirst, readRest⟩ := read_of_bind read
  obtain ⟨holds, proper'⟩ := first proper readFirst
  exact second a holds proper' readRest

theorem reads_pure {a : α} (holds : yields a) : Reads (pure a) yields := by
  intro tokens b rest proper read
  cases read
  exact ⟨holds, proper⟩

theorem Reads.then {y : Reader β} {finally' : β → Prop} (first : Reads x yields)
    (second : Reads y finally') : Reads (x *> y) finally' :=
  first.bind fun _ _ => second

theorem Reads.map {f : α → β} {finally' : β → Prop} (reads : Reads x yields)
    (holds : ∀ a, yields a → finally' (f a)) : Reads (f <$> x) finally' :=
  reads.bind fun a given => reads_pure (holds a given)

theorem reads_failAt (token : Token) (cause : ParseFault) : Reads (failAt token cause) yields := by
  intro tokens b rest proper read
  cases read

theorem isProper_front {tokens : List Token} (proper : ∀ token ∈ tokens, token.IsProper) :
    (front tokens).IsProper := by
  cases tokens with
  | nil =>
    exact ⟨fun other => (by cases other), fun other => (by cases other),
      fun other => (by cases other)⟩
  | cons token tokens => exact proper token List.mem_cons_self

theorem reads_peek : Reads peek Token.IsProper := by
  intro tokens token rest proper read
  cases read
  exact ⟨isProper_front proper, proper⟩

theorem reads_peekKind : Reads peekKind fun _ => True :=
  reads_peek.bind fun _ _ => reads_pure trivial

theorem reads_failHere (cause : Token → ParseFault) : Reads (failHere cause) yields :=
  reads_peek.bind fun token _ => reads_failAt token (cause token)

theorem reads_advance : Reads advance Token.IsProper := by
  intro tokens token rest proper read
  cases read
  exact ⟨isProper_front proper, fun token inside => proper token (List.mem_of_mem_tail inside)⟩

theorem reads_expect (kind : TokenKind) :
    Reads (expect kind) fun token => token.kind = kind ∧ token.IsProper := by
  intro tokens token rest proper read
  obtain ⟨found, middle, ⟨⟩, read⟩ := read_of_bind read
  split at read
  · next same =>
    cases read
    exact ⟨⟨same, isProper_front proper⟩,
      fun token inside => proper token (List.mem_of_mem_tail inside)⟩
  · cases read

theorem reads_many {item? : TokenKind → Option (Reader α)}
    (reads : ∀ kind item, item? kind = some item → Reads item yields) :
    Reads (many item?) fun items => ∀ a ∈ items, yields a := by
  intro tokens
  induction length : tokens.length using Nat.strongRecOn generalizing tokens with
  | ind size ih =>
    subst length
    intro items rest proper read
    rcases rounds_of_many read with
      ⟨-, rfl, rfl⟩ | ⟨item, a, middle, found, readItem, later⟩
    · exact ⟨fun _ => List.not_mem_nil.elim, proper⟩
    · obtain ⟨holds, proper'⟩ := reads _ _ found proper readItem
      rcases later with ⟨more, shorter, readMore, rfl⟩ | ⟨rfl, rfl⟩
      · obtain ⟨others, proper''⟩ := ih _ shorter rfl proper' readMore
        exact ⟨List.forall_mem_cons.2 ⟨holds, others⟩, proper''⟩
      · exact ⟨List.forall_mem_singleton.2 holds, proper'⟩

/-- Items that can be told by the token that they start with. -/
theorem reads_manyIf {starts : TokenKind → Prop} [DecidablePred starts] (reads : Reads x yields) :
    Reads (many fun kind => if starts kind then some x else none)
      fun items => ∀ a ∈ items, yields a := by
  refine reads_many fun kind item found => ?_
  split at found
  · cases found
    exact reads
  · contradiction

/-- If the first token starts an item, there is one. -/
theorem ne_nil_of_many {item? : TokenKind → Option (Reader α)} {tokens rest : List Token}
    {items : List α} (starts : (item? (front tokens).kind).isSome)
    (read : many item? tokens = .ok (items, rest)) : items ≠ [] := by
  rcases rounds_of_many read with ⟨none, -⟩ | ⟨item, a, middle, -, -, later⟩
  · rw [none] at starts
    contradiction
  · rcases later with ⟨more, -, -, rfl⟩ | ⟨rfl, -⟩
    · exact List.cons_ne_nil _ _
    · exact List.cons_ne_nil _ _

theorem reads_commaSeparated (reads : Reads x yields) :
    Reads (commaSeparated x) fun items => ∀ a ∈ items, yields a := by
  refine reads.bind fun first holds => ?_
  have others : Reads (many fun kind => if kind = .comma then some (advance *> x) else none)
      fun items => ∀ a ∈ items, yields a := reads_manyIf (reads_advance.then reads)
  exact others.bind fun items holds' => reads_pure (List.forall_mem_cons.2 ⟨holds, holds'⟩)

theorem reads_parenthesized (reads : Reads x yields) :
    Reads (parenthesized x) fun items => ∀ a ∈ items, yields a := by
  refine (reads_expect _).bind fun _ _ => reads_peekKind.bind fun kind _ => ?_
  have closed (items : List α) (holds : ∀ a ∈ items, yields a) :
      Reads (do let _ ← expect .rightParen; return items) fun items => ∀ a ∈ items, yields a :=
    (reads_expect _).bind fun _ _ => reads_pure holds
  split
  · exact (reads_pure fun _ => List.not_mem_nil.elim).bind closed
  · exact (reads_commaSeparated reads).bind closed

/-- A token that may be there is skipped. -/
theorem reads_skipIf {condition : Prop} [Decidable condition] (reads : Reads x yields) :
    Reads (if condition then advance >>= fun _ => x else x) yields := by
  split
  · exact reads_advance.bind fun _ _ => reads
  · exact reads

theorem reads_tooDeep : Reads tooDeep yields :=
  reads_failHere _

end Reader

open Reader

/-- An access whose name and arguments are proper. -/
inductive Access.IsProper : Access → Prop
  | call {method : Name} {args : List Node} (name : method.IsProper)
    (parts : ∀ arg ∈ args, arg.IsExpression) : IsProper (.call method args)
  | fetch {member : Name} (name : member.IsProper) : IsProper (.fetch member)

namespace Expression

variable {expression inner : Reader Node}

theorem reads_chain {operator? : TokenKind → Option BinaryOperator}
    (reads : Reads inner Node.IsExpression) :
    Reads (chain operator? inner) Node.IsExpression := by
  refine reads.bind fun first isExpression => ?_
  have others : Reads (many fun kind => (operator? kind).map fun op => do
      let _ ← advance
      return (op, ← inner)) fun pairs => ∀ pair ∈ pairs, pair.2.IsExpression := by
    refine reads_many fun kind item found => ?_
    obtain ⟨op, -, rfl⟩ := Option.map_eq_some_iff.1 found
    exact reads_advance.bind fun _ _ => reads.bind fun _ part => reads_pure part
  refine others.bind fun pairs parts => reads_pure ?_
  induction pairs generalizing first with
  | nil => exact isExpression
  | cons pair pairs ih =>
    rw [List.forall_mem_cons] at parts
    refine ih _ ?_ parts.2
    obtain ⟨op, right⟩ := pair
    cases op with
    | compare op => exact .compare op isExpression parts.1
    | concat => exact .concat isExpression parts.1
    | arithmetic op => exact .arithmetic op isExpression parts.1

theorem reads_binary (reads : Reads inner Node.IsExpression) :
    Reads (binary inner) Node.IsExpression :=
  reads_chain (reads_chain (reads_chain reads))

/-- Subscripts that start with a bracket have at least one key. -/
theorem read_subscripts (reads : Reads expression Node.IsExpression) {tokens rest : List Token}
    {index : Index} (proper : ∀ token ∈ tokens, token.IsProper)
    (starts : (front tokens).kind = .leftBracket)
    (read : subscripts expression tokens = .ok (index, rest)) :
    index.IsProper ∧ ∀ token ∈ rest, token.IsProper := by
  obtain ⟨keys, middle, readKeys, ⟨⟩⟩ := read_of_bind read
  have nonempty := ne_nil_of_many (by simp [starts]) readKeys
  have parts : Reads (many fun kind =>
      if kind = .leftBracket then some do
        let _ ← advance
        let key ← expression
        let _ ← expect .rightBracket
        return key
      else none) fun keys => ∀ key ∈ keys, key.IsExpression :=
    reads_manyIf (reads_advance.bind fun _ _ => reads.bind fun key part =>
      (reads_expect _).bind fun _ _ => reads_pure part)
  obtain ⟨parts, proper'⟩ := parts proper readKeys
  refine ⟨?_, proper'⟩
  match keys, nonempty, parts with
  | [key], _, parts => exact .key (parts key List.mem_cons_self)
  | first :: second :: keys, _, parts => exact .path (by simp) parts

theorem reads_newObject (reads : Reads expression Node.IsExpression) :
    Reads (newObject expression) Node.IsExpression := by
  refine reads_peek.bind fun token _ => ?_
  have rest (name : Name) (proper : name.IsProper) : Reads (do
      let _ ← advance
      let args ← if (← peekKind) = .leftParen then parenthesized expression else pure []
      return .new name args) Node.IsExpression := by
    refine reads_advance.bind fun _ _ => reads_peekKind.bind fun kind _ => ?_
    split
    · exact (reads_parenthesized reads).bind fun args parts => reads_pure (.new proper parts)
    · exact (reads_pure fun _ => List.not_mem_nil.elim).bind fun args parts =>
        reads_pure (.new proper parts)
  split
  · exact (reads_pure (.written _)).bind rest
  · exact (reads_pure (.computed _)).bind rest
  · exact (reads_failHere _).bind rest

theorem reads_fromVariable (reads : Reads expression Node.IsExpression) (name : String) :
    Reads (fromVariable expression name) Node.IsExpression := by
  intro tokens node rest proper read
  obtain ⟨kind, middle, ⟨⟩, read⟩ := read_of_bind read
  generalize starts : (front tokens).kind = kind at read
  split at read
  · obtain ⟨index, middle, readIndex, ⟨⟩⟩ := read_of_bind read
    obtain ⟨isProper, proper'⟩ := read_subscripts reads proper starts readIndex
    exact ⟨.arrayFetch name isProper, proper'⟩
  · have call : Reads (do
        return .call (.computed (.var name)) (← parenthesized expression)) Node.IsExpression :=
      (reads_parenthesized reads).bind fun args parts => reads_pure (.call (.computed name) parts)
    exact call proper read
  · cases read
    exact ⟨.var name, proper⟩

theorem isExpression_of_constant? {word : String} {node : Node}
    (found : constant? word = some node) : node.IsExpression := by
  unfold constant? at found
  split at found
  · cases found
    exact .integer (by decide)
  · cases found
    exact .text _
  · cases found
    exact .text _
  · contradiction

theorem reads_fromWord (reads : Reads expression Node.IsExpression) (token : Token) :
    Reads (fromWord expression token) Node.IsExpression := by
  refine reads_peekKind.bind fun kind _ => ?_
  split
  · exact (reads_parenthesized reads).bind fun args parts => reads_pure (.call (.written _) parts)
  · split
    · next found => exact reads_pure (isExpression_of_constant? found)
    · exact reads_failAt _ _

theorem reads_primary (reads : Reads expression Node.IsExpression) :
    Reads (primary expression) Node.IsExpression := by
  refine reads_peek.bind fun token proper => ?_
  split
  · exact reads_advance.then (reads_fromVariable reads _)
  · exact reads_advance.then (reads_fromWord reads _)
  · exact reads_advance.then (reads_pure (.text _))
  · next kind =>
    refine reads_advance.bind fun _ _ => ?_
    split
    · next read =>
      exact reads_pure (.integer (nonneg_of_integerLiteral? (proper.integer kind) read))
    · exact reads_failAt _ _
  · refine reads_advance.bind fun _ _ => ?_
    split
    · exact reads_pure (.float _)
    · exact reads_failAt _ _
  · refine reads_advance.bind fun _ _ => reads.bind fun node part => ?_
    exact (reads_expect _).bind fun _ _ => reads_pure part
  · exact reads_advance.then (reads_newObject reads)
  · exact reads_failHere _

theorem isProper_of_memberName? {token : Token} {name : Name}
    (found : memberName? token = some name) : name.IsProper := by
  unfold memberName? at found
  split at found
  · cases found
    exact .computed _
  · cases found
    exact .written _
  · split at found
    · cases found
      exact .written _
    · contradiction

theorem reads_access (reads : Reads expression Node.IsExpression) :
    Reads (access expression) Access.IsProper := by
  refine reads_advance.bind fun _ _ => reads_peek.bind fun token _ => ?_
  split
  · exact reads_failHere _
  · next member found =>
    have proper := isProper_of_memberName? found
    refine reads_advance.bind fun _ _ => reads_peekKind.bind fun kind _ => ?_
    split
    · exact (reads_parenthesized reads).bind fun args parts => reads_pure (.call proper parts)
    · exact reads_pure (.fetch proper)

theorem reads_withAccesses (reads : Reads expression Node.IsExpression) :
    Reads (withAccesses expression) Node.IsExpression := by
  refine (reads_primary reads).bind fun target isExpression => ?_
  have accesses : Reads (many fun kind => if kind = .arrow then some (access expression) else none)
      fun accesses => ∀ access ∈ accesses, access.IsProper := reads_manyIf (reads_access reads)
  refine accesses.bind fun accesses parts => reads_pure ?_
  induction accesses generalizing target with
  | nil => exact isExpression
  | cons access accesses ih =>
    rw [List.forall_mem_cons] at parts
    refine ih _ ?_ parts.2
    cases parts.1 with
    | call name args => exact .methodCall isExpression name args
    | fetch name => exact .memberFetch isExpression name

theorem reads_operandWith {negated : Reader Node} (readsNegated : Reads negated Node.IsExpression)
    (reads : Reads expression Node.IsExpression) :
    Reads (operandWith negated expression) Node.IsExpression := by
  refine reads_peekKind.bind fun kind _ => ?_
  split
  · exact reads_advance.bind fun _ _ => readsNegated.bind fun node part => reads_pure (.negate part)
  · exact reads_withAccesses reads

theorem reads_operand (room : Nat) : Reads (operand room) Node.IsExpression := by
  induction room with
  | zero => exact reads_operandWith reads_tooDeep reads_tooDeep
  | succ room ih => exact reads_operandWith ih (reads_binary ih)

end Expression

theorem Node.reads_readExpression (room : Nat) :
    Reads (Node.readExpression room) Node.IsExpression := by
  cases room with
  | zero => exact reads_tooDeep
  | succ room => exact Expression.reads_binary (Expression.reads_operand room)

/-- Declarations of proper functions and classes. -/
structure Declarations.IsProper (declarations : Declarations) : Prop where
  functions : ∀ decl ∈ declarations.functions, decl.IsProper
  classes : ∀ decl ∈ declarations.classes, decl.IsProper

namespace Declarations.IsProper

theorem empty : Declarations.IsProper ∅ :=
  ⟨fun _ => List.not_mem_nil.elim, fun _ => List.not_mem_nil.elim⟩

theorem append {first second : Declarations} (one : first.IsProper) (two : second.IsProper) :
    (first ++ second).IsProper :=
  ⟨List.forall_mem_append.2 ⟨one.functions, two.functions⟩,
    List.forall_mem_append.2 ⟨one.classes, two.classes⟩⟩

theorem foldr {α : Type} {items : List α} {declarations : α → Declarations}
    (each : ∀ item ∈ items, (declarations item).IsProper) :
    (items.foldr (fun item later => declarations item ++ later) ∅).IsProper := by
  induction items with
  | nil => exact empty
  | cons item items ih =>
    rw [List.forall_mem_cons] at each
    exact each.1.append (ih each.2)

end Declarations.IsProper

namespace Statement

/-- Proper declarations, and a statement if there is a node. -/
def Parts.IsProper (parts : Parts) : Prop :=
  parts.1.IsProper ∧ ∀ node ∈ parts.2, node.IsStatement

/-- Proper declarations and a list of statements. -/
def AreProper (parts : Declarations × List Node) : Prop :=
  parts.1.IsProper ∧ ∀ node ∈ parts.2, node.IsStatement

/-- A member of a class that is proper. -/
inductive Member.IsProper : Member → Prop
  | method {decl : MethodDecl} (function : decl.function.IsProper) : IsProper (.method decl)
  | field {decl : AttributeDecl} (name : IsVariableName decl.name)
    (initial : ∀ node ∈ decl.init, node.IsExpression) : IsProper (.field decl)

theorem areProper_gather {parts : List Parts} (each : ∀ part ∈ parts, part.IsProper) :
    AreProper (gather parts) := by
  refine ⟨.foldr fun part inside => (each part inside).1, fun node inside => ?_⟩
  obtain ⟨part, here, given⟩ := List.mem_filterMap.1 inside
  exact (each part here).2 node given

theorem isProper_none {declarations : Declarations} (proper : declarations.IsProper) :
    Parts.IsProper (declarations, none) :=
  ⟨proper, fun _ given => by cases given⟩

theorem isProper_some {declarations : Declarations} {node : Node} (proper : declarations.IsProper)
    (isStatement : node.IsStatement) : Parts.IsProper (declarations, some node) :=
  ⟨proper, fun _ given => Option.some.inj given ▸ isStatement⟩

theorem isStatement_of_assignment? {value target node : Node} (part : value.IsExpression)
    (object : target.IsExpression) (found : assignment? value target = some node) :
    node.IsStatement := by
  cases object <;> cases found
  case var name => exact .assign name part
  case arrayFetch array index subscripts => exact .arrayAssign array subscripts part
  case memberFetch target member object name => exact .memberAssign object name part

variable {statement : Reader Parts} {expression : Reader Node}

theorem reads_terminator : Reads terminator fun _ => True := by
  refine reads_peekKind.bind fun kind _ => ?_
  split
  · exact reads_advance.map fun _ _ => trivial
  · exact reads_pure trivial
  · exact reads_pure trivial
  · exact reads_failHere _

section Expressions

variable (reads : Reads expression Node.IsExpression)
include reads

theorem reads_condition : Reads (condition expression) Node.IsExpression := by
  refine (reads_expect _).bind fun _ _ => reads.bind fun node part => ?_
  exact (reads_expect _).bind fun _ _ => reads_pure part

theorem reads_expressionStatement : Reads (expressionStatement expression) Node.IsStatement := by
  refine reads.bind fun target object => reads_peekKind.bind fun kind _ => ?_
  split
  · refine reads_advance.bind fun sign _ => reads.bind fun value part => ?_
    split
    · exact reads_failAt _ _
    · next found =>
      exact reads_terminator.then (reads_pure (isStatement_of_assignment? part object found))
  · exact reads_terminator.then (reads_pure (.expression object))

theorem reads_echo : Reads (echo expression) Node.IsStatement := by
  refine (reads_expect _).bind fun _ _ => (reads_commaSeparated reads).bind fun values parts => ?_
  refine reads_terminator.bind fun _ _ => ?_
  split
  · exact reads_pure (.echo (parts _ List.mem_cons_self))
  · refine reads_pure (.sequence fun node inside => ?_)
    obtain ⟨value, here, rfl⟩ := List.mem_map.1 inside
    exact .echo (parts value here)

theorem reads_exit : Reads (exit expression) Node.IsStatement := by
  refine (reads_expect _).bind fun _ _ => reads_peekKind.bind fun kind _ => ?_
  have closed (value : Option Node) (part : ∀ node ∈ value, node.IsExpression) :
      Reads (do terminator; return .exit value) Node.IsStatement :=
    reads_terminator.bind fun _ _ => reads_pure (.exit part)
  have nothing : ∀ node ∈ (none : Option Node), node.IsExpression := fun _ given => by cases given
  split
  · exact (reads_pure nothing).bind closed
  · exact (reads_pure nothing).bind closed
  · exact (reads_pure nothing).bind closed
  · refine (reads.map fun node part => ?_).bind closed
    rintro _ ⟨⟩
    exact part

theorem reads_field (visibility : Visibility) :
    Reads (field expression visibility) fun decl => (Member.field decl).IsProper := by
  refine (reads_expect _).bind fun name isName => reads_peekKind.bind fun kind _ => ?_
  have closed (init : Option Node) (part : ∀ node ∈ init, node.IsExpression) :
      Reads (do let _ ← expect .semicolon; return ⟨visibility, name.value, init⟩)
        fun decl => (Member.field decl).IsProper :=
    (reads_expect _).bind fun _ _ => reads_pure (.field (isName.2.variableName isName.1) part)
  split
  · refine (reads_advance.then (reads.map fun node part => ?_)).bind closed
    rintro _ ⟨⟩
    exact part
  · exact (reads_pure fun _ given => by cases given).bind closed

end Expressions

section Statements

variable (statements : Reads statement Parts.IsProper)
include statements

theorem reads_list (last : TokenKind) : Reads (list statement last) AreProper := by
  have parts : Reads (many fun kind =>
      if kind = last || kind = .endOfSource then none
      else if isTag kind then some (advance *> pure (∅, none))
      else some statement) fun parts => ∀ part ∈ parts, Parts.IsProper part := by
    refine reads_many fun kind item found => ?_
    split at found
    · contradiction
    · split at found <;> cases found
      · exact reads_advance.then (reads_pure (isProper_none .empty))
      · exact statements
  exact parts.bind fun parts each => reads_pure (areProper_gather each)

theorem reads_block : Reads (block statement) AreProper := by
  refine (reads_expect _).bind fun _ _ => (reads_list statements _).bind fun parts proper => ?_
  exact (reads_expect _).bind fun _ _ => reads_pure proper

theorem reads_body :
    Reads (body statement) fun part => part.1.IsProper ∧ part.2.IsStatement := by
  have tags : Reads (many fun kind => if isTag kind then some advance else none)
      fun tokens => ∀ token ∈ tokens, token.IsProper := reads_manyIf reads_advance
  refine tags.bind fun _ _ => statements.bind fun part proper => reads_pure ⟨proper.1, ?_⟩
  obtain ⟨declarations, node⟩ := part
  cases node with
  | none => exact .sequence fun _ => List.not_mem_nil.elim
  | some node => exact proper.2 node rfl

theorem reads_function :
    Reads (function statement) fun part => part.1.IsProper ∧ part.2.IsProper := by
  refine (reads_expect _).bind fun _ _ => (reads_expect _).bind fun name isName => ?_
  refine (reads_parenthesized (reads_expect _)).bind fun params areNames => ?_
  refine (reads_block statements).bind fun parts proper => reads_pure ⟨proper.1, ?_⟩
  refine ⟨isName.2.word isName.1, fun param inside => ?_, proper.2⟩
  obtain ⟨token, here, rfl⟩ := List.mem_map.1 inside
  exact (areNames token here).2.variableName (areNames token here).1

variable (reads : Reads expression Node.IsExpression)
include reads

theorem reads_branch : Reads (branch statement expression) Parts.IsProper := by
  refine (reads_expect _).bind fun _ _ => (reads_condition reads).bind fun condition test => ?_
  refine (reads_body statements).bind fun first proper => reads_peekKind.bind fun kind _ => ?_
  split
  · refine reads_advance.bind fun _ _ => (reads_body statements).bind fun second proper' => ?_
    exact reads_pure (isProper_some (proper.1.append proper'.1) (.ifElse test proper.2 proper'.2))
  · exact reads_pure (isProper_some proper.1 (.ifThen test proper.2))

theorem reads_whileLoop : Reads (whileLoop statement expression) Parts.IsProper := by
  refine (reads_expect _).bind fun _ _ => (reads_condition reads).bind fun condition test => ?_
  refine (reads_body statements).bind fun body proper => ?_
  exact reads_pure (isProper_some proper.1 (.whileDo test proper.2))

theorem reads_doLoop : Reads (doLoop statement expression) Parts.IsProper := by
  refine (reads_expect _).bind fun _ _ => (reads_body statements).bind fun body proper => ?_
  refine (reads_expect _).bind fun _ _ => (reads_condition reads).bind fun condition test => ?_
  refine reads_terminator.bind fun _ _ => ?_
  exact reads_pure (isProper_some proper.1 (.doWhile proper.2 test))

theorem reads_member :
    Reads (member statement expression) fun part => part.1.IsProper ∧ part.2.IsProper := by
  refine reads_peekKind.bind fun kind _ => ?_
  refine reads_skipIf (reads_peekKind.bind fun kind' _ => ?_)
  split
  · exact (reads_function statements).bind fun part proper =>
      reads_pure ⟨proper.1, .method proper.2⟩
  · split
    · exact reads_failHere _
    · exact (reads_field reads _).bind fun decl proper => reads_pure ⟨.empty, proper⟩

theorem reads_classDecl :
    Reads (classDecl statement expression) fun part => part.1.IsProper ∧ part.2.IsProper := by
  refine (reads_expect _).bind fun _ _ => (reads_expect _).bind fun name isName => ?_
  refine (reads_expect _).bind fun _ _ => ?_
  have members : Reads (many fun kind =>
      if kind = .rightBrace || kind = .endOfSource then none
      else some (member statement expression))
      fun parts => ∀ part ∈ parts, part.1.IsProper ∧ part.2.IsProper := by
    refine reads_many fun kind item found => ?_
    split at found
    · contradiction
    · cases found
      exact reads_member statements reads
  refine members.bind fun parts each => (reads_expect _).bind fun _ _ => reads_pure ⟨?_, ?_⟩
  · exact .foldr fun part inside => (each part inside).1
  · have field {decl : AttributeDecl}
        (inside : decl ∈ parts.filterMap fun part => part.2.field?) :
        (Member.field decl).IsProper := by
      obtain ⟨⟨declarations, member⟩, here, given⟩ := List.mem_filterMap.1 inside
      cases member <;> cases given
      exact (each _ here).2
    refine ⟨isName.2.word isName.1, fun decl inside => ?_, fun decl inside => ?_,
      fun decl inside => ?_⟩
    · cases field inside with
      | field name initial => exact name
    · cases field inside with
      | field name initial => exact initial
    · obtain ⟨⟨declarations, member⟩, here, given⟩ := List.mem_filterMap.1 inside
      cases member <;> cases given
      cases (each _ here).2 with
      | method function => exact function

theorem reads_statementWith : Reads (statementWith statement expression) Parts.IsProper := by
  refine reads_peek.bind fun token _ => ?_
  split
  · refine (reads_function statements).bind fun part proper => reads_pure (isProper_none ?_)
    exact proper.1.append ⟨List.forall_mem_singleton.2 proper.2, fun _ => List.not_mem_nil.elim⟩
  · refine (reads_classDecl statements reads).bind fun part proper => reads_pure (isProper_none ?_)
    exact proper.1.append ⟨fun _ => List.not_mem_nil.elim, List.forall_mem_singleton.2 proper.2⟩
  · exact reads_advance.then (reads_pure (isProper_none .empty))
  · exact reads_advance.then (reads_pure (isProper_some .empty (.echo (.text _))))
  · exact (reads_block statements).bind fun parts proper =>
      reads_pure (isProper_some proper.1 (.sequence proper.2))
  · exact reads_branch statements reads
  · exact reads_whileLoop statements reads
  · exact reads_doLoop statements reads
  · exact (reads_echo reads).bind fun node part => reads_pure (isProper_some .empty part)
  · exact (reads_exit reads).bind fun node part => reads_pure (isProper_some .empty part)
  · exact (reads_expressionStatement reads).bind fun node part =>
      reads_pure (isProper_some .empty part)

end Statements

theorem reads_statement (room : Nat) : Reads (Statement.statement room) Parts.IsProper := by
  induction room with
  | zero => exact reads_tooDeep
  | succ room ih => exact reads_statementWith ih (Node.reads_readExpression room)

end Statement

theorem Program.reads_read : Reads Program.read Program.IsProper := by
  refine (Statement.reads_list (Statement.reads_statement _) _).bind fun parts proper => ?_
  refine reads_peekKind.bind fun kind _ => ?_
  split
  · exact reads_pure ⟨proper.1.functions, proper.1.classes, _, rfl, proper.2⟩
  · exact reads_failHere _

/-- Only words, variables and integers have to be spelled in a certain way. -/
theorem Token.isProper_of_ne {kind : TokenKind} {value : String} {place : Position}
    (notWord : kind ≠ .identifier) (notVariable : kind ≠ .variableName)
    (notInteger : kind ≠ .integer) : Token.IsProper ⟨kind, value, place⟩ :=
  ⟨fun same => absurd same notWord, fun same => absurd same notVariable,
    fun same => absurd same notInteger⟩

theorem isWord_cons {c : Char} {rest : List Char} (starts : Lexeme.isNameStart c)
    (each : ∀ d ∈ rest, Lexeme.isNameCharacter d) : IsWord (.ofList (c :: rest)) := by
  constructor
  · intro empty
    have nothing := congrArg String.toList empty
    rw [String.toList_ofList] at nothing
    cases nothing
  · rw [String.toList_ofList]
    exact List.forall_mem_cons.2 ⟨Lexeme.isNameCharacter_of_start starts, each⟩

/-- The words, variables and integers of a script are spelled as such. -/
theorem Piece.InScript.isProper {piece : Piece} (inScript : piece.InScript) (place : Position) :
    Token.IsProper ⟨piece.1, piece.2, place⟩ := by
  cases inScript with
  | string | float => exact Token.isProper_of_ne nofun nofun nofun
  | integer some each =>
    refine ⟨nofun, nofun, fun _ => ?_⟩
    rw [String.toList_ofList]
    exact each
  | variableName dollars starts each =>
    exact ⟨nofun, fun _ => ⟨dollars, _, isWord_cons starts each, by
      rw [String.toList_ofList, String.toList_ofList]⟩, nofun⟩
  | word visible starts each =>
    apply Token.IsProper.mk (fun _ => isWord_cons starts each)
    · unfold TokenKind.ofWord?
      split <;> exact nofun
    · unfold TokenKind.ofWord?
      split <;> exact nofun
  | pair found =>
    unfold Lexeme.pair? at found
    split at found <;> cases found <;> exact Token.isProper_of_ne nofun nofun nofun
  | single found =>
    unfold Lexeme.single? at found
    split at found <;> cases found <;> exact Token.isProper_of_ne nofun nofun nofun

theorem Token.isProper_scanFrom {mode : Mode} {place : Position} {text : List Char}
    {tokens : List Token} (scanned : scanFrom mode place text = .ok tokens) :
    ∀ token ∈ tokens, token.IsProper := by
  intro token inside
  apply forall_scanFrom (motive := fun piece => ∀ place, Token.IsProper ⟨piece.1, piece.2, place⟩)
    _ _ scanned token inside token.position
  · exact fun inScript => inScript.isProper
  · intro kind outer text place
    apply isProper_of_ne <;> rintro rfl <;> contradiction

namespace Expression

/-- A member name told by the text of a token and not by its kind alone. Behind an arrow everything
is one that starts like a word, apart from literals and from what is outside scripts. -/
def memberNameByText? (isLetter : Char → Bool) (token : Token) : Option Name :=
  match token.kind with
  | .variableName => some (.computed (.var token.value))
  | .identifier => some (.written token.value)
  | .string | .integer | .float | .inlineText | .openTag | .closeTag | .endOfSource => none
  | _ =>
    if token.value.toList.head?.any fun c => isLetter c || c = '_' then some (.written token.value)
    else none

/-- A keyword starts with a letter. -/
theorem isAlpha_of_ofWord? {c : Char} {rest : List Char} {kind : TokenKind}
    (found : TokenKind.ofWord? (.ofList (c :: rest)) = some kind) : c.isAlpha := by
  have first {d : Char} {others : List Char}
      (lower : (String.ofList (c :: rest)).map Char.toLower = .ofList (d :: others))
      (letter : d.isAlpha) : c.isAlpha := by
    have same := congrArg String.toList lower
    rw [String.toList_map, String.toList_ofList, String.toList_ofList, List.map_cons] at same
    exact isAlpha_of_toLower ((List.cons.inj same).1 ▸ letter)
  unfold TokenKind.ofWord? at found
  split at found
  case h_14 => contradiction
  all_goals next lower => exact first lower (by decide)

theorem isKeyword_of_ofWord? {word : String} {kind : TokenKind}
    (found : TokenKind.ofWord? word = some kind) : kind.isKeyword := by
  unfold TokenKind.ofWord? at found
  split at found <;> cases found <;> rfl

section ByText

variable {isLetter : Char → Bool} {text : String} {place : Position}

theorem memberName?_eq_byText_of_isKeyword {kind : TokenKind} (keyword : kind.isKeyword)
    (letter : text.toList.head?.any fun c => isLetter c || c = '_') :
    memberName? ⟨kind, text, place⟩ = memberNameByText? isLetter ⟨kind, text, place⟩ := by
  cases kind <;> cases keyword <;> exact (if_pos letter).symm

variable (ascii : ∀ c : Char, c.toNat < 128 → isLetter c = c.isAlpha)
include ascii

/-- A mark does not start like a word. -/
theorem none_eq_of_mark
    (mark : text.toList.head?.all fun c => c.toNat < 128 && !(c.isAlpha || c = '_')) :
    none = if text.toList.head?.any fun c => isLetter c || c = '_' then some (Name.written text)
      else none := by
  cases first : text.toList.head? with
  | none => rfl
  | some c =>
    rw [first, Option.all_some, Bool.and_eq_true, decide_eq_true_eq, Bool.not_eq_true'] at mark
    rw [Option.any_some, ascii c mark.1, mark.2]
    rfl

/-- On the tokens of a source the kind tells what the text would tell, whatever counts as a letter
beyond ASCII. -/
theorem memberName?_eq_byText {source : String} {tokens : List Token}
    (scanned : Token.scan source = .ok tokens) :
    ∀ token ∈ tokens, memberName? token = memberNameByText? isLetter token := by
  intro token inside
  apply Token.forall_scanFrom (motive := fun piece => ∀ place,
    memberName? ⟨piece.1, piece.2, place⟩ = memberNameByText? isLetter ⟨piece.1, piece.2, place⟩)
    _ _ scanned token inside token.position
  · intro piece inScript place
    cases inScript with
    | string | integer | float | variableName => rfl
    | @word c rest visible starts each =>
      cases found : TokenKind.ofWord? (.ofList (c :: rest)) with
      | none => rfl
      | some kind =>
        apply memberName?_eq_byText_of_isKeyword (isKeyword_of_ofWord? found)
        have letter := isAlpha_of_ofWord? found
        rw [String.toList_ofList, List.head?_cons, Option.any_some,
          ascii c (range_of_isAlpha letter).2, letter]
        rfl
    | pair found =>
      unfold Lexeme.pair? at found
      split at found <;> cases found
      all_goals
        apply none_eq_of_mark ascii
        dsimp only
        decide
    | single found =>
      unfold Lexeme.single? at found
      split at found <;> cases found
      all_goals
        apply none_eq_of_mark ascii
        dsimp only
        decide
  · intro kind outer text place
    simp only [TokenKind.outer, List.mem_cons, List.not_mem_nil, or_false] at outer
    rcases outer with rfl | rfl | rfl | rfl <;> rfl

end ByText

end Expression

/-- Every source that can be read yields a proper program. -/
theorem Program.isProper_ofSource {source : String} {program : Program}
    (read : Program.ofSource source = .ok program) : program.IsProper := by
  unfold Program.ofSource at read
  cases scanned : Token.scan source with
  | error fault => rw [scanned] at read; contradiction
  | ok tokens =>
    rw [scanned] at read
    change (Program.parse tokens).mapError Failure.parse = .ok program at read
    unfold Program.parse at read
    cases parsed : Program.read.run tokens with
    | error fault => rw [parsed] at read; contradiction
    | ok pair =>
      rw [parsed] at read
      cases read
      exact (Program.reads_read (Token.isProper_scanFrom scanned) parsed).1

end TagScript
