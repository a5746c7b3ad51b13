import Mathlib.Tactic.IntervalCases
import TagScript.Proofs.Numerals
import TagScript.Proofs.Spelling

/-!
# Expressions by levels

An expression is spelled with parentheses only where its levels require them: an operand that binds
more loosely than its place is put in parentheses, and nothing else is. The reader of expressions
undoes that (`Node.readExpression_pieces`): from the tokens of an expression it reads that
expression and takes exactly those tokens, unless they are nested more deeply than it allows.

Levels are numbered from the loosest to the tightest: 0 comparison and concatenation, 1 addition,
2 multiplication, 3 negation, 4 access to members, 5 primary expressions.
-/

namespace TagScript

open Reader

namespace BinaryOperator

/-- The level that an operator belongs to. -/
def level : BinaryOperator → Nat
  | compare _ | concat => 0
  | arithmetic .add | arithmetic .subtract => 1
  | arithmetic .multiply | arithmetic .divide => 2

/-- The sign of an operator. -/
def piece : BinaryOperator → Piece
  | compare .equal => (.equal, "==")
  | compare .notEqual => (.notEqual, "!=")
  | compare .less => (.less, "<")
  | compare .lessEqual => (.lessEqual, "<=")
  | compare .greater => (.greater, ">")
  | compare .greaterEqual => (.greaterEqual, ">=")
  | concat => (.dot, ".")
  | arithmetic .add => (.plus, "+")
  | arithmetic .subtract => (.minus, "-")
  | arithmetic .multiply => (.star, "*")
  | arithmetic .divide => (.slash, "/")

end BinaryOperator

/-- The level that a token goes on with an expression at. Subscripts and argument lists belong to a
primary expression, so nothing is tight enough to stand in front of them. -/
def TokenKind.continues? : TokenKind → Option Nat
  | .equal | .notEqual | .less | .lessEqual | .greater | .greaterEqual | .dot => some 0
  | .plus | .minus => some 1
  | .star | .slash => some 2
  | .arrow => some 4
  | .leftBracket | .leftParen => some 6
  | _ => none

/-- A token that does not go on with an expression at this level or a tighter one. -/
def Closes (level : Nat) (kind : TokenKind) : Prop :=
  ∀ tightness ∈ kind.continues?, tightness < level

theorem TokenKind.isKeyword_of_ofWord? {word : String} {kind : TokenKind}
    (found : TokenKind.ofWord? word = some kind) : kind.isKeyword = true := by
  unfold TokenKind.ofWord? at found
  split at found <;> cases found <;> rfl

/-- A word of a script. -/
def wordPiece (word : String) : Piece :=
  ((TokenKind.ofWord? word).getD .identifier, word)

/-- A word, or a variable that holds it. -/
def Name.piece : Name → Piece
  | .written word => wordPiece word
  | .computed (.var name) => (.variableName, name)
  | .computed _ => (.variableName, "")

/-- The level of a node. -/
def Node.level : Node → Nat
  | .compare .. | .concat .. => 0
  | .arithmetic op .. => (BinaryOperator.arithmetic op).level
  | .negate _ => 3
  | .methodCall .. | .memberFetch .. => 4
  | _ => 5

/-- Pieces at a place for a level: in parentheses if they belong to a looser one. -/
def within (place level : Nat) (pieces : List Piece) : List Piece :=
  if level < place then (.leftParen, "(") :: (pieces ++ [(.rightParen, ")")]) else pieces

mutual

/-- The pieces that spell an expression. A new object without arguments is spelled with an empty
list of them, or `bare` without one. -/
def Node.pieces (bare : Bool) : Node → List Piece
  | .integer n => [(.integer, toString n.toInt)]
  | .text content => [(.string, content)]
  | .var name => [(.variableName, name)]
  | .arrayFetch array index => (.variableName, array) :: index.pieces bare
  | .call function args => function.piece :: enclosed (Node.piecesOfAll bare args)
  | .new className args =>
    (.kwNew, "new") :: className.piece ::
      (if bare && args.isEmpty then [] else enclosed (Node.piecesOfAll bare args))
  | .methodCall target method args =>
    within 4 target.level (target.pieces bare) ++
      (.arrow, "->") :: method.piece :: enclosed (Node.piecesOfAll bare args)
  | .memberFetch target member =>
    within 4 target.level (target.pieces bare) ++ [(.arrow, "->"), member.piece]
  | .negate operand => (.minus, "-") :: within 3 operand.level (operand.pieces bare)
  | .compare op left right =>
    within 0 left.level (left.pieces bare) ++
      (BinaryOperator.compare op).piece :: within 1 right.level (right.pieces bare)
  | .concat left right =>
    within 0 left.level (left.pieces bare) ++
      BinaryOperator.concat.piece :: within 1 right.level (right.pieces bare)
  | .arithmetic op left right =>
    let level := (BinaryOperator.arithmetic op).level
    within level left.level (left.pieces bare) ++
      (BinaryOperator.arithmetic op).piece :: within (level + 1) right.level (right.pieces bare)
  | _ => []

/-- The pieces of each of some expressions. -/
def Node.piecesOfAll (bare : Bool) : List Node → List (List Piece)
  | [] => []
  | node :: nodes => node.pieces bare :: Node.piecesOfAll bare nodes

/-- The pieces that spell subscripts. -/
def Index.pieces (bare : Bool) : Index → List Piece
  | .key node => (.leftBracket, "[") :: (node.pieces bare ++ [(.rightBracket, "]")])
  | .path nodes => (Node.piecesOfAll bare nodes).flatMap fun pieces =>
    (.leftBracket, "[") :: (pieces ++ [(.rightBracket, "]")])

end

/-- How deeply expressions are nested in one that stands at a place for a level. -/
def nestingWithin (place level nesting : Nat) : Nat :=
  if level < place then nesting + 1 else nesting

mutual

/-- How deeply other expressions and negations are nested in an expression as it is spelled. -/
def Node.nesting : Node → Nat
  | .arrayFetch _ index => index.nesting
  | .call _ args | .new _ args => Node.nestingOfAll args
  | .methodCall target _ args =>
    max (nestingWithin 4 target.level target.nesting) (Node.nestingOfAll args)
  | .memberFetch target _ => nestingWithin 4 target.level target.nesting
  | .negate operand => nestingWithin 3 operand.level operand.nesting + 1
  | .compare _ left right | .concat left right =>
    max (nestingWithin 0 left.level left.nesting) (nestingWithin 1 right.level right.nesting)
  | .arithmetic op left right =>
    let level := (BinaryOperator.arithmetic op).level
    max (nestingWithin level left.level left.nesting)
      (nestingWithin (level + 1) right.level right.nesting)
  | _ => 0

/-- How deeply expressions are nested in what some of them are put into. -/
def Node.nestingOfAll : List Node → Nat
  | [] => 0
  | node :: nodes => max (node.nesting + 1) (Node.nestingOfAll nodes)

/-- How deeply expressions are nested in subscripts. -/
def Index.nesting : Index → Nat
  | .key node => node.nesting + 1
  | .path nodes => Node.nestingOfAll nodes

end

/-- The name of a function or class: a word that is no keyword, or a variable. -/
inductive Name.IsCallee : Name → Prop
  | written {word : String} (free : TokenKind.ofWord? word = none) : IsCallee (.written word)
  | computed (name : String) : IsCallee (.computed (.var name))

/-- The name of a member: any word, or a variable. -/
inductive Name.IsMember : Name → Prop
  | written (word : String) : IsMember (.written word)
  | computed (name : String) : IsMember (.computed (.var name))

/-- An expression that has a spelling without floating point numbers. -/
inductive Node.IsTerm : Node → Prop
  | integer {n : Int64} (natural : 0 ≤ n) : IsTerm (.integer n)
  | text (content : String) : IsTerm (.text content)
  | var (name : String) : IsTerm (.var name)
  | arrayFetch (array : String) {keys : List Node} (some : keys ≠ [])
    (parts : ∀ key ∈ keys, key.IsTerm) : IsTerm (.arrayFetch array (.ofKeys keys))
  | call {function : Name} {args : List Node} (name : function.IsCallee)
    (parts : ∀ arg ∈ args, arg.IsTerm) : IsTerm (.call function args)
  | new {className : Name} {args : List Node} (name : className.IsCallee)
    (parts : ∀ arg ∈ args, arg.IsTerm) : IsTerm (.new className args)
  | methodCall {target : Node} {method : Name} {args : List Node} (object : target.IsTerm)
    (name : method.IsMember) (parts : ∀ arg ∈ args, arg.IsTerm) :
    IsTerm (.methodCall target method args)
  | memberFetch {target : Node} {member : Name} (object : target.IsTerm)
    (name : member.IsMember) : IsTerm (.memberFetch target member)
  | negate {operand : Node} (part : operand.IsTerm) : IsTerm (.negate operand)
  | binary (op : BinaryOperator) {left right : Node} (one : left.IsTerm) (two : right.IsTerm) :
    IsTerm (op.node left right)

namespace BinaryOperator

variable (op : BinaryOperator) (left right : Node)

theorem level_node : (op.node left right).level = op.level := by
  cases op <;> rfl

theorem level_lt : op.level < 3 := by
  cases op with
  | compare op => exact Nat.zero_lt_succ 2
  | concat => decide
  | arithmetic op => cases op <;> decide

theorem pieces_node (bare : Bool) : (op.node left right).pieces bare =
    within op.level left.level (left.pieces bare) ++
      op.piece :: within (op.level + 1) right.level (right.pieces bare) := by
  cases op <;> simp only [node, Node.pieces, level, Nat.zero_add]

theorem nesting_node : (op.node left right).nesting =
    max (nestingWithin op.level left.level left.nesting)
      (nestingWithin (op.level + 1) right.level right.nesting) := by
  cases op <;> simp only [node, Node.nesting, level, Nat.zero_add]

theorem continues?_piece : op.piece.1.continues? = some op.level := by
  cases op with
  | compare op => cases op <;> rfl
  | concat => rfl
  | arithmetic op => cases op <;> rfl

/-- The operators of a level. -/
def atLevel? : Nat → TokenKind → Option BinaryOperator
  | 0 => comparison?
  | 1 => additive?
  | 2 => multiplicative?
  | _ => fun _ => none

theorem atLevel?_piece : atLevel? op.level op.piece.1 = some op := by
  cases op with
  | compare op => cases op <;> rfl
  | concat => rfl
  | arithmetic op => cases op <;> rfl

theorem atLevel?_eq_none {level : Nat} {kind : TokenKind} (closes : Closes level kind) :
    atLevel? level kind = none := by
  cases found : atLevel? level kind with
  | none => rfl
  | some op =>
    have same : kind.continues? = some level := by
      unfold atLevel? at found
      split at found <;> cases kind <;> cases found <;> rfl
    exact absurd (closes level same) (Nat.lt_irrefl level)

end BinaryOperator

theorem closes_of_none {kind : TokenKind} (other : kind.continues? = none) (level : Nat) :
    Closes level kind := by
  intro tightness given
  rw [other] at given
  cases given

theorem Closes.mono {level tighter : Nat} {kind : TokenKind} (closes : Closes level kind)
    (le : level ≤ tighter) : Closes tighter kind :=
  fun tightness given => Nat.lt_of_lt_of_le (closes tightness given) le

theorem Closes.ne {level tightness : Nat} {kind other : TokenKind} (closes : Closes level kind)
    (goesOn : other.continues? = some tightness) (le : level ≤ tightness) : kind ≠ other := by
  rintro rfl
  exact absurd (closes tightness goesOn) (Nat.not_lt.2 le)

namespace Expression

/-- The reader for expressions of a level, or of a tighter one. -/
def atLevel (room : Nat) : Nat → Reader Node
  | 0 => binary (operand room)
  | 1 => chain BinaryOperator.additive? (chain BinaryOperator.multiplicative? (operand room))
  | 2 => chain BinaryOperator.multiplicative? (operand room)
  | 3 => operand room
  | 4 => withAccesses (Node.readExpression room)
  | _ => primary (Node.readExpression room)

/-- Operators of a level, each with its right operand, behind a left operand. -/
def operators (room level : Nat) : Node → Reader Node :=
  folding (operations? (BinaryOperator.atLevel? level) (atLevel room (level + 1)))
    fun left pair => pair.1.node left pair.2

/-- Accesses to members behind a target. -/
def accesses (room : Nat) : Node → Reader Node :=
  folding (accesses? (Node.readExpression room)) Access.node

/-- How an expression of a level goes on behind what was read of it. -/
def loopAt (room : Nat) : Nat → Node → Reader Node
  | 0 => operators room 0
  | 1 => operators room 1
  | 2 => operators room 2
  | 4 => accesses room
  | _ => pure

theorem loopAt_eq_operators {room level : Nat} (loose : level < 3) :
    loopAt room level = operators room level := by
  interval_cases level <;> rfl

/-- A level with a loop starts with the next tighter level. -/
theorem atLevel_eq_bind {room level : Nat} (loose : level < 3 ∨ level = 4) :
    atLevel room level = atLevel room (level + 1) >>= loopAt room level := by
  rcases loose with loose | rfl
  · interval_cases level <;> rfl
  · rfl

/-- The reader for what a minus sign stands in front of. -/
def negated : Nat → Reader Node
  | 0 => tooDeep
  | room + 1 => operand room

theorem operand_eq_operandWith (room : Nat) :
    operand room = operandWith (negated room) (Node.readExpression room) := by
  cases room <;> rfl

/-- The tokens of an expression at a level are read, then whatever else belongs to that level. -/
def Spans (room level : Nat) (pieces : List Piece) (fits : Prop) (node : Node) : Prop :=
  Leads (atLevel room level) pieces (Closes (level + 1)) fits (loopAt room level node)

variable {room level : Nat} {pieces : List Piece} {fits : Prop} {node : Node}

theorem leads_operators_nil :
    Leads (operators room level node) [] (Closes level) True (pure node) := by
  apply leads_folding_nil.mono
  intro kind closes
  rw [operations?, BinaryOperator.atLevel?_eq_none closes]
  rfl

theorem leads_accesses_nil : Leads (accesses room node) [] (Closes 4) True (pure node) := by
  apply leads_folding_nil.mono
  intro kind closes
  exact if_neg (closes.ne rfl (Nat.le_refl 4))

theorem leads_loopAt_nil (room level : Nat) (node : Node) :
    Leads (loopAt room level node) [] (Closes level) True (pure node) := by
  unfold loopAt
  split
  · exact leads_operators_nil
  · exact leads_operators_nil
  · exact leads_operators_nil
  · exact leads_accesses_nil
  · exact leads_refl

/-- In front of a token that does not go on with the level, the expression ends. -/
theorem Spans.takes (spans : Spans room level pieces fits node) :
    Leads (atLevel room level) pieces (Closes level) fits (pure node) := by
  have whole := spans.trans (leads_loopAt_nil room level node)
    (starts_nil fun _ closes => closes.mono (Nat.le_succ level))
  rw [List.append_nil, and_true] at whole
  exact whole

/-- What does not start with a minus sign is an operand without one. -/
theorem Spans.operand (spans : Spans room 4 pieces fits node)
    (starts : Starts pieces (Closes 4) fun kind => kind ≠ .minus) :
    Spans room 3 pieces fits node := by
  unfold Spans
  show Leads (Expression.operand room) pieces _ fits _
  rw [operand_eq_operandWith]
  apply leads_peekKind (p := fun kind => kind ≠ .minus)
  · intro kind other
    exact if_neg other
  · exact starts
  · exact spans.takes

/-- An expression can stand where a looser one is expected. -/
theorem Spans.loosen {looser : Nat} (spans : Spans room level pieces fits node)
    (le : looser ≤ level) (tight : level ≤ 5)
    (starts : 4 ≤ level → Starts pieces (Closes 4) fun kind => kind ≠ .minus) :
    Spans room looser pieces fits node := by
  induction le using Nat.decreasingInduction with
  | self => exact spans
  | of_succ loose below ih =>
    by_cases operand : loose = 3
    · subst operand
      exact ih.operand (starts below)
    · have whole := ih.takes.bind (loopAt room loose)
      rw [← atLevel_eq_bind (by omega)] at whole
      exact whole

/-! ## Parentheses, arguments and subscripts -/

section Parts

variable {expression : Reader Node}

/-- A nested expression in parentheses is a primary expression. -/
theorem leads_parentheses (leads : Leads expression pieces (Closes 0) fits (pure node)) :
    Leads (primary expression) ((.leftParen, "(") :: (pieces ++ [(.rightParen, ")")]))
      (fun _ => True) fits (pure node) := by
  have closed : Leads (expect .rightParen >>= fun _ => pure node) [(.rightParen, ")")]
      (fun _ => True) True (pure node) := leads_expect leads_refl
  have inner := (leads.bind fun node => expect .rightParen >>= fun _ => pure node).trans closed
    (starts_cons fun _ given => by cases given)
  rw [and_true] at inner
  apply leads_cons _ inner
  rintro ⟨kind, value, place⟩ rest ⟨⟩
  rfl

end Parts

end Expression

/-- A node is read from its pieces, however much room there is. -/
structure Node.IsLegible (bare : Bool) (node : Node) : Prop where
  tight : node.level ≤ 5
  opens : ∃ piece others, node.pieces bare = piece :: others ∧ piece.1 ≠ .rightParen ∧
    (4 ≤ node.level → piece.1 ≠ .minus)
  spans : ∀ room, Expression.Spans room node.level (node.pieces bare) (node.nesting ≤ room) node

theorem Node.piecesOfAll_eq_map (bare : Bool) (nodes : List Node) :
    Node.piecesOfAll bare nodes = nodes.map (Node.pieces bare) := by
  induction nodes with
  | nil => rw [Node.piecesOfAll, List.map_nil]
  | cons node nodes ih => rw [Node.piecesOfAll, ih, List.map_cons]

theorem Node.nestingOfAll_le_iff {nodes : List Node} {room : Nat} :
    Node.nestingOfAll nodes ≤ room ↔ ∀ node ∈ nodes, node.nesting < room := by
  induction nodes with
  | nil => simp [Node.nestingOfAll]
  | cons node nodes ih =>
    rw [Node.nestingOfAll, Nat.max_le, Nat.succ_le_iff, ih, List.forall_mem_cons]

theorem Index.pieces_ofKeys (bare : Bool) (keys : List Node) :
    (Index.ofKeys keys).pieces bare = keys.flatMap fun key =>
      (.leftBracket, "[") :: (key.pieces bare ++ [(.rightBracket, "]")]) := by
  rcases keys with _ | ⟨key, _ | ⟨second, keys⟩⟩ <;>
    simp [Index.ofKeys, Index.pieces, Node.piecesOfAll_eq_map, List.flatMap_map]

theorem Index.nesting_ofKeys (keys : List Node) :
    (Index.ofKeys keys).nesting = Node.nestingOfAll keys := by
  rcases keys with _ | ⟨key, _ | ⟨second, keys⟩⟩ <;>
    simp [Index.ofKeys, Index.nesting, Node.nestingOfAll]

namespace Node.IsLegible

open Expression

variable {bare : Bool} {node : Node} {args : List Node}

theorem starts_pieces (legible : node.IsLegible bare) {follow : TokenKind → Prop}
    (high : 4 ≤ node.level) : Starts (node.pieces bare) follow fun kind => kind ≠ .minus := by
  obtain ⟨piece, others, starts, -, notMinus⟩ := legible.opens
  rw [starts]
  exact starts_cons (notMinus high)

/-- An expression takes one level of the room. -/
theorem leads_readExpression (legible : node.IsLegible bare) (room : Nat) :
    Leads (Node.readExpression room) (node.pieces bare) (Closes 0) (node.nesting < room)
      (pure node) := by
  cases room with
  | zero => exact leads_tooDeep.congr (iff_of_false id (Nat.not_lt_zero _))
  | succ room =>
    have spans := (legible.spans room).loosen (Nat.zero_le _) legible.tight legible.starts_pieces
    exact spans.takes.congr Nat.lt_succ_iff.symm

/-- An expression can stand at every place, in parentheses if need be. -/
theorem spans_within (legible : node.IsLegible bare) (room place : Nat) (low : place ≤ 5) :
    Spans room place (within place node.level (node.pieces bare))
      (nestingWithin place node.level node.nesting ≤ room) node := by
  unfold within nestingWithin
  by_cases loose : node.level < place
  · rw [if_pos loose, if_pos loose]
    have primary : Spans room 5 ((.leftParen, "(") :: (node.pieces bare ++ [(.rightParen, ")")]))
        (node.nesting + 1 ≤ room) node :=
      (leads_parentheses (legible.leads_readExpression room)).mono fun _ _ => trivial
    exact primary.loosen low (Nat.le_refl 5) fun _ => starts_cons (by decide)
  · rw [if_neg loose, if_neg loose]
    exact (legible.spans room).loosen (Nat.not_lt.1 loose) legible.tight legible.starts_pieces

/-- The pieces at a place start like an expression. -/
theorem opens_within (legible : node.IsLegible bare) (place : Nat) :
    ∃ piece others, within place node.level (node.pieces bare) = piece :: others ∧
      piece.1 ≠ .rightParen ∧ (4 ≤ place → piece.1 ≠ .minus) := by
  unfold within
  by_cases loose : node.level < place
  · rw [if_pos loose]
    exact ⟨_, _, rfl, by decide, fun _ => by decide⟩
  · obtain ⟨piece, others, starts, notClose, notMinus⟩ := legible.opens
    rw [if_neg loose]
    exact ⟨piece, others, starts, notClose, fun high => notMinus (by omega)⟩

theorem leads_arguments (each : ∀ arg ∈ args, arg.IsLegible bare) (room : Nat) :
    Leads (parenthesized (Node.readExpression room)) (enclosed (Node.piecesOfAll bare args))
      (fun _ => True) (Node.nestingOfAll args ≤ room) (pure args) := by
  have read : ∀ arg ∈ args, Leads (Node.readExpression room) (arg.pieces bare) (Closes 0)
      (arg.nesting < room) (pure (id arg)) := by
    intro arg inside
    exact (each arg inside).leads_readExpression room
  have opens : ∀ arg ∈ args, ∃ piece others,
      arg.pieces bare = piece :: others ∧ piece.1 ≠ .rightParen := by
    intro arg inside
    obtain ⟨piece, others, starts, notClose, -⟩ := (each arg inside).opens
    exact ⟨piece, others, starts, notClose⟩
  have list := leads_parenthesized read opens (closes_of_none rfl 0) (closes_of_none rfl 0)
  rw [List.map_id, ← piecesOfAll_eq_map] at list
  exact list.congr nestingOfAll_le_iff.symm

/-- A key in brackets. -/
theorem leads_key (legible : node.IsLegible bare) (room : Nat) :
    Leads (key (Node.readExpression room))
      ((.leftBracket, "[") :: (node.pieces bare ++ [(.rightBracket, "]")])) (fun _ => True)
      (node.nesting < room) (pure node) := by
  have closed : Leads (expect .rightBracket >>= fun _ => pure node) [(.rightBracket, "]")]
      (fun _ => True) True (pure node) := leads_expect leads_refl
  have inner := ((legible.leads_readExpression room).bind fun key =>
    expect .rightBracket >>= fun _ => pure key).trans closed (starts_cons (closes_of_none rfl 0))
  rw [and_true] at inner
  apply leads_cons _ inner
  intro token rest _
  rfl

theorem leads_subscripts (each : ∀ key ∈ args, key.IsLegible bare) (room : Nat) :
    Leads (subscripts (Node.readExpression room)) ((Index.ofKeys args).pieces bare) (Closes 6)
      ((Index.ofKeys args).nesting ≤ room) (pure (Index.ofKeys args)) := by
  have last : ∀ kind, Closes 6 kind → True ∧ kind ≠ .leftBracket :=
    fun kind closes => ⟨trivial, closes.ne rfl (Nat.le_refl 6)⟩
  have keys : ∀ key ∈ args, Leads _ ((.leftBracket, "[") ::
      (key.pieces bare ++ [(.rightBracket, "]")])) (fun _ => True) (key.nesting < room)
      (pure (id key)) := fun key inside => (each key inside).leads_key room
  have list := (leads_many_list keys trivial last).bind fun keys => pure (Index.ofKeys keys)
  rw [List.map_id, ← Index.pieces_ofKeys] at list
  rw [Index.nesting_ofKeys]
  exact list.congr nestingOfAll_le_iff.symm

/-! ## One case for each form of an expression -/

/-- A primary expression is read as one. -/
theorem of_primary {kind : TokenKind} {value : String} {others : List Piece}
    (level : node.level = 5) (starts : node.pieces bare = (kind, value) :: others)
    (notClose : kind ≠ .rightParen) (notMinus : kind ≠ .minus)
    (reads : ∀ room, Leads (primary (Node.readExpression room)) ((kind, value) :: others) (Closes 6)
      (node.nesting ≤ room) (pure node)) : node.IsLegible bare := by
  constructor
  case tight => exact Nat.le_of_eq level
  case opens => exact ⟨_, others, starts, notClose, fun _ => notMinus⟩
  case spans =>
    intro room
    rw [starts, level]
    exact reads room

theorem integer {n : Int64} (natural : 0 ≤ n) : (Node.integer n).IsLegible bare := by
  have value : integerLiteral? (toString n.toInt).toList = some n := by
    obtain ⟨m, same⟩ := Int.eq_ofNat_of_zero_le (Int64.le_iff_toInt_le.1 natural)
    have digits : (toString n.toInt).toList = Nat.toDigits 10 m := by
      rw [same]
      exact toList_toString_natCast m
    rw [digits, integerLiteral?_of_areDigits (fun _ => isDigit_of_mem_toDigits)
      Nat.toDigits_ne_nil, Decimal.digitsValue_toDigits, ← int64?_toInt n, same]
  apply of_primary rfl (by rw [Node.pieces]) (by decide) (by decide)
  intro room
  apply leads_cons _ (leads_refl.congr (iff_of_true trivial (Nat.zero_le room)))
  rintro ⟨kind, digits, place⟩ rest same
  have sameKind : kind = .integer := congrArg Prod.fst same
  have sameDigits : digits = toString n.toInt := congrArg Prod.snd same
  rw [sameKind, sameDigits, primary, peek_bind]
  dsimp only
  rw [advance_bind, value]

theorem text (content : String) : (Node.text content).IsLegible bare := by
  apply of_primary rfl (by rw [Node.pieces]) (by decide) (by decide)
  intro room
  apply leads_cons _ (leads_refl.congr (iff_of_true trivial (Nat.zero_le room)))
  rintro ⟨kind, value, place⟩ rest ⟨⟩
  rfl

/-- What starts with a variable is read by what follows it. -/
theorem leads_variable {name : String} {pieces : List Piece} {room : Nat} {fits : Prop}
    (leads : Leads (fromVariable (Node.readExpression room) name) pieces (Closes 6) fits
      (pure node)) :
    Leads (primary (Node.readExpression room)) ((.variableName, name) :: pieces) (Closes 6) fits
      (pure node) := by
  apply leads_cons _ leads
  rintro ⟨kind, value, place⟩ rest ⟨⟩
  rfl

theorem var (name : String) : (Node.var name).IsLegible bare := by
  apply of_primary rfl (by rw [Node.pieces]) (by decide) (by decide)
  intro room
  apply leads_variable
  apply leads_peekKind (p := Closes 6) (y := pure (.var name))
  · intro kind closes
    cases kind with
    | leftBracket | leftParen => exact absurd rfl (closes.ne rfl (Nat.le_refl 6))
    | _ => rfl
  · exact starts_nil fun _ => id
  · exact leads_refl.congr (iff_of_true trivial (Nat.zero_le room))

theorem arrayFetch (array : String) (some : args ≠ []) (each : ∀ key ∈ args, key.IsLegible bare) :
    (Node.arrayFetch array (.ofKeys args)).IsLegible bare := by
  apply of_primary rfl (by rw [Node.pieces]) (by decide) (by decide)
  intro room
  apply leads_variable
  apply leads_peekKind (p := fun kind => kind = .leftBracket)
    (y := subscripts (Node.readExpression room) >>= fun index => pure (.arrayFetch array index))
  · rintro kind rfl
    rfl
  · rw [Index.pieces_ofKeys]
    cases args with
    | nil => exact absurd rfl some
    | cons key keys => exact starts_cons rfl
  · exact (leads_subscripts each room).bind fun index => pure (Node.arrayFetch array index)

theorem call {function : Name} (name : function.IsCallee)
    (each : ∀ arg ∈ args, arg.IsLegible bare) : (Node.call function args).IsLegible bare := by
  have list (room : Nat) := ((leads_arguments each room).mono fun kind (_ : Closes 6 kind) =>
    trivial).bind fun args => pure (Node.call function args)
  cases name with
  | @written word free =>
    have starts : (Node.call (.written word) args).pieces bare =
        (.identifier, word) :: enclosed (Node.piecesOfAll bare args) := by
      rw [Node.pieces, Name.piece, wordPiece, free]
      rfl
    apply of_primary rfl starts (by decide) (by decide)
    intro room
    apply leads_lookahead (p := fun kind => kind = .leftParen) _ (list room) (starts_cons rfl)
    rintro ⟨kind, value, place⟩ rest ⟨⟩ opens
    show (if (front rest).kind = .leftParen then _ else _ : Reader Node) rest = _
    rw [if_pos opens]
    rfl
  | computed held =>
    apply of_primary rfl (by rw [Node.pieces, Name.piece]) (by decide) (by decide)
    intro room
    apply leads_variable
    apply leads_peekKind (p := fun kind => kind = .leftParen) _ (starts_cons rfl) (list room)
    rintro kind rfl
    rfl

/-- The list of arguments of a new object, which may be missing if it is empty. -/
theorem leads_newArguments (each : ∀ arg ∈ args, arg.IsLegible bare) (room : Nat)
    (className : Name) :
    Leads (peekKind >>= fun kind =>
        if kind = .leftParen then
          parenthesized (Node.readExpression room) >>= fun args => pure (Node.new className args)
        else pure (Node.new className []))
      (if bare && args.isEmpty then [] else enclosed (Node.piecesOfAll bare args)) (Closes 6)
      (Node.nestingOfAll args ≤ room) (pure (Node.new className args)) := by
  by_cases missing : (bare && args.isEmpty) = true
  · have none : args = [] := List.isEmpty_iff.1 (Bool.and_eq_true_iff.1 missing).2
    subst none
    rw [if_pos missing]
    apply leads_peekKind (p := Closes 6) (y := pure (.new className []))
    · intro kind closes
      exact if_neg (closes.ne rfl (Nat.le_refl 6))
    · exact starts_nil fun _ => id
    · exact leads_refl.congr (iff_of_true trivial (Nat.zero_le room))
  · rw [if_neg missing]
    apply leads_peekKind (p := fun kind => kind = .leftParen) _ (starts_cons rfl)
      (((leads_arguments each room).mono fun _ _ => trivial).bind fun args =>
        pure (Node.new className args))
    intro kind opens
    exact if_pos opens

theorem new {className : Name} (name : className.IsCallee)
    (each : ∀ arg ∈ args, arg.IsLegible bare) : (Node.new className args).IsLegible bare := by
  apply of_primary rfl (by rw [Node.pieces]) (by decide) (by decide)
  intro room
  have list := leads_newArguments each room className
  apply leads_cons (y := newObject (Node.readExpression room))
  · rintro ⟨kind, value, place⟩ rest ⟨⟩
    rfl
  cases name with
  | written free =>
    rw [Name.piece, wordPiece, free]
    apply leads_cons _ list
    rintro ⟨kind, value, place⟩ rest ⟨⟩
    rfl
  | computed held =>
    apply leads_cons _ list
    rintro ⟨kind, value, place⟩ rest ⟨⟩
    rfl

/-! ## Accesses, negation and operators -/

/-- An access behind a target goes on with the target it makes. -/
theorem of_access {target : Node} (legible : target.IsLegible bare) (access : Access)
    {pieces : List Piece} {fits : Nat → Prop} (level : (access.node target).level = 4)
    (starts : (access.node target).pieces bare =
      within 4 target.level (target.pieces bare) ++ (.arrow, "->") :: pieces)
    (fitting : ∀ room, (access.node target).nesting ≤ room ↔
      nestingWithin 4 target.level target.nesting ≤ room ∧ fits room)
    (reads : ∀ room, Leads (Expression.access (Node.readExpression room)) ((.arrow, "->") :: pieces)
      (Closes 5) (fits room) (pure access)) : (access.node target).IsLegible bare := by
  constructor
  case tight => omega
  case opens =>
    obtain ⟨piece, others, opens, notClose, notMinus⟩ := legible.opens_within 4
    rw [starts, opens]
    exact ⟨piece, _, rfl, notClose, fun _ => notMinus (Nat.le_refl 4)⟩
  case spans =>
    intro room
    have round : Leads (accesses room target) ((.arrow, "->") :: pieces) (Closes 5) (fits room)
        (accesses room (access.node target)) := leads_folding (if_pos rfl) (reads room)
    have arrow : Closes 5 .arrow := by
      rintro _ ⟨⟩
      decide
    have first : Leads (atLevel room 4) (within 4 target.level (target.pieces bare)) (Closes 5)
        (nestingWithin 4 target.level target.nesting ≤ room) (accesses room target) :=
      legible.spans_within room 4 (by decide)
    rw [starts, level]
    exact (first.trans round (starts_cons arrow)).congr (fitting room).symm

/-- After an arrow, the spelling of a member is taken for it. -/
theorem memberName?_eq {member : Name} (name : member.IsMember) {token : Token}
    (same : token.piece = member.piece) : memberName? token = some member := by
  obtain ⟨kind, value, place⟩ := token
  cases name with
  | computed held =>
    cases same
    rfl
  | written word =>
    have sameKind : kind = (TokenKind.ofWord? word).getD .identifier := congrArg Prod.fst same
    have sameValue : value = word := congrArg Prod.snd same
    cases found : TokenKind.ofWord? word with
    | none =>
      rw [sameKind, sameValue, found]
      rfl
    | some keyword =>
      have isKeyword := TokenKind.isKeyword_of_ofWord? found
      rw [sameKind, sameValue, found, Option.getD_some, memberName?.eq_def]
      cases keyword with
      | variableName | identifier => cases isKeyword
      | _ => exact if_pos isKeyword

/-- What follows a member: its arguments if it is called. -/
theorem leads_member {member : Name} (name : member.IsMember) {room : Nat} {pieces : List Piece}
    {fits : Prop} {access : Access}
    (leads : Leads (peekKind >>= fun kind =>
        if kind = .leftParen then
          parenthesized (Node.readExpression room) >>= fun args => pure (Access.call member args)
        else pure (Access.fetch member)) pieces (Closes 5) fits (pure access)) :
    Leads (Expression.access (Node.readExpression room)) ((.arrow, "->") :: member.piece :: pieces)
      (Closes 5) fits (pure access) := by
  intro tokens rest spelled ended
  obtain ⟨arrow, others, rfl, -, spelled⟩ := List.map_eq_cons_iff.1 spelled
  obtain ⟨token, others, rfl, same, spelled⟩ := List.map_eq_cons_iff.1 spelled
  have goes : Expression.access (Node.readExpression room) (arrow :: token :: (others ++ rest)) =
      (peekKind >>= fun kind =>
        if kind = .leftParen then
          parenthesized (Node.readExpression room) >>= fun args => pure (Access.call member args)
        else pure (Access.fetch member)) (others ++ rest) := by
    rw [Expression.access, advance_bind, peek_bind, memberName?_eq name same]
    rfl
  rw [List.cons_append, List.cons_append, goes]
  exact leads spelled ended

theorem methodCall {target : Node} {method : Name} (legible : target.IsLegible bare)
    (name : method.IsMember) (each : ∀ arg ∈ args, arg.IsLegible bare) :
    (Node.methodCall target method args).IsLegible bare := by
  have fitting (room : Nat) : (Node.methodCall target method args).nesting ≤ room ↔
      nestingWithin 4 target.level target.nesting ≤ room ∧ Node.nestingOfAll args ≤ room := by
    rw [Node.nesting, max_le_iff]
  apply legible.of_access (.call method args) rfl (Node.pieces.eq_def ..) fitting
  intro room
  apply leads_member name
  apply leads_peekKind (p := fun kind => kind = .leftParen) _ (starts_cons rfl)
    (((leads_arguments each room).mono fun _ _ => trivial).bind fun args =>
      pure (Access.call method args))
  intro kind opens
  exact if_pos opens

theorem memberFetch {target : Node} {member : Name} (legible : target.IsLegible bare)
    (name : member.IsMember) : (Node.memberFetch target member).IsLegible bare := by
  have fitting (room : Nat) : (Node.memberFetch target member).nesting ≤ room ↔
      nestingWithin 4 target.level target.nesting ≤ room ∧ True := by
    rw [and_true, Node.nesting]
  apply legible.of_access (.fetch member) rfl (Node.pieces.eq_def ..) fitting
  intro room
  apply leads_member name
  apply leads_peekKind (p := Closes 5) _ (starts_nil fun _ => id) leads_refl
  intro kind closes
  exact if_neg (closes.ne rfl (by decide))

/-- A negation takes one level of the room. -/
theorem negate (legible : node.IsLegible bare) : (Node.negate node).IsLegible bare := by
  have pieces : (Node.negate node).pieces bare =
      (.minus, "-") :: within 3 node.level (node.pieces bare) := by
    rw [Node.pieces]
  constructor
  case tight => exact Nat.le_add_right 3 2
  case opens =>
    rw [pieces]
    exact ⟨_, _, rfl, by decide, fun high => absurd high (Nat.not_succ_le_self 3)⟩
  case spans =>
    intro room
    rw [pieces]
    show Leads (operand room) _ (Closes 4) _ (pure (Node.negate node))
    rw [operand_eq_operandWith]
    apply leads_peekKind (p := fun kind => kind = .minus)
      (y := advance >>= fun _ => negated room >>= fun node => pure (.negate node))
    · intro kind minus
      exact if_pos minus
    · exact starts_cons rfl
    · apply leads_cons (y := negated room >>= fun node => pure (.negate node))
      · intro token rest _
        rfl
      cases room with
      | zero =>
        apply (leads_tooDeep.bind fun node => pure (Node.negate node)).congr
        exact iff_of_false id (Nat.not_succ_le_zero _)
      | succ room =>
        have inner := (legible.spans_within room 3 (by decide)).bind fun node =>
          pure (Node.negate node)
        exact inner.congr Nat.succ_le_succ_iff.symm

theorem binary (op : BinaryOperator) {left right : Node} (one : left.IsLegible bare)
    (two : right.IsLegible bare) : (op.node left right).IsLegible bare := by
  have loose := op.level_lt
  constructor
  case tight =>
    rw [op.level_node]
    omega
  case opens =>
    obtain ⟨piece, others, opens, notClose, -⟩ := one.opens_within op.level
    rw [op.pieces_node, op.level_node, opens]
    exact ⟨piece, _, rfl, notClose, fun high => by omega⟩
  case spans =>
    intro room
    have closes : Closes (op.level + 1) op.piece.1 := by
      intro tightness given
      rw [op.continues?_piece] at given
      cases given
      exact Nat.lt_succ_self _
    have first := one.spans_within room op.level (by omega)
    have second := (two.spans_within room (op.level + 1) (by omega)).takes.bind fun right =>
      pure (op, right)
    have item : Leads (advance >>= fun _ => atLevel room (op.level + 1) >>= fun right =>
        pure (op, right)) (op.piece :: _) _ _ (pure (op, right)) :=
      leads_cons (fun _ _ _ => rfl) second
    have found : ((BinaryOperator.atLevel? op.level op.piece.1).map fun found =>
        advance >>= fun _ => atLevel room (op.level + 1) >>= fun right => pure (found, right)) =
        some _ := congrArg _ op.atLevel?_piece
    have round : Leads (operators room op.level left) (op.piece :: _) _ _
        (operators room op.level (op.node left right)) :=
      leads_folding found item
    unfold Spans at first
    rw [loopAt_eq_operators loose] at first
    rw [op.level_node, op.pieces_node, op.nesting_node, Spans, loopAt_eq_operators loose]
    exact (first.trans round (starts_cons closes)).congr max_le_iff.symm

end Node.IsLegible

/-- Every expression without floating point numbers is legible. -/
theorem Node.IsTerm.isLegible {node : Node} (term : node.IsTerm) (bare : Bool) :
    node.IsLegible bare := by
  induction term with
  | integer natural => exact .integer natural
  | text content => exact .text content
  | var name => exact .var name
  | arrayFetch array some _ ih => exact .arrayFetch array some ih
  | call name _ ih => exact .call name ih
  | new name _ ih => exact .new name ih
  | methodCall _ name _ object ih => exact object.methodCall name ih
  | memberFetch _ name object => exact object.memberFetch name
  | negate _ ih => exact ih.negate
  | binary op _ _ one two => exact .binary op one two

/-- From the tokens of an expression, in front of a token that cannot go on with it, that expression
is read and exactly those tokens are taken. The reader fails only if the expression is nested more
deeply than there is room for. -/
theorem Node.readExpression_pieces {node : Node} (term : node.IsTerm) (bare : Bool) (room : Nat)
    {tokens rest : List Token} (spelled : tokens.map Token.piece = node.pieces bare)
    (ended : (front rest).kind.continues? = none) :
    (node.nesting < room ∧ Node.readExpression room (tokens ++ rest) = .ok (node, rest)) ∨
      (room ≤ node.nesting ∧
        ∃ place, Node.readExpression room (tokens ++ rest) = .error ⟨place, .tooDeep⟩) := by
  rw [← Nat.not_lt]
  exact (term.isLegible bare).leads_readExpression room spelled (closes_of_none ended 0)

/-- The expression `1 - (2 - $a["k"][$i]) * -new C->new(3)->$m == $f($x . "y")`. -/
def knot : Node :=
  .compare .equal
    (.arithmetic .subtract (.integer 1)
      (.arithmetic .multiply
        (.arithmetic .subtract (.integer 2) (.arrayFetch "a" (.ofKeys [.text "k", .var "i"])))
        (.negate (.memberFetch
          (.methodCall (.new (.written "C") []) (.written "new") [.integer 3])
          (.computed (.var "m"))))))
    (.call (.computed (.var "f")) [.concat (.var "x") (.text "y")])

/-- The tokens of `knot`, all at one place. -/
def knotTokens : List Token :=
  [(.integer, "1"), (.minus, "-"), (.leftParen, "("), (.integer, "2"), (.minus, "-"),
    (.variableName, "a"), (.leftBracket, "["), (.string, "k"), (.rightBracket, "]"),
    (.leftBracket, "["), (.variableName, "i"), (.rightBracket, "]"), (.rightParen, ")"),
    (.star, "*"), (.minus, "-"), (.kwNew, "new"), (.identifier, "C"), (.arrow, "->"),
    (.kwNew, "new"), (.leftParen, "("), (.integer, "3"), (.rightParen, ")"), (.arrow, "->"),
    (.variableName, "m"), (.equal, "=="), (.variableName, "f"), (.leftParen, "("),
    (.variableName, "x"), (.dot, "."), (.string, "y"), (.rightParen, ")")].map
      fun (kind, value) => ⟨kind, value, .start⟩

theorem isTerm_knot : knot.IsTerm := by
  have keys : ∀ key ∈ [Node.text "k", .var "i"], key.IsTerm := by
    simp [Node.IsTerm.text, Node.IsTerm.var]
  have numbers : ∀ arg ∈ [Node.integer 3], arg.IsTerm := by
    simp [Node.IsTerm.integer]
  have parts : ∀ arg ∈ [Node.concat (.var "x") (.text "y")], arg.IsTerm := by
    rintro _ ⟨⟩
    · exact .binary .concat (.var "x") (.text "y")
    · contradiction
  have object : (Node.new (.written "C") []).IsTerm := .new (.written (by decide +kernel)) nofun
  have call := (object.methodCall (.written "new") numbers).memberFetch (.computed "m")
  have difference := Node.IsTerm.binary (.arithmetic .subtract) (.integer (n := 2) (by decide))
    (.arrayFetch "a" (List.cons_ne_nil _ _) keys)
  have product := Node.IsTerm.binary (.arithmetic .multiply) difference call.negate
  exact .binary (.compare .equal)
    (.binary (.arithmetic .subtract) (.integer (n := 1) (by decide)) product)
    (.call (.computed "f") parts)

theorem Node.readExpression_pieces_of_knot :
    Node.readExpression 3 (knotTokens ++ [⟨.semicolon, ";", .start⟩]) =
        .ok (knot, [⟨.semicolon, ";", .start⟩]) ∧
      ∃ place, Node.readExpression 2 (knotTokens ++ [⟨.semicolon, ";", .start⟩]) =
        .error ⟨place, .tooDeep⟩ := by
  have spelled : knotTokens.map Token.piece = knot.pieces true := by
    decide +kernel
  have ended : (front [⟨.semicolon, ";", .start⟩]).kind.continues? = none := rfl
  have depth : knot.nesting = 2 := by
    rfl
  constructor
  · rcases Node.readExpression_pieces isTerm_knot true 3 spelled ended with ⟨-, read⟩ | ⟨deep, -⟩
    · exact read
    · omega
  · rcases Node.readExpression_pieces isTerm_knot true 2 spelled ended with ⟨fit, -⟩ | ⟨-, fails⟩
    · omega
    · exact fails

end TagScript
