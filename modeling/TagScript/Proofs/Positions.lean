import Mathlib
import TagScript.Proofs.Parsing

/-!
# What stands where in a program

Statements and expressions are nodes of one type, but a source does not yield just any tree of
nodes. `Program.Contains` runs through all nodes of a program, those in declarations included, and
tells whether a node stands where its value is used or where only its effect counts.
`Program.isWellFormed_ofSource` says what is known of the names and of every single node when the
program was read from a source.

The grammar itself is `Program.IsProper`. It is handed down from a node to its parts, and with it
from a program to everything that it contains.
-/

namespace TagScript

/-- What a node is there for: its effect only, or its value. -/
inductive Role
  | statement
  | value
  deriving DecidableEq, Repr

/-- The node that computes a name. -/
def Name.parts : Name → List Node
  | written _ => []
  | computed node => [node]

namespace Node

/-- The nodes that a node is made of, with what they are there for. -/
def parts : Node → List (Role × Node)
  | var _ | text _ | integer _ | float _ => []
  | sequence nodes => nodes.map (.statement, ·)
  | assign _ value | echo value => [(.value, value)]
  | ifThen condition thenBranch => [(.value, condition), (.statement, thenBranch)]
  | ifElse condition thenBranch elseBranch =>
    [(.value, condition), (.statement, thenBranch), (.statement, elseBranch)]
  | whileDo condition body => [(.value, condition), (.statement, body)]
  | doWhile body condition => [(.statement, body), (.value, condition)]
  | exit value => value.toList.map (.value, ·)
  | arrayAssign _ index value => (index.keys ++ [value]).map (.value, ·)
  | arrayFetch _ index => index.keys.map (.value, ·)
  | call name args | new name args => (name.parts ++ args).map (.value, ·)
  | methodCall target name args => (target :: name.parts ++ args).map (.value, ·)
  | memberFetch target name => (target :: name.parts).map (.value, ·)
  | memberAssign target name value => (target :: name.parts ++ [value]).map (.value, ·)
  | compare _ left right | arithmetic _ left right | concat left right =>
    [(.value, left), (.value, right)]
  | negate operand => [(.value, operand)]

/-- Whether a node is of a form that is there for its effect only. -/
def isCommand : Node → Bool
  | sequence _ | assign _ _ | arrayAssign _ _ _ | memberAssign _ _ _ | ifThen _ _ | ifElse _ _ _
  | whileDo _ _ | doWhile _ _ | echo _ | exit _ => true
  | _ => false

/-- The subscripts that a node mentions. -/
def index? : Node → Option Index
  | arrayAssign _ index _ | arrayFetch _ index => some index
  | _ => none

end Node

namespace Program

/-- The nodes of a program, at any depth, and what they are there for. -/
inductive Contains (program : Program) : Role → Node → Prop
  | body : Contains program .statement program.body
  | function {decl : FunctionDecl} {node : Node} (declared : decl ∈ program.functions)
    (inside : node ∈ decl.body) : Contains program .statement node
  | method {decl : ClassDecl} {method : MethodDecl} {node : Node}
    (declared : decl ∈ program.classes) (listed : method ∈ decl.methods)
    (inside : node ∈ method.function.body) : Contains program .statement node
  | initial {decl : ClassDecl} {member : AttributeDecl} {node : Node}
    (declared : decl ∈ program.classes) (listed : member ∈ decl.attributes)
    (given : member.init = some node) : Contains program .value node
  | part {role role' : Role} {node part : Node} (whole : Contains program role node)
    (inside : (role', part) ∈ node.parts) : Contains program role' part

/-- The functions of a program and the methods of its classes. -/
def allFunctions (program : Program) : List FunctionDecl :=
  program.functions ++ program.classes.flatMap fun decl => decl.methods.map MethodDecl.function

/-- The names of functions, methods and classes. -/
def words (program : Program) : List String :=
  program.allFunctions.map FunctionDecl.name ++ program.classes.map ClassDecl.name

/-- The names of parameters and attributes. -/
def variableNames (program : Program) : List String :=
  program.allFunctions.flatMap FunctionDecl.params ++
    program.classes.flatMap fun decl => decl.attributes.map AttributeDecl.name

/-- What running a program relies on. -/
structure IsWellFormed (program : Program) : Prop where
  /-- Functions, methods and classes have words for names, so none of the signs that keys, scopes
  and variables are made with. -/
  words : ∀ name ∈ program.words,
    IsWord name ∧ ∀ sign ∈ ['#', ':', '.', '$'], sign ∉ name.toList
  /-- Parameters and attributes are named by words that dollar signs may precede. -/
  variableNames : ∀ name ∈ program.variableNames, IsVariableName name
  /-- A path of subscripts has at least two keys. -/
  paths : ∀ role node, program.Contains role node → ∀ keys, node.index? = some (.path keys) →
    2 ≤ keys.length
  /-- Only a variable computes a name. -/
  computed : ∀ role node, program.Contains role node → ∀ inner,
    node.name? = some (.computed inner) → ∃ name, inner = .var name
  /-- Integers have no sign. -/
  natural : ∀ role n, program.Contains role (.integer n) → 0 ≤ n
  /-- Where a value is used, no node stands that is there for its effect. -/
  values : ∀ node, program.Contains .value node → node.isCommand = false
  /-- The body is a sequence. -/
  body : ∃ nodes, program.body = .sequence nodes

end Program

/-- The grammar of the nodes that are there for something. -/
def Role.Admits : Role → Node → Prop
  | statement => Node.IsStatement
  | value => Node.IsExpression

/-- A name is computed by an expression, if at all. -/
theorem Name.IsProper.parts {name : Name} (proper : name.IsProper) :
    ∀ node ∈ name.parts, node.IsExpression := by
  cases proper with
  | written name => exact fun _ => List.not_mem_nil.elim
  | computed name => exact List.forall_mem_singleton.2 (.var name)

theorem Index.IsProper.forall_mem_keys {index : Index} (proper : index.IsProper) :
    ∀ node ∈ index.keys, node.IsExpression := by
  cases proper with
  | key part => exact List.forall_mem_singleton.2 part
  | path several parts => exact parts

namespace Node

/-- Parts that are all there for their values. -/
theorem admits_of_mem_values {nodes : List Node} {part : Node} {role : Role}
    (each : ∀ node ∈ nodes, node.IsExpression)
    (inside : (role, part) ∈ nodes.map (Role.value, ·)) : role.Admits part := by
  rcases List.mem_map.1 inside with ⟨node, here, same⟩
  cases same
  exact each _ here

theorem forall_mem_pair {left right : Node} (first : left.IsExpression)
    (second : right.IsExpression) : ∀ node ∈ [left, right], node.IsExpression :=
  List.forall_mem_cons.2 ⟨first, List.forall_mem_singleton.2 second⟩

/-- The parts of an expression are expressions. -/
theorem IsExpression.admits_part {node part : Node} {role : Role} (expression : node.IsExpression)
    (inside : (role, part) ∈ node.parts) : role.Admits part := by
  cases expression with
  | var | text | integer | float => cases inside
  | call name args | new name args =>
    exact admits_of_mem_values (List.forall_mem_append.2 ⟨name.parts, args⟩) inside
  | arrayFetch array subscripts => exact admits_of_mem_values subscripts.forall_mem_keys inside
  | methodCall object name args =>
    apply admits_of_mem_values _ inside
    exact List.forall_mem_cons.2 ⟨object, List.forall_mem_append.2 ⟨name.parts, args⟩⟩
  | memberFetch object name =>
    exact admits_of_mem_values (List.forall_mem_cons.2 ⟨object, name.parts⟩) inside
  | compare op first second | arithmetic op first second | concat first second =>
    exact admits_of_mem_values (forall_mem_pair first second) inside
  | negate operand => exact admits_of_mem_values (List.forall_mem_singleton.2 operand) inside

/-- The parts of a statement are statements or expressions, each where it belongs. -/
theorem IsStatement.admits_part {node part : Node} {role : Role} (statement : node.IsStatement)
    (inside : (role, part) ∈ node.parts) : role.Admits part := by
  cases statement with
  | expression expression => exact expression.admits_part inside
  | sequence statements =>
    rcases List.mem_map.1 inside with ⟨node, here, same⟩
    cases same
    exact statements _ here
  | assign name value | echo value =>
    exact admits_of_mem_values (List.forall_mem_singleton.2 value) inside
  | arrayAssign array subscripts value =>
    apply admits_of_mem_values _ inside
    exact List.forall_mem_append.2
      ⟨subscripts.forall_mem_keys, List.forall_mem_singleton.2 value⟩
  | memberAssign object name value =>
    apply admits_of_mem_values _ inside
    exact List.forall_mem_cons.2
      ⟨object, List.forall_mem_append.2 ⟨name.parts, List.forall_mem_singleton.2 value⟩⟩
  | exit value =>
    apply admits_of_mem_values _ inside
    exact fun node given => value node (Option.mem_toList.1 given)
  | ifThen condition thenBranch | whileDo condition body | doWhile body condition =>
    simp only [parts, List.mem_cons, List.not_mem_nil, or_false, Prod.mk.injEq] at inside
    rcases inside with ⟨rfl, rfl⟩ | ⟨rfl, rfl⟩ <;> assumption
  | ifElse condition thenBranch elseBranch =>
    simp only [parts, List.mem_cons, List.not_mem_nil, or_false, Prod.mk.injEq] at inside
    rcases inside with ⟨rfl, rfl⟩ | ⟨rfl, rfl⟩ | ⟨rfl, rfl⟩ <;> assumption

/-- An expression is not there for its effect. -/
theorem IsExpression.isCommand {node : Node} (expression : node.IsExpression) :
    node.isCommand = false := by
  cases expression <;> rfl

theorem IsExpression.index {node : Node} (expression : node.IsExpression) {index : Index}
    (mentioned : node.index? = some index) : index.IsProper := by
  cases expression with
  | arrayFetch array subscripts => exact Option.some.inj mentioned ▸ subscripts
  | _ => cases mentioned

theorem IsExpression.name {node : Node} (expression : node.IsExpression) {name : Name}
    (mentioned : node.name? = some name) : name.IsProper := by
  cases expression with
  | call proper | new proper | methodCall _ proper | memberFetch _ proper =>
    exact Option.some.inj mentioned ▸ proper
  | _ => cases mentioned

end Node

namespace Role

/-- What stands in a place of the grammar is a statement in any case. -/
theorem Admits.isStatement {role : Role} {node : Node} (fits : role.Admits node) :
    node.IsStatement := by
  cases role with
  | statement => exact fits
  | value => exact .expression fits

/-- The grammar is handed down from a node to its parts. -/
theorem Admits.part {role role' : Role} {node part : Node} (fits : role.Admits node)
    (inside : (role', part) ∈ node.parts) : role'.Admits part :=
  fits.isStatement.admits_part inside

end Role

namespace Node.IsStatement

theorem index {node : Node} (statement : node.IsStatement) {index : Index}
    (mentioned : node.index? = some index) : index.IsProper := by
  cases statement with
  | expression expression => exact expression.index mentioned
  | arrayAssign array subscripts => exact Option.some.inj mentioned ▸ subscripts
  | _ => cases mentioned

theorem name {node : Node} (statement : node.IsStatement) {name : Name}
    (mentioned : node.name? = some name) : name.IsProper := by
  cases statement with
  | expression expression => exact expression.name mentioned
  | memberAssign object proper => exact Option.some.inj mentioned ▸ proper
  | _ => cases mentioned

theorem natural {n : Int64} (statement : (Node.integer n).IsStatement) : 0 ≤ n := by
  cases statement with
  | expression expression =>
    cases expression with
    | integer natural => exact natural

end Node.IsStatement

namespace Program

/-- The grammar is handed down from a program to all that it contains. -/
theorem Contains.admits {program : Program} (proper : program.IsProper) {role : Role} {node : Node}
    (inside : program.Contains role node) : role.Admits node := by
  induction inside with
  | body =>
    rcases proper.body with ⟨nodes, same, statements⟩
    rw [same]
    exact Node.IsStatement.sequence statements
  | function declared inside => exact (proper.functions _ declared).body _ inside
  | method declared listed inside =>
    exact ((proper.classes _ declared).methods _ listed).body _ inside
  | initial declared listed given => exact (proper.classes _ declared).initial _ listed _ given
  | part whole inside fits => exact fits.part inside

theorem IsProper.forall_mem_allFunctions {program : Program} (proper : program.IsProper) :
    ∀ decl ∈ program.allFunctions, decl.IsProper := by
  apply List.forall_mem_append.2 ⟨proper.functions, _⟩
  intro decl inside
  rcases List.mem_flatMap.1 inside with ⟨owner, declared, among⟩
  rcases List.mem_map.1 among with ⟨method, listed, rfl⟩
  exact (proper.classes owner declared).methods method listed

theorem IsProper.forall_mem_words {program : Program} (proper : program.IsProper) :
    ∀ name ∈ program.words, IsWord name := by
  rw [words, List.forall_mem_append, List.forall_mem_map, List.forall_mem_map]
  constructor
  · exact fun decl declared => (proper.forall_mem_allFunctions decl declared).name
  · exact fun decl declared => (proper.classes decl declared).name

theorem IsProper.forall_mem_variableNames {program : Program} (proper : program.IsProper) :
    ∀ name ∈ program.variableNames, IsVariableName name := by
  rw [variableNames, List.forall_mem_append]
  constructor
  · intro name inside
    rcases List.mem_flatMap.1 inside with ⟨decl, declared, param⟩
    exact (proper.forall_mem_allFunctions decl declared).params name param
  · intro name inside
    rcases List.mem_flatMap.1 inside with ⟨decl, declared, named⟩
    rcases List.mem_map.1 named with ⟨member, listed, rfl⟩
    exact (proper.classes decl declared).attributes member listed

/-- A program that was read from a source is fit to be run. -/
theorem isWellFormed_ofSource {source : String} {program : Program}
    (read : Program.ofSource source = .ok program) : program.IsWellFormed := by
  have proper : program.IsProper := isProper_ofSource read
  have statement {role : Role} {node : Node} (inside : program.Contains role node) :
      node.IsStatement := (inside.admits proper).isStatement
  constructor
  case words =>
    intro name inside
    have word : IsWord name := proper.forall_mem_words name inside
    apply And.intro word
    intro sign listed
    apply word.not_mem
    fin_cases listed <;> rfl
  case variableNames => exact proper.forall_mem_variableNames
  case paths =>
    intro role node inside keys mentioned
    cases (statement inside).index mentioned with
    | path several => exact several
  case computed =>
    intro role node inside inner mentioned
    cases (statement inside).name mentioned with
    | computed name => exact ⟨name, rfl⟩
  case natural => exact fun role n inside => (statement inside).natural
  case values => exact fun node inside => Node.IsExpression.isCommand (inside.admits proper)
  case body =>
    rcases proper.body with ⟨nodes, same, statements⟩
    exact ⟨nodes, same⟩

/-- A class and a function with names of all kinds, subscripts and a computed name. -/
def gridding : String :=
  "<? class Grid \x7b public $size = -1; private $$cells; function at($i, $j) " ++
    "\x7b if ($i) \x7b $this->size = $m[$i][$j]; \x7d return $this->$j; \x7d \x7d " ++
    "function sum($$of) \x7b echo 1 + $of[2]; \x7d $g = new Grid(); $g->at(1, 'size'); ?>"

theorem isWellFormed_of_gridding : ∃ program, Program.ofSource gridding = .ok program ∧
    program.words = ["sum", "at", "Grid"] ∧
    program.variableNames = ["$of", "i", "j", "size", "$cells"] ∧ program.IsWellFormed := by
  have names : (Program.ofSource gridding).map (fun program =>
      (program.words, program.variableNames)) =
      .ok (["sum", "at", "Grid"], ["$of", "i", "j", "size", "$cells"]) := by cbv
  cases read : Program.ofSource gridding with
  | error fault =>
    rw [read] at names
    cases names
  | ok program =>
    rw [read] at names
    rcases Prod.mk.inj (Except.ok.inj names) with ⟨words, variableNames⟩
    exact ⟨program, rfl, words, variableNames, isWellFormed_ofSource read⟩

end Program

end TagScript
