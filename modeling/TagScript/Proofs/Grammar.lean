import TagScript.Program
import TagScript.Proofs.Keys
import TagScript.Token.Scan

/-!
# Well-formed programs

Statements and expressions are nodes of one type, but the grammar keeps them apart: an assignment, a
branch, a loop, a sequence or an exit never stands where a value is used. `Node.IsExpression` and
`Node.IsStatement` say where a node may stand, and `Program.IsProper` adds what the grammar says
about names. Nothing here depends on how programs are read.
-/

namespace TagScript

/-- A word that can name a function, a class or a method. -/
def IsWord (name : String) : Prop :=
  name ≠ "" ∧ ∀ c ∈ name.toList, Lexeme.isNameCharacter c

/-- A word that can name a parameter or an attribute: dollar signs may precede it. -/
def IsVariableName (name : String) : Prop :=
  ∃ dollars word, IsWord word ∧ name.toList = List.replicate dollars '$' ++ word.toList

/-- A character that cannot stand in a name stands in no word. -/
theorem IsWord.not_mem {name : String} (word : IsWord name) {c : Char}
    (foreign : Lexeme.isNameCharacter c = false) : c ∉ name.toList := by
  intro inside
  have proper := word.2 c inside
  rw [foreign] at proper
  contradiction

theorem IsVariableName.not_mem {name : String} (named : IsVariableName name) {c : Char}
    (foreign : Lexeme.isNameCharacter c = false) (notDollar : c ≠ '$') : c ∉ name.toList := by
  obtain ⟨dollars, word, isWord, same⟩ := named
  rw [same, List.mem_append, not_or]
  exact ⟨fun inside => notDollar (List.eq_of_mem_replicate inside), isWord.not_mem foreign⟩

theorem IsWord.plain {name : String} (word : IsWord name) : Plain name :=
  word.not_mem (by decide)

theorem IsVariableName.plain {name : String} (named : IsVariableName name) : Plain name :=
  named.not_mem (by decide) (by decide)

/-- A name is written out, or a variable holds it. -/
inductive Name.IsProper : Name → Prop
  | written (name : String) : IsProper (.written name)
  | computed (name : String) : IsProper (.computed (.var name))

mutual

/-- A node that may stand where a value is used. -/
inductive Node.IsExpression : Node → Prop
  | var (name : String) : Node.IsExpression (.var name)
  | text (content : String) : Node.IsExpression (.text content)
  | integer {n : Int64} (natural : 0 ≤ n) : Node.IsExpression (.integer n)
  | float (x : Float) : Node.IsExpression (.float x)
  | call {function : Name} {args : List Node} (name : function.IsProper)
    (parts : ∀ arg ∈ args, arg.IsExpression) : Node.IsExpression (.call function args)
  | arrayFetch (array : String) {index : Index} (subscripts : index.IsProper) :
    Node.IsExpression (.arrayFetch array index)
  | new {className : Name} {args : List Node} (name : className.IsProper)
    (parts : ∀ arg ∈ args, arg.IsExpression) : Node.IsExpression (.new className args)
  | methodCall {target : Node} {method : Name} {args : List Node} (object : target.IsExpression)
    (name : method.IsProper) (parts : ∀ arg ∈ args, arg.IsExpression) :
    Node.IsExpression (.methodCall target method args)
  | memberFetch {target : Node} {member : Name} (object : target.IsExpression)
    (name : member.IsProper) : Node.IsExpression (.memberFetch target member)
  | compare (op : Comparison) {left right : Node} (first : left.IsExpression)
    (second : right.IsExpression) : Node.IsExpression (.compare op left right)
  | arithmetic (op : Arithmetic) {left right : Node} (first : left.IsExpression)
    (second : right.IsExpression) : Node.IsExpression (.arithmetic op left right)
  | negate {operand : Node} (part : operand.IsExpression) : Node.IsExpression (.negate operand)
  | concat {left right : Node} (first : left.IsExpression) (second : right.IsExpression) :
    Node.IsExpression (.concat left right)

/-- Subscripts of one key, or a path of several. -/
inductive Index.IsProper : Index → Prop
  | key {node : Node} (part : node.IsExpression) : Index.IsProper (.key node)
  | path {nodes : List Node} (several : 2 ≤ nodes.length)
    (parts : ∀ node ∈ nodes, node.IsExpression) : Index.IsProper (.path nodes)

end

/-- A node that may stand where its value is not used. -/
inductive Node.IsStatement : Node → Prop
  | expression {node : Node} (part : node.IsExpression) : IsStatement node
  | sequence {nodes : List Node} (parts : ∀ node ∈ nodes, node.IsStatement) :
    IsStatement (.sequence nodes)
  | assign (name : String) {value : Node} (part : value.IsExpression) :
    IsStatement (.assign name value)
  | arrayAssign (array : String) {index : Index} {value : Node} (subscripts : index.IsProper)
    (part : value.IsExpression) : IsStatement (.arrayAssign array index value)
  | memberAssign {target : Node} {member : Name} {value : Node} (object : target.IsExpression)
    (name : member.IsProper) (part : value.IsExpression) :
    IsStatement (.memberAssign target member value)
  | ifThen {condition thenBranch : Node} (test : condition.IsExpression)
    (first : thenBranch.IsStatement) : IsStatement (.ifThen condition thenBranch)
  | ifElse {condition thenBranch elseBranch : Node} (test : condition.IsExpression)
    (first : thenBranch.IsStatement) (second : elseBranch.IsStatement) :
    IsStatement (.ifElse condition thenBranch elseBranch)
  | whileDo {condition body : Node} (test : condition.IsExpression) (part : body.IsStatement) :
    IsStatement (.whileDo condition body)
  | doWhile {body condition : Node} (part : body.IsStatement) (test : condition.IsExpression) :
    IsStatement (.doWhile body condition)
  | exit {value : Option Node} (part : ∀ node ∈ value, node.IsExpression) :
    IsStatement (.exit value)
  | echo {value : Node} (part : value.IsExpression) : IsStatement (.echo value)

/-- A function whose names are words and whose body consists of statements. -/
structure FunctionDecl.IsProper (decl : FunctionDecl) : Prop where
  name : IsWord decl.name
  params : ∀ param ∈ decl.params, IsVariableName param
  body : ∀ node ∈ decl.body, node.IsStatement

/-- A class whose names are words and whose members are proper. -/
structure ClassDecl.IsProper (decl : ClassDecl) : Prop where
  name : IsWord decl.name
  attributes : ∀ member ∈ decl.attributes, IsVariableName member.name
  initial : ∀ member ∈ decl.attributes, ∀ node ∈ member.init, node.IsExpression
  methods : ∀ method ∈ decl.methods, method.function.IsProper

/-- A program whose declarations are proper and whose body is a sequence of statements. -/
structure Program.IsProper (program : Program) : Prop where
  functions : ∀ decl ∈ program.functions, decl.IsProper
  classes : ∀ decl ∈ program.classes, decl.IsProper
  body : ∃ nodes, program.body = .sequence nodes ∧ ∀ node ∈ nodes, node.IsStatement

end TagScript
