import TagScript.Operator

/-!
# Programs

A program is the tree that scripts are parsed into: the declarations found anywhere in the source
and a body to run. Statements and expressions are nodes of one type, since every node can be run and
yields a value.
-/

namespace TagScript

mutual

/-- A node of the tree. -/
inductive Node
  /-- A variable, without its dollar sign. A name that still begins with one is the name of the
  variable that holds the name. -/
  | var (name : String)
  | text (content : String)
  | integer (n : Int64)
  | float (x : Float)
  | sequence (nodes : List Node)
  | assign (target : String) (value : Node)
  | ifThen (condition thenBranch : Node)
  | ifElse (condition thenBranch elseBranch : Node)
  | whileDo (condition body : Node)
  | doWhile (body condition : Node)
  | call (function : Name) (args : List Node)
  | exit (value : Option Node)
  | echo (value : Node)
  | arrayAssign (array : String) (index : Index) (value : Node)
  | arrayFetch (array : String) (index : Index)
  | new (className : Name) (args : List Node)
  | methodCall (target : Node) (method : Name) (args : List Node)
  | memberFetch (target : Node) (member : Name)
  | memberAssign (target : Node) (member : Name) (value : Node)
  | compare (op : Comparison) (left right : Node)
  | arithmetic (op : Arithmetic) (left right : Node)
  | negate (operand : Node)
  | concat (left right : Node)

/-- A name that is written out or computed when it is needed. -/
inductive Name
  | written (name : String)
  | computed (node : Node)

/-- The subscripts of an array variable. -/
inductive Index
  | key (node : Node)
  /-- Keys from the outermost array inwards. -/
  | path (nodes : List Node)

end

namespace Node

/-- Whether a node can be evaluated without touching any state. Initial values of attributes have
to be of this form. -/
def isConstant : Node → Bool
  | text _ | integer _ | float _ => true
  | compare _ left right => left.isConstant && right.isConstant
  | arithmetic _ left right => left.isConstant && right.isConstant
  | concat left right => left.isConstant && right.isConstant
  | negate operand => operand.isConstant
  | _ => false

/-- The name of the operation that a node is; leaves are none. -/
def operation? : Node → Option String
  | var _ | text _ | integer _ | float _ => none
  | sequence .. => some "sequence"
  | assign .. => some "assign"
  | ifThen .. => some "if"
  | ifElse .. => some "if-else"
  | whileDo .. => some "while-do"
  | doWhile .. => some "do-while"
  | call .. => some "free-call"
  | exit .. => some "return"
  | echo .. => some "echo"
  | arrayAssign .. => some "array-assign"
  | arrayFetch .. => some "array-fetch"
  | new .. => some "object-new"
  | methodCall .. => some "method-call"
  | memberFetch .. => some "attribute-fetch"
  | memberAssign .. => some "attribute-assign"
  | compare .. => some "compare"
  | arithmetic .. => some "arithmetic"
  | negate .. => some "negate"
  | concat .. => some "concatenate"

/-- The name that a call, a new object or a member access mentions. -/
def name? : Node → Option Name
  | call name _ | new name _ | methodCall _ name _ | memberFetch _ name
  | memberAssign _ name _ => some name
  | _ => none

/-- The sign of a comparison or an arithmetic operation. -/
def symbol? : Node → Option String
  | compare op .. => some op.symbol
  | arithmetic op .. => some op.symbol
  | _ => none

end Node

/-- How a name is shown: itself, or a mark for one that is not yet known. -/
def Name.describe : Name → String
  | written name => name
  | computed _ => "<dynamic>"

/-- The subscripts made of these keys. -/
def Index.ofKeys : List Node → Index
  | [node] => key node
  | nodes => path nodes

/-- The keys of the subscripts, from the outermost array inwards. -/
def Index.keys : Index → List Node
  | key node => [node]
  | path nodes => nodes

/-- Who may use a member of a class. -/
inductive Visibility
  /-- Everyone: `public`, or `var` as it was once written. -/
  | anyone
  /-- The class and the classes below it: `protected`. -/
  | family
  /-- The class alone: `private`. -/
  | owner
  deriving DecidableEq, Repr

/-- A function: parameters without their dollar signs, and statements. -/
structure FunctionDecl where
  name : String
  params : List String
  body : List Node

/-- An attribute that every object of a class has, with its initial value. -/
structure AttributeDecl where
  visibility : Visibility
  name : String
  init : Option Node

/-- A function that runs on an object. -/
structure MethodDecl where
  visibility : Visibility
  function : FunctionDecl

/-- A class of objects. -/
structure ClassDecl where
  visibility : Visibility
  name : String
  attributes : List AttributeDecl
  methods : List MethodDecl

namespace ClassDecl

/-- The first method of a name. -/
def method? (decl : ClassDecl) (name : String) : Option MethodDecl :=
  decl.methods.find? fun method => method.function.name = name

/-- The first attribute of a name. -/
def attribute? (decl : ClassDecl) (name : String) : Option AttributeDecl :=
  decl.attributes.find? fun member => member.name = name

/-- The method that runs on a new object: `__construct`, else the one named after the class. -/
def constructor? (decl : ClassDecl) : Option MethodDecl :=
  decl.method? "__construct" <|> decl.method? decl.name

/-- Who may use the member of a name. Methods are looked for before attributes. -/
def visibility? (decl : ClassDecl) (member : String) : Option Visibility :=
  ((decl.method? member).map MethodDecl.visibility) <|>
    ((decl.attribute? member).map AttributeDecl.visibility)

end ClassDecl

/-- The declarations found in a source, in order. -/
structure Declarations where
  functions : List FunctionDecl := []
  classes : List ClassDecl := []

namespace Declarations

instance : EmptyCollection Declarations := ⟨{}⟩

instance : Append Declarations where
  append first second :=
    ⟨first.functions ++ second.functions, first.classes ++ second.classes⟩

end Declarations

/-- What a source is parsed into. -/
structure Program where
  functions : List FunctionDecl
  classes : List ClassDecl
  body : Node

end TagScript
