import TagScript.Json
import TagScript.Program

/-!
# Programs as JSON

A node is an object with one member, named for what the node is. Operations are wrapped once more,
so that leaves and operations can be told apart.
-/

namespace TagScript

/-- An object with one member. -/
def Json.tagged (tag : String) (content : Json) : Json :=
  .object [(tag, content)]

/-- An operation with its content. -/
def Json.operation (tag : String) (content : Json) : Json :=
  .tagged "operation" (.tagged tag content)

namespace Comparison

/-- The word for a comparison. -/
def word : Comparison → String
  | equal => "equal"
  | notEqual => "not_equal"
  | greater => "greater"
  | less => "less"
  | greaterEqual => "greater_equal"
  | lessEqual => "less_equal"

end Comparison

namespace Arithmetic

/-- The word for an arithmetic operation. -/
def word : Arithmetic → String
  | add => "add"
  | subtract => "subtract"
  | divide => "divide"
  | multiply => "multiply"

end Arithmetic

namespace Visibility

/-- The word for a visibility. -/
def word : Visibility → String
  | anyone => "public"
  | family => "protected"
  | owner => "private"

end Visibility

mutual

/-- A node as JSON. -/
def Node.toJson : Node → Json
  | .var name => .tagged "variable" (.string name)
  | .text content => .tagged "constant" (.string content)
  | .integer n => .tagged "integer" (.int n.toInt)
  | .float x => .tagged "float" (.float x)
  | .sequence nodes => .operation "sequence" (.array (Node.listToJson nodes))
  | .assign target value =>
    .operation "assign" (.object [("target", .string target), ("value", value.toJson)])
  | .ifThen condition thenBranch =>
    .operation "if"
      (.object [("condition", condition.toJson), ("then_branch", thenBranch.toJson)])
  | .ifElse condition thenBranch elseBranch =>
    .operation "if_else"
      (.object [("condition", condition.toJson), ("then_branch", thenBranch.toJson),
        ("else_branch", elseBranch.toJson)])
  | .whileDo condition body =>
    .operation "while_do" (.object [("condition", condition.toJson), ("body", body.toJson)])
  | .doWhile body condition =>
    .operation "do_while" (.object [("body", body.toJson), ("condition", condition.toJson)])
  | .call function args =>
    .operation "call"
      (.object [("function", function.toJson), ("args", .array (Node.listToJson args))])
  | .exit none => .operation "return" .null
  | .exit (some value) => .operation "return" value.toJson
  | .echo value => .operation "echo" value.toJson
  | .arrayAssign array index value =>
    .operation "array_assign"
      (.object [("variable", .string array), ("index", index.toJson), ("value", value.toJson)])
  | .arrayFetch array index =>
    .operation "array_fetch" (.object [("variable", .string array), ("index", index.toJson)])
  | .new className args =>
    .operation "new"
      (.object [("class", className.toJson), ("args", .array (Node.listToJson args))])
  | .methodCall target method args =>
    .operation "method_call"
      (.object [("target", target.toJson), ("method", method.toJson),
        ("args", .array (Node.listToJson args))])
  | .memberFetch target member =>
    .operation "attribute_fetch"
      (.object [("target", target.toJson), ("attribute", member.toJson)])
  | .memberAssign target member value =>
    .operation "attribute_assign"
      (.object [("target", target.toJson), ("attribute", member.toJson),
        ("value", value.toJson)])
  | .compare op left right =>
    .operation "compare"
      (.object [("op", .string op.word), ("left", left.toJson), ("right", right.toJson)])
  | .arithmetic op left right =>
    .operation "arithmetic"
      (.object [("op", .string op.word), ("left", left.toJson), ("right", right.toJson)])
  | .negate operand => .operation "negate" operand.toJson
  | .concat left right =>
    .operation "concat" (.object [("left", left.toJson), ("right", right.toJson)])

/-- Nodes as JSON. -/
def Node.listToJson : List Node → List Json
  | [] => []
  | node :: nodes => node.toJson :: Node.listToJson nodes

/-- A name as JSON. -/
def Name.toJson : Name → Json
  | .written name => .tagged "static" (.string name)
  | .computed node => .tagged "dynamic" node.toJson

/-- Subscripts as JSON. -/
def Index.toJson : Index → Json
  | .key node => .tagged "key" node.toJson
  | .path nodes => .tagged "path" (.array (Node.listToJson nodes))

end

/-- A function as JSON. -/
def FunctionDecl.toJson (decl : FunctionDecl) : Json :=
  .object [("name", .string decl.name), ("params", .array (decl.params.map .string)),
    ("body", .array (Node.listToJson decl.body))]

/-- An attribute as JSON. -/
def AttributeDecl.toJson (decl : AttributeDecl) : Json :=
  .object [("modifier", .string decl.visibility.word), ("name", .string decl.name),
    ("init", (decl.init.map Node.toJson).getD .null)]

/-- A method as JSON. -/
def MethodDecl.toJson (decl : MethodDecl) : Json :=
  .object [("modifier", .string decl.visibility.word), ("function", decl.function.toJson)]

/-- A class as JSON. -/
def ClassDecl.toJson (decl : ClassDecl) : Json :=
  .object [("modifier", .string decl.visibility.word), ("name", .string decl.name),
    ("attributes", .array (decl.attributes.map AttributeDecl.toJson)),
    ("methods", .array (decl.methods.map MethodDecl.toJson))]

/-- A program as JSON. -/
def Program.toJson (program : Program) : Json :=
  .object [("functions", .array (program.functions.map FunctionDecl.toJson)),
    ("classes", .array (program.classes.map ClassDecl.toJson)), ("body", program.body.toJson)]

end TagScript
