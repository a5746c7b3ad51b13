import TagScript.Decimal.Literal
import TagScript.Json.Read
import TagScript.Program
import TagScript.Value.Number

/-!
# Programs from JSON

Reading is more generous than writing. A record may list its members in any order, with others that
are ignored, or give the values alone in order; a word may be wrapped like a tag. The nesting of
lists and objects is limited: each reader takes the number of levels that are left, and the recursion
is on that number.
-/

namespace TagScript

namespace Json

/-- How deeply lists and objects of a program may be nested. -/
def maximumLevels : Nat := 127

/-- The content of a string. -/
def text? : Json → Option String
  | string content => some content
  | _ => none

/-- The tag of an object with one member, and its content. -/
def tagged? : Json → Option (String × Json)
  | object [(tag, content)] => some (tag, content)
  | _ => none

/-- A word, or an object with the word as its tag and nothing in it. -/
def word? (levels : Nat) : Json → Option String
  | string word => some word
  | object [(word, null)] => if levels = 0 then none else some word
  | _ => none

/-- The only member of a name, if there is one; a repeated one is refused. -/
def member? (members : List (String × Json)) (name : String) : Option (Option Json) :=
  match members.filter fun member => member.1 = name with
  | [] => some none
  | [(_, value)] => some (some value)
  | _ => none

/-- The values of a record with these members: an object, or a list of the values in order. Members
at the end of the list may be missing. -/
def record? (names : List String) : Json → Option (List (Option Json))
  | object members => names.mapM (member? members)
  | array items =>
    if items.length ≤ names.length then
      some (items.map some ++ List.replicate (names.length - items.length) none)
    else none
  | _ => none

/-- The items of a list. -/
def items? {α : Type} (item? : Json → Option α) : Json → Option (List α)
  | array items => items.mapM item?
  | _ => none

/-- A 64-bit integer, written without a point and without an exponent. Minus zero is none. -/
def integer? : Json → Option Int64
  | number literal =>
    let (negative, digits) := Decimal.splitSign literal.toList
    let magnitude : Int := Decimal.digitsValue digits
    if digits.all Char.isDigit ∧ ¬(negative ∧ magnitude = 0) then
      int64? (if negative then -magnitude else magnitude)
    else none
  | _ => none

/-- The largest number of 64 bits. -/
def maximumCount : Nat := Nat.pow 2 64 - 1

/-- Appends digits to a number while it fits 64 bits. The second result is the number of digits
that were left out. -/
def appendDigits (count : Nat) : List Char → Nat × Nat
  | [] => (count, 0)
  | digit :: digits =>
    let larger := 10 * count + Decimal.digitsValue [digit]
    if larger ≤ maximumCount then appendDigits larger digits else (count, digits.length + 1)

/-- The product of a count and a power of ten, computed in floating point; none when it is too
large. A power below the smallest in range is applied in steps, three of which reach zero from any
count. -/
def scaled? (count : Nat) (scale : Int) : Option Float :=
  let start := Float.ofNat count
  if 308 < scale then (if count = 0 then some 0 else none)
  else if 0 ≤ scale then
    let product := start * Float.ofScientific 1 false scale.toNat
    if product.isInf then none else some product
  else
    let down := (-scale).toNat
    let steps := (down - 1) / 308
    let lowered := (List.replicate (min steps 3) ()).foldl
      (fun x _ => x / Float.ofScientific 1 false 308) start
    some (lowered / Float.ofScientific 1 false (down - 308 * steps))

/-- A floating point number. It is computed from the leading digits that fit 64 bits and a power of
ten, and so may differ from the nearest number in its last bit. -/
def float? : Json → Option Float
  | number literal => do
    let (negative, rest) := Decimal.splitSign literal.toList
    let (fixed, rest) ← Decimal.Fixed.read? rest
    let exponent ← Decimal.finalExponent? rest
    let (whole, omitted) := appendDigits 0 fixed.whole
    let (count, dropped) := appendDigits whole fixed.fraction
    let places := fixed.fraction.length - dropped
    let x ← scaled? count (exponent + omitted - places)
    return if negative then -x else x
  | _ => none

end Json

/-- The comparison of a word. -/
def Comparison.ofWord? : String → Option Comparison
  | "equal" => some equal
  | "not_equal" => some notEqual
  | "greater" => some greater
  | "less" => some less
  | "greater_equal" => some greaterEqual
  | "less_equal" => some lessEqual
  | _ => none

/-- The arithmetic operation of a word. -/
def Arithmetic.ofWord? : String → Option Arithmetic
  | "add" => some add
  | "subtract" => some subtract
  | "divide" => some divide
  | "multiply" => some multiply
  | _ => none

/-- The visibility of a word. -/
def Visibility.ofWord? : String → Option Visibility
  | "public" => some anyone
  | "protected" => some family
  | "private" => some owner
  | _ => none

namespace Decode

open Json

/-- A list, given the reader for an item inside it. -/
def listAt {α : Type} (item? : Nat → Json → Option α) (levels : Nat) (json : Json) :
    Option (List α) :=
  match levels with
  | 0 => none
  | levels + 1 => items? (item? levels) json

mutual

/-- A node. -/
def node? (levels : Nat) (json : Json) : Option Node :=
  match levels with
  | 0 => none
  | levels + 1 => do
    let (tag, content) ← json.tagged?
    match tag with
    | "operation" => operation? levels content
    | "variable" => .var <$> content.text?
    | "constant" => .text <$> content.text?
    | "integer" => .integer <$> content.integer?
    | "float" => .float <$> content.float?
    | _ => none

/-- An operation. -/
def operation? (levels : Nat) (json : Json) : Option Node :=
  match levels with
  | 0 => none
  | levels + 1 => do
    let (tag, content) ← json.tagged?
    match tag, content with
    | "sequence", _ => .sequence <$> nodes? levels content
    | "return", .null => return .exit none
    | "return", _ => (.exit ∘ some) <$> node? levels content
    | "echo", _ => .echo <$> node? levels content
    | "negate", _ => .negate <$> node? levels content
    | _, _ => compound? levels tag content

/-- An operation with named members. -/
def compound? (levels : Nat) (tag : String) (content : Json) : Option Node :=
  match levels with
  | 0 => none
  | levels + 1 =>
    match tag with
    | "assign" => do
      let [some target, some value] ← record? ["target", "value"] content | none
      return .assign (← target.text?) (← node? levels value)
    | "if" => do
      let [some condition, some thenBranch] ← record? ["condition", "then_branch"] content | none
      return .ifThen (← node? levels condition) (← node? levels thenBranch)
    | "if_else" => do
      let [some condition, some thenBranch, some elseBranch] ←
        record? ["condition", "then_branch", "else_branch"] content | none
      return .ifElse (← node? levels condition) (← node? levels thenBranch)
        (← node? levels elseBranch)
    | "while_do" => do
      let [some condition, some body] ← record? ["condition", "body"] content | none
      return .whileDo (← node? levels condition) (← node? levels body)
    | "do_while" => do
      let [some body, some condition] ← record? ["body", "condition"] content | none
      return .doWhile (← node? levels body) (← node? levels condition)
    | "call" => do
      let [some function, some args] ← record? ["function", "args"] content | none
      return .call (← name? levels function) (← nodes? levels args)
    | "array_assign" => do
      let [some target, some index, some value] ←
        record? ["variable", "index", "value"] content | none
      return .arrayAssign (← target.text?) (← index? levels index) (← node? levels value)
    | "array_fetch" => do
      let [some target, some index] ← record? ["variable", "index"] content | none
      return .arrayFetch (← target.text?) (← index? levels index)
    | "new" => do
      let [some className, some args] ← record? ["class", "args"] content | none
      return .new (← name? levels className) (← nodes? levels args)
    | "method_call" => do
      let [some target, some method, some args] ←
        record? ["target", "method", "args"] content | none
      return .methodCall (← node? levels target) (← name? levels method) (← nodes? levels args)
    | "attribute_fetch" => do
      let [some target, some member] ← record? ["target", "attribute"] content | none
      return .memberFetch (← node? levels target) (← name? levels member)
    | "attribute_assign" => do
      let [some target, some member, some value] ←
        record? ["target", "attribute", "value"] content | none
      return .memberAssign (← node? levels target) (← name? levels member)
        (← node? levels value)
    | "compare" => do
      let [some op, some left, some right] ← record? ["op", "left", "right"] content | none
      return .compare (← (← op.word? levels) |> Comparison.ofWord?) (← node? levels left)
        (← node? levels right)
    | "arithmetic" => do
      let [some op, some left, some right] ← record? ["op", "left", "right"] content | none
      return .arithmetic (← (← op.word? levels) |> Arithmetic.ofWord?) (← node? levels left)
        (← node? levels right)
    | "concat" => do
      let [some left, some right] ← record? ["left", "right"] content | none
      return .concat (← node? levels left) (← node? levels right)
    | _ => none

/-- A list of nodes. -/
def nodes? (levels : Nat) (json : Json) : Option (List Node) :=
  match levels with
  | 0 => none
  | levels + 1 => items? (node? levels) json

/-- A name. -/
def name? (levels : Nat) (json : Json) : Option Name :=
  match levels with
  | 0 => none
  | levels + 1 => do
    let (tag, content) ← json.tagged?
    match tag with
    | "static" => .written <$> content.text?
    | "dynamic" => .computed <$> node? levels content
    | _ => none

/-- Subscripts. -/
def index? (levels : Nat) (json : Json) : Option Index :=
  match levels with
  | 0 => none
  | levels + 1 => do
    let (tag, content) ← json.tagged?
    match tag with
    | "key" => .key <$> node? levels content
    | "path" => .path <$> nodes? levels content
    | _ => none

end

/-- A visibility. -/
def visibility? (levels : Nat) (json : Json) : Option Visibility := do
  Visibility.ofWord? (← json.word? levels)

/-- A function. -/
def function? (levels : Nat) (json : Json) : Option FunctionDecl :=
  match levels with
  | 0 => none
  | levels + 1 => do
    let [some name, some params, some body] ← record? ["name", "params", "body"] json | none
    return ⟨← name.text?, ← listAt (fun _ => text?) levels params, ← nodes? levels body⟩

/-- An attribute. Its initial value may be null or missing. -/
def attribute? (levels : Nat) (json : Json) : Option AttributeDecl :=
  match levels with
  | 0 => none
  | levels + 1 => do
    let [some modifier, some name, init] ← record? ["modifier", "name", "init"] json | none
    let init ← match init with
      | none | some .null => pure none
      | some json => some <$> node? levels json
    return ⟨← visibility? levels modifier, ← name.text?, init⟩

/-- A method. -/
def method? (levels : Nat) (json : Json) : Option MethodDecl :=
  match levels with
  | 0 => none
  | levels + 1 => do
    let [some modifier, some function] ← record? ["modifier", "function"] json | none
    return ⟨← visibility? levels modifier, ← function? levels function⟩

/-- A class. -/
def class? (levels : Nat) (json : Json) : Option ClassDecl :=
  match levels with
  | 0 => none
  | levels + 1 => do
    let [some modifier, some name, some attributes, some methods] ←
      record? ["modifier", "name", "attributes", "methods"] json | none
    return ⟨← visibility? levels modifier, ← name.text?, ← listAt attribute? levels attributes,
      ← listAt method? levels methods⟩

/-- A program. -/
def program? (levels : Nat) (json : Json) : Option Program :=
  match levels with
  | 0 => none
  | levels + 1 => do
    let [some functions, some classes, some body] ←
      record? ["functions", "classes", "body"] json | none
    return ⟨← listAt function? levels functions, ← listAt class? levels classes,
      ← node? levels body⟩

end Decode

/-- The node of a JSON text. -/
def Node.ofText? (text : String) : Option Node := do
  Decode.node? Json.maximumLevels (← Json.read? text)

/-- The function of a JSON text. -/
def FunctionDecl.ofText? (text : String) : Option FunctionDecl := do
  Decode.function? Json.maximumLevels (← Json.read? text)

/-- The class of a JSON text. -/
def ClassDecl.ofText? (text : String) : Option ClassDecl := do
  Decode.class? Json.maximumLevels (← Json.read? text)

/-- The program of a JSON text. -/
def Program.ofText? (text : String) : Option Program := do
  Decode.program? Json.maximumLevels (← Json.read? text)

end TagScript
