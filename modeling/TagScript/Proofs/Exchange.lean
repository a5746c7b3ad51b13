import TagScript.Program.Decode
import TagScript.Program.Encode
import TagScript.Proofs.Rendering

/-!
# Programs survive exchange

A program without floating point numbers that is written as JSON text and read again is the same
program (`Program.ofText?_render`), as long as the text stays within the nesting that the reader
allows. Rendering loses nothing by `Json.IsPlain.read?_render`; what is left is that each reader of
`Decode` undoes the writer of the same part, with as many levels left as the written part is deep.
-/

namespace TagScript

mutual

/-- Whether a node has no floating point number in it. -/
def Node.isFloatFree : Node → Bool
  | .float _ => false
  | .var _ | .text _ | .integer _ | .exit none => true
  | .sequence nodes => Node.areFloatFree nodes
  | .assign _ value | .exit (some value) | .echo value | .negate value => value.isFloatFree
  | .ifThen condition thenBranch => condition.isFloatFree && thenBranch.isFloatFree
  | .ifElse condition thenBranch elseBranch =>
    condition.isFloatFree && thenBranch.isFloatFree && elseBranch.isFloatFree
  | .whileDo condition body | .doWhile body condition => condition.isFloatFree && body.isFloatFree
  | .call name args | .new name args => name.isFloatFree && Node.areFloatFree args
  | .arrayAssign _ index value => index.isFloatFree && value.isFloatFree
  | .arrayFetch _ index => index.isFloatFree
  | .methodCall target method args =>
    target.isFloatFree && method.isFloatFree && Node.areFloatFree args
  | .memberFetch target member => target.isFloatFree && member.isFloatFree
  | .memberAssign target member value =>
    target.isFloatFree && member.isFloatFree && value.isFloatFree
  | .compare _ left right | .arithmetic _ left right | .concat left right =>
    left.isFloatFree && right.isFloatFree

/-- Whether no node of a list has a floating point number in it. -/
def Node.areFloatFree : List Node → Bool
  | [] => true
  | node :: nodes => node.isFloatFree && Node.areFloatFree nodes

/-- Whether a name is computed without a floating point number. -/
def Name.isFloatFree : Name → Bool
  | .written _ => true
  | .computed node => node.isFloatFree

/-- Whether subscripts have no floating point number in them. -/
def Index.isFloatFree : Index → Bool
  | .key node => node.isFloatFree
  | .path nodes => Node.areFloatFree nodes

end

/-- Whether a function has no floating point number in it. -/
def FunctionDecl.isFloatFree (decl : FunctionDecl) : Bool :=
  Node.areFloatFree decl.body

/-- Whether an attribute starts without a floating point number. -/
def AttributeDecl.isFloatFree (decl : AttributeDecl) : Bool :=
  decl.init.all Node.isFloatFree

/-- Whether a class has no floating point number in it. -/
def ClassDecl.isFloatFree (decl : ClassDecl) : Bool :=
  decl.attributes.all AttributeDecl.isFloatFree &&
    decl.methods.all fun method => method.function.isFloatFree

/-- Whether a program has no floating point number in it. -/
def Program.isFloatFree (program : Program) : Bool :=
  program.functions.all FunctionDecl.isFloatFree && program.classes.all ClassDecl.isFloatFree &&
    program.body.isFloatFree

namespace Json

theorem depth_tagged (tag : String) (content : Json) :
    (tagged tag content).depth = content.depth + 1 := by
  simp [tagged, depth, depthOfMembers]

theorem IsPlain.tagged {content : Json} (plain : content.IsPlain) (tag : String) :
    (tagged tag content).IsPlain :=
  .object (List.forall_mem_singleton.2 plain)

/-- An integer is decoded from its numeral. -/
theorem integer?_int (n : Int64) : integer? (int n.toInt) = some n := by
  have digits : (Nat.toDigits 10 n.toInt.natAbs).all Char.isDigit = true :=
    List.all_eq_true.2 fun c => isDigit_of_mem_toDigits
  have value := Decimal.digitsValue_toDigits n.toInt.natAbs
  have noMinusZero : ¬(n.toInt < 0 ∧ ((n.toInt.natAbs : Nat) : Int) = 0) := by omega
  have signed : (if n.toInt < 0 then -((n.toInt.natAbs : Nat) : Int) else n.toInt.natAbs) =
      n.toInt := by
    split <;> omega
  simp only [int, integer?, Decimal.splitSign_toString, value, decide_eq_true_eq]
  rw [if_pos ⟨digits, noMinusZero⟩, signed, int64?_toInt]

end Json

open Json

/-- What was written for a part of a program is rendered without loss, and is read as that part with
as many levels as it is deep. -/
structure Exchanges {α : Type} (read? : Nat → Json → Option α) (json : Json) (part : α) : Prop where
  plain : json.IsPlain
  reads : ∀ levels, json.depth ≤ levels → read? levels json = some part

namespace Exchanges

variable {α : Type} {read? : Nat → Json → Option α}

theorem mapM_write {write : α → Json} {levels : Nat} (parts : List α)
    (each : ∀ part ∈ parts, Exchanges read? (write part) part)
    (fits : depthOfItems (parts.map write) ≤ levels) :
    (parts.map write).mapM (read? levels) = some parts := by
  induction parts with
  | nil => rfl
  | cons part parts ih =>
    rw [List.map_cons, depthOfItems] at fits
    have first := (each part List.mem_cons_self).reads levels (by omega)
    have others := ih (fun part inside => each part (List.mem_cons_of_mem _ inside)) (by omega)
    rw [List.map_cons, List.mapM_cons, first, others]
    rfl

/-- A list is read with one level more than its items. -/
theorem list {write : α → Json} {parts : List α}
    (each : ∀ part ∈ parts, Exchanges read? (write part) part) :
    Exchanges (Decode.listAt read?) (.array (parts.map write)) parts := by
  constructor
  · apply IsPlain.array
    intro item inside
    obtain ⟨part, here, rfl⟩ := List.mem_map.1 inside
    exact (each part here).plain
  · intro levels fits
    rw [depth] at fits
    obtain ⟨room, rfl⟩ := Nat.exists_eq_add_of_lt fits
    rw [Decode.listAt, items?, mapM_write parts each (Nat.le_add_right _ _)]

/-- What a tag is put on is read with one level less. -/
theorem tagged {β : Type} {whole? : Nat → Json → Option β} {tag : String} {content : Json}
    {part : α} {whole : β} (inner : Exchanges read? content part)
    (reads : ∀ levels, read? levels content = some part →
      whole? (levels + 1) (tagged tag content) = some whole) :
    Exchanges whole? (Json.tagged tag content) whole := by
  constructor
  · exact inner.plain.tagged tag
  · intro levels fits
    rw [depth_tagged] at fits
    obtain ⟨room, rfl⟩ := Nat.exists_eq_add_of_lt fits
    exact reads _ (inner.reads _ (Nat.le_add_right _ _))

theorem text (content : String) : Exchanges (fun _ => text?) (.string content) content :=
  ⟨.string content, fun _ _ => rfl⟩

theorem integer (n : Int64) : Exchanges (fun _ => integer?) (.int n.toInt) n :=
  ⟨.int n.toInt, fun _ _ => integer?_int n⟩

end Exchanges

theorem Node.listToJson_eq_map (nodes : List Node) :
    Node.listToJson nodes = nodes.map Node.toJson := by
  induction nodes with
  | nil => rw [listToJson, List.map_nil]
  | cons node nodes ih => rw [listToJson, ih, List.map_cons]

/-- Every node is written as an object, so that null can stand for none. -/
theorem Node.toJson_eq_object (node : Node) : ∃ members, node.toJson = .object members := by
  cases node with
  | exit value => cases value <;> exact ⟨_, rfl⟩
  | _ => exact ⟨_, rfl⟩

@[simp] theorem Comparison.ofWord?_word (op : Comparison) : ofWord? op.word = some op := by
  cases op <;> rfl

@[simp] theorem Arithmetic.ofWord?_word (op : Arithmetic) : ofWord? op.word = some op := by
  cases op <;> rfl

@[simp] theorem Visibility.ofWord?_word (visibility : Visibility) :
    ofWord? visibility.word = some visibility := by
  cases visibility <;> rfl

namespace Decode

theorem nodes?_eq_listAt : nodes? = listAt node? := by
  funext levels json
  cases levels <;> rfl

theorem node?_operation (levels : Nat) (tag : String) (content : Json) :
    node? (levels + 1) (operation tag content) = operation? levels (tagged tag content) := by
  simp [node?, operation, tagged, tagged?]

/-- An operation whose tag does not decide its form has named members. -/
theorem operation?_tagged {tag : String}
    (compound : tag ∉ ["sequence", "return", "echo", "negate"]) (levels : Nat) (content : Json) :
    operation? (levels + 1) (tagged tag content) = compound? levels tag content := by
  simp only [List.mem_cons, List.not_mem_nil, or_false, not_or] at compound
  simp [operation?, tagged, tagged?, compound]

/-- An operation around one part is read with two levels more than the part. -/
theorem exchanges_operation {α : Type} {read? : Nat → Json → Option α} {tag : String}
    {content : Json} {part : α} {node : Node} (inner : Exchanges read? content part)
    (reads : ∀ levels, read? levels content = some part →
      operation? (levels + 1) (tagged tag content) = some node) :
    Exchanges node? (operation tag content) node := by
  have wrapped : Exchanges operation? (tagged tag content) node := inner.tagged reads
  apply wrapped.tagged
  intro levels read
  exact (node?_operation levels tag content).trans read

/-- A record in the form of an object is read with one level more than its members. -/
theorem exchanges_record {α : Type} {read? : Nat → Json → Option α}
    {members : List (String × Json)} {part : α} (plain : ∀ member ∈ members, member.2.IsPlain)
    (reads : ∀ room, depthOfMembers members ≤ room →
      read? (room + 1) (object members) = some part) :
    Exchanges read? (object members) part := by
  constructor
  · exact IsPlain.object plain
  · intro levels fits
    rw [depth] at fits
    obtain ⟨room, rfl⟩ := Nat.exists_eq_add_of_lt fits
    exact reads _ (Nat.le_add_right _ _)

/-- Reading an operation with named members comes down to reading its members, which have three
levels less than the whole. -/
theorem exchanges_compound {tag : String}
    (compound : tag ∉ ["sequence", "return", "echo", "negate"])
    {members : List (String × Json)} {node : Node}
    (plain : ∀ member ∈ members, member.2.IsPlain)
    (reads : ∀ room, depthOfMembers members ≤ room →
      compound? (room + 1) tag (object members) = some node) :
    Exchanges node? (operation tag (object members)) node := by
  have inner : Exchanges (fun levels => compound? levels tag) (object members) node :=
    exchanges_record plain reads
  apply exchanges_operation inner
  intro levels read
  rw [operation?_tagged compound, read]

theorem exchanges_list {nodes : List Node}
    (each : ∀ node ∈ nodes, Exchanges node? node.toJson node) :
    Exchanges nodes? (.array (Node.listToJson nodes)) nodes := by
  rw [nodes?_eq_listAt, Node.listToJson_eq_map]
  exact Exchanges.list each

mutual

/-- Every node is read back. -/
theorem exchanges_node : ∀ node : Node, node.isFloatFree = true →
    Exchanges node? node.toJson node
  | .float _, free => by
    simp only [Node.isFloatFree, Bool.false_eq_true] at free
  | .var content, _ | .text content, _ => by
    apply (Exchanges.text content).tagged
    intro levels read
    simp [node?, tagged, tagged?, read]
  | .integer n, _ => by
    apply (Exchanges.integer n).tagged
    intro levels read
    simp [node?, tagged, tagged?, read]
  | .sequence nodes, free => by
    simp only [Node.isFloatFree] at free
    apply exchanges_operation (exchanges_list (exchanges_nodes nodes free))
    intro levels read
    simp [operation?, tagged, tagged?, read]
  | .exit none, _ => by
    have nothing : Exchanges (fun _ => some) .null Json.null := ⟨.null, fun _ _ => rfl⟩
    apply exchanges_operation nothing
    intro levels read
    simp [operation?, tagged, tagged?]
  | .exit (some value), free => by
    simp only [Node.isFloatFree] at free
    have part := exchanges_node value free
    obtain ⟨members, form⟩ := value.toJson_eq_object
    rw [form] at part
    rw [Node.toJson, form]
    apply exchanges_operation part
    intro levels read
    simp [operation?, tagged, tagged?, read]
  | .echo value, free | .negate value, free => by
    simp only [Node.isFloatFree] at free
    apply exchanges_operation (exchanges_node value free)
    intro levels read
    simp [operation?, tagged, tagged?, read]
  | .assign target value, free => by
    simp only [Node.isFloatFree] at free
    have part := exchanges_node value free
    apply exchanges_compound (by decide)
    · simp [IsPlain.string, part.plain]
    · intro room fits
      simp only [depthOfMembers] at fits
      simp [compound?, record?, member?, text?, part.reads room (by omega)]
  | .ifThen first second, free | .whileDo first second, free | .doWhile second first, free
  | .concat first second, free => by
    simp only [Node.isFloatFree, Bool.and_eq_true] at free
    have one := exchanges_node first free.1
    have two := exchanges_node second free.2
    apply exchanges_compound (by decide)
    · simp [one.plain, two.plain]
    · intro room fits
      simp only [depthOfMembers] at fits
      simp [compound?, record?, member?, one.reads room (by omega), two.reads room (by omega)]
  | .ifElse condition thenBranch elseBranch, free => by
    simp only [Node.isFloatFree, Bool.and_eq_true] at free
    have test := exchanges_node condition free.1.1
    have first := exchanges_node thenBranch free.1.2
    have second := exchanges_node elseBranch free.2
    apply exchanges_compound (by decide)
    · simp [test.plain, first.plain, second.plain]
    · intro room fits
      simp only [depthOfMembers] at fits
      simp [compound?, record?, member?, test.reads room (by omega), first.reads room (by omega),
        second.reads room (by omega)]
  | .call word args, free | .new word args, free => by
    simp only [Node.isFloatFree, Bool.and_eq_true] at free
    have name := exchanges_name word free.1
    have parts := exchanges_list (exchanges_nodes args free.2)
    apply exchanges_compound (by decide)
    · simp [name.plain, parts.plain]
    · intro room fits
      simp only [depthOfMembers] at fits
      simp [compound?, record?, member?, name.reads room (by omega), parts.reads room (by omega)]
  | .arrayAssign name index value, free => by
    simp only [Node.isFloatFree, Bool.and_eq_true] at free
    have keys := exchanges_index index free.1
    have part := exchanges_node value free.2
    apply exchanges_compound (by decide)
    · simp [IsPlain.string, keys.plain, part.plain]
    · intro room fits
      simp only [depthOfMembers] at fits
      simp [compound?, record?, member?, text?, keys.reads room (by omega),
        part.reads room (by omega)]
  | .arrayFetch name index, free => by
    simp only [Node.isFloatFree] at free
    have keys := exchanges_index index free
    apply exchanges_compound (by decide)
    · simp [IsPlain.string, keys.plain]
    · intro room fits
      simp only [depthOfMembers] at fits
      simp [compound?, record?, member?, text?, keys.reads room (by omega)]
  | .methodCall target method args, free => by
    simp only [Node.isFloatFree, Bool.and_eq_true] at free
    have object := exchanges_node target free.1.1
    have name := exchanges_name method free.1.2
    have parts := exchanges_list (exchanges_nodes args free.2)
    apply exchanges_compound (by decide)
    · simp [object.plain, name.plain, parts.plain]
    · intro room fits
      simp only [depthOfMembers] at fits
      simp [compound?, record?, member?, object.reads room (by omega), name.reads room (by omega),
        parts.reads room (by omega)]
  | .memberFetch target member, free => by
    simp only [Node.isFloatFree, Bool.and_eq_true] at free
    have object := exchanges_node target free.1
    have name := exchanges_name member free.2
    apply exchanges_compound (by decide)
    · simp [object.plain, name.plain]
    · intro room fits
      simp only [depthOfMembers] at fits
      simp [compound?, record?, member?, object.reads room (by omega), name.reads room (by omega)]
  | .memberAssign target member value, free => by
    simp only [Node.isFloatFree, Bool.and_eq_true] at free
    have object := exchanges_node target free.1.1
    have name := exchanges_name member free.1.2
    have part := exchanges_node value free.2
    apply exchanges_compound (by decide)
    · simp [object.plain, name.plain, part.plain]
    · intro room fits
      simp only [depthOfMembers] at fits
      simp [compound?, record?, member?, object.reads room (by omega), name.reads room (by omega),
        part.reads room (by omega)]
  | .compare op left right, free | .arithmetic op left right, free => by
    simp only [Node.isFloatFree, Bool.and_eq_true] at free
    have first := exchanges_node left free.1
    have second := exchanges_node right free.2
    apply exchanges_compound (by decide)
    · simp [IsPlain.string, first.plain, second.plain]
    · intro room fits
      simp only [depthOfMembers] at fits
      simp [compound?, record?, member?, word?, first.reads room (by omega),
        second.reads room (by omega)]

theorem exchanges_nodes : ∀ nodes : List Node, Node.areFloatFree nodes = true →
    ∀ node ∈ nodes, Exchanges node? node.toJson node
  | [], _ => fun _ inside => absurd inside List.not_mem_nil
  | node :: nodes, free => by
    simp only [Node.areFloatFree, Bool.and_eq_true] at free
    exact List.forall_mem_cons.2 ⟨exchanges_node node free.1, exchanges_nodes nodes free.2⟩

theorem exchanges_name : ∀ name : Name, name.isFloatFree = true →
    Exchanges name? name.toJson name
  | .written name, _ => by
    apply (Exchanges.text name).tagged
    intro levels read
    simp [name?, tagged, tagged?, read]
  | .computed node, free => by
    simp only [Name.isFloatFree] at free
    apply (exchanges_node node free).tagged
    intro levels read
    simp [name?, tagged, tagged?, read]

theorem exchanges_index : ∀ index : Index, index.isFloatFree = true →
    Exchanges index? index.toJson index
  | .key node, free => by
    simp only [Index.isFloatFree] at free
    apply (exchanges_node node free).tagged
    intro levels read
    simp [index?, tagged, tagged?, read]
  | .path nodes, free => by
    simp only [Index.isFloatFree] at free
    apply (exchanges_list (exchanges_nodes nodes free)).tagged
    intro levels read
    simp [index?, tagged, tagged?, read]

end

/-! ## Declarations -/

theorem exchanges_function {decl : FunctionDecl} (free : decl.isFloatFree = true) :
    Exchanges function? decl.toJson decl := by
  have names : Exchanges (listAt fun _ => text?) (.array (decl.params.map .string)) decl.params :=
    Exchanges.list fun name _ => Exchanges.text name
  have body := exchanges_list (exchanges_nodes decl.body free)
  apply exchanges_record
  · simp [IsPlain.string, names.plain, body.plain]
  · intro room fits
    simp only [depthOfMembers] at fits
    simp [function?, record?, member?, text?, names.reads room (by omega),
      body.reads room (by omega)]

theorem exchanges_attribute {decl : AttributeDecl} (free : decl.isFloatFree = true) :
    Exchanges attribute? decl.toJson decl := by
  obtain ⟨visibility, name, init⟩ := decl
  cases init with
  | none =>
    apply exchanges_record
    · simp [IsPlain.string, IsPlain.null]
    · intro room fits
      simp [attribute?, record?, member?, text?, visibility?, word?]
  | some node =>
    have part := exchanges_node node free
    obtain ⟨members, form⟩ := node.toJson_eq_object
    rw [form] at part
    rw [AttributeDecl.toJson, Option.map_some, Option.getD_some, form]
    apply exchanges_record
    · simp [IsPlain.string, part.plain]
    · intro room fits
      simp only [depthOfMembers] at fits
      simp [attribute?, record?, member?, text?, visibility?, word?, part.reads room (by omega)]

theorem exchanges_method {decl : MethodDecl} (free : decl.function.isFloatFree = true) :
    Exchanges method? decl.toJson decl := by
  have function := exchanges_function free
  apply exchanges_record
  · simp [IsPlain.string, function.plain]
  · intro room fits
    simp only [depthOfMembers] at fits
    simp [method?, record?, member?, visibility?, word?, function.reads room (by omega)]

theorem exchanges_class {decl : ClassDecl} (free : decl.isFloatFree = true) :
    Exchanges class? decl.toJson decl := by
  simp only [ClassDecl.isFloatFree, Bool.and_eq_true, List.all_eq_true] at free
  have attributes : Exchanges (listAt attribute?)
      (.array (decl.attributes.map AttributeDecl.toJson)) decl.attributes :=
    Exchanges.list fun member inside => exchanges_attribute (free.1 member inside)
  have methods : Exchanges (listAt method?) (.array (decl.methods.map MethodDecl.toJson))
      decl.methods :=
    Exchanges.list fun method inside => exchanges_method (free.2 method inside)
  apply exchanges_record
  · simp [IsPlain.string, attributes.plain, methods.plain]
  · intro room fits
    simp only [depthOfMembers] at fits
    simp [class?, record?, member?, text?, visibility?, word?, attributes.reads room (by omega),
      methods.reads room (by omega)]

theorem exchanges_program {program : Program} (free : program.isFloatFree = true) :
    Exchanges program? program.toJson program := by
  simp only [Program.isFloatFree, Bool.and_eq_true, List.all_eq_true] at free
  have functions : Exchanges (listAt function?)
      (.array (program.functions.map FunctionDecl.toJson)) program.functions :=
    Exchanges.list fun decl inside => exchanges_function (free.1.1 decl inside)
  have classes : Exchanges (listAt class?) (.array (program.classes.map ClassDecl.toJson))
      program.classes :=
    Exchanges.list fun decl inside => exchanges_class (free.1.2 decl inside)
  have body := exchanges_node program.body free.2
  apply exchanges_record
  · simp [functions.plain, classes.plain, body.plain]
  · intro room fits
    simp only [depthOfMembers] at fits
    simp [program?, record?, member?, functions.reads room (by omega),
      classes.reads room (by omega), body.reads room (by omega)]

end Decode

/-- A program without floating point numbers whose text is not nested too deeply is read back from
its text as it was. -/
theorem Program.ofText?_render {program : Program} (free : program.isFloatFree = true)
    (fits : program.toJson.depth ≤ Json.maximumLevels) :
    Program.ofText? program.toJson.render = some program := by
  have exchanges := Decode.exchanges_program free
  rw [Program.ofText?, exchanges.plain.read?_render]
  exact exchanges.reads Json.maximumLevels fits

/-- A program whose texts have quotes, backslashes, controls and letters beyond ASCII. -/
def sampler : Program where
  functions := [⟨"tell", ["a", "$b"],
    [.echo (.concat (.text "\"\\/\x00\x1f\n\t\x7f") (.var "$b")), .exit none]⟩]
  classes := [⟨.anyone, "Größe",
    [⟨.owner, "m", some (.negate (.integer Int64.minValue))⟩, ⟨.family, "n", none⟩],
    [⟨.anyone, ⟨"go", [], []⟩⟩]⟩]
  body := .sequence [.arrayAssign "x" (.path [.text "😀", .integer 0]) (.new (.written "Größe") []),
    .whileDo (.compare .lessEqual (.var "i") (.arrayFetch "x" (.key (.var "i"))))
      (.methodCall (.var "o") (.computed (.var "m")) [.exit (some (.integer (-1)))])]

theorem Program.ofText?_render_sampler :
    (sampler.isFloatFree = true ∧ sampler.toJson.depth ≤ Json.maximumLevels) ∧
      Program.ofText? sampler.toJson.render = some sampler := by
  have free : sampler.isFloatFree = true := by decide
  have fits : sampler.toJson.depth ≤ Json.maximumLevels := by decide
  exact ⟨⟨free, fits⟩, Program.ofText?_render free fits⟩

end TagScript
