import TagScript.Program.Expression

/-!
# Reading statements and declarations

Functions and classes may be declared anywhere among statements. They are collected in the order in
which their text ends; what is left forms the body. A statement that declares something, or is
empty, yields no node.
-/

namespace TagScript

open Reader

namespace Statement

/-- The declarations of a statement and its node, if it has one. -/
abbrev Parts := Declarations × Option Node

/-- All declarations and all nodes of a list of statements. -/
def gather (parts : List Parts) : Declarations × List Node :=
  (parts.foldr (fun part later => part.1 ++ later) ∅, parts.filterMap Prod.snd)

/-- Whether a kind of token is a script tag. -/
def isTag (kind : TokenKind) : Bool :=
  kind = .openTag || kind = .closeTag

variable {m : Type → Type} [Monad m]

/-- Statements up to a token of this kind or the end of the source. Tags between them are skipped. -/
def list (statement : Reading m Parts) (last : TokenKind) :
    Reading m (Declarations × List Node) := do
  let parts ← many fun kind =>
    if kind = last || kind = .endOfSource then none
    else if isTag kind then some (advance *> pure (∅, none))
    else some statement
  return gather parts

variable [MonadExceptOf (Located ParseFault) m]

/-- Statements in braces. -/
def block (statement : Reading m Parts) : Reading m (Declarations × List Node) := do
  let _ ← expect .leftBrace
  let parts ← list statement .rightBrace
  let _ ← expect .rightBrace
  return parts

/-- The statement that a branch or loop runs, behind any tags. -/
def body (statement : Reading m Parts) : Reading m (Declarations × Node) := do
  let _ ← many fun kind => if isTag kind then some advance else none
  let (declarations, node) ← statement
  return (declarations, node.getD (.sequence []))

/-- A semicolon, or the place before a close tag or the end of the source. -/
def terminator : Reading m Unit := do
  match ← peekKind with
  | .semicolon => discard advance
  | .closeTag | .endOfSource => return
  | _ => failHere .expectedTerminator

/-- A condition in parentheses. -/
def condition (expression : Reading m Node) : Reading m Node := do
  let _ ← expect .leftParen
  let node ← expression
  let _ ← expect .rightParen
  return node

/-- An assignment of a value to what an expression denotes. -/
def assignment? (value : Node) : Node → Option Node
  | .var name => some (.assign name value)
  | .arrayFetch array index => some (.arrayAssign array index value)
  | .memberFetch target member => some (.memberAssign target member value)
  | _ => none

/-- An expression on its own, or an assignment. -/
def expressionStatement (expression : Reading m Node) : Reading m Node := do
  let target ← expression
  if (← peekKind) = .assign then
    let sign ← advance
    let value ← expression
    match assignment? value target with
    | none => failAt sign .invalidTarget
    | some node => terminator *> pure node
  else terminator *> pure target

/-- A branch, with or without an alternative. -/
def branch (statement : Reading m Parts) (expression : Reading m Node) : Reading m Parts := do
  let _ ← expect .kwIf
  let test ← condition expression
  let (declarations, thenBranch) ← body statement
  if (← peekKind) = .kwElse then
    let _ ← advance
    let (more, elseBranch) ← body statement
    return (declarations ++ more, some (.ifElse test thenBranch elseBranch))
  else
    return (declarations, some (.ifThen test thenBranch))

/-- A loop that tests before each round. -/
def whileLoop (statement : Reading m Parts) (expression : Reading m Node) : Reading m Parts := do
  let _ ← expect .kwWhile
  let test ← condition expression
  let (declarations, node) ← body statement
  return (declarations, some (.whileDo test node))

/-- A loop that tests after each round. -/
def doLoop (statement : Reading m Parts) (expression : Reading m Node) : Reading m Parts := do
  let _ ← expect .kwDo
  let (declarations, node) ← body statement
  let _ ← expect .kwWhile
  let test ← condition expression
  terminator
  return (declarations, some (.doWhile node test))

/-- Output of one expression, or of several in turn. -/
def echo (expression : Reading m Node) : Reading m Node := do
  let _ ← expect .kwEcho
  let values ← commaSeparated expression
  terminator
  match values with
  | [value] => return .echo value
  | values => return .sequence (values.map .echo)

/-- The end of a function, with or without a value. -/
def exit (expression : Reading m Node) : Reading m Node := do
  let _ ← expect .kwReturn
  let value ← match ← peekKind with
    | .semicolon | .closeTag | .endOfSource => pure none
    | _ => some <$> expression
  terminator
  return .exit value

/-- A function, with the declarations found inside it. -/
def function (statement : Reading m Parts) : Reading m (Declarations × FunctionDecl) := do
  let _ ← expect .kwFunction
  let name ← expect .identifier
  let params ← parenthesized (expect .variableName)
  let (declarations, nodes) ← block statement
  return (declarations, ⟨name.value, params.map Token.value, nodes⟩)

/-- A member of a class. -/
inductive Member
  | method (decl : MethodDecl)
  | field (decl : AttributeDecl)

/-- The method that a member is. -/
def Member.method? : Member → Option MethodDecl
  | method decl => some decl
  | field _ => none

/-- The attribute that a member is. -/
def Member.field? : Member → Option AttributeDecl
  | method _ => none
  | field decl => some decl

/-- The visibility that a keyword stands for. -/
def visibility? : TokenKind → Option Visibility
  | .kwPublic | .kwVar => some .anyone
  | .kwProtected => some .family
  | .kwPrivate => some .owner
  | _ => none

/-- An attribute after its modifier. -/
def field (expression : Reading m Node) (visibility : Visibility) : Reading m AttributeDecl := do
  let name ← expect .variableName
  let init ← if (← peekKind) = .assign then advance *> some <$> expression else pure none
  let _ ← expect .semicolon
  return ⟨visibility, name.value, init⟩

/-- A member of a class, with the declarations found inside it. Only a method can do without a
modifier; it is then open to everyone. -/
def member (statement : Reading m Parts) (expression : Reading m Node) :
    Reading m (Declarations × Member) := do
  let visibility := visibility? (← peekKind)
  if visibility.isSome then
    let _ ← advance
  if (← peekKind) = .kwFunction then
    let (declarations, decl) ← function statement
    return (declarations, .method ⟨visibility.getD .anyone, decl⟩)
  else
    match visibility with
    | none => failHere .expectedDeclaration
    | some visibility => return (∅, .field (← field expression visibility))

/-- A class, with the declarations found inside its methods. -/
def classDecl (statement : Reading m Parts) (expression : Reading m Node) :
    Reading m (Declarations × ClassDecl) := do
  let _ ← expect .kwClass
  let name ← expect .identifier
  let _ ← expect .leftBrace
  let members ← many fun kind =>
    if kind = .rightBrace || kind = .endOfSource then none
    else some (member statement expression)
  let _ ← expect .rightBrace
  let decl : ClassDecl :=
    { visibility := .anyone
      name := name.value
      attributes := members.filterMap fun part => part.2.field?
      methods := members.filterMap fun part => part.2.method? }
  return (members.foldr (fun part later => part.1 ++ later) ∅, decl)

/-- A statement, given readers for the statements and expressions inside it. -/
def statementWith (statement : Reading m Parts) (expression : Reading m Node) :
    Reading m Parts := do
  let token ← peek
  match token.kind with
  | .kwFunction =>
    let (inner, decl) ← function statement
    return (inner ++ { functions := [decl] }, none)
  | .kwClass =>
    let (inner, decl) ← classDecl statement expression
    return (inner ++ { classes := [decl] }, none)
  | .semicolon => advance *> pure (∅, none)
  | .inlineText => advance *> pure (∅, some (.echo (.text token.value)))
  | .leftBrace =>
    let (declarations, nodes) ← block statement
    return (declarations, some (.sequence nodes))
  | .kwIf => branch statement expression
  | .kwWhile => whileLoop statement expression
  | .kwDo => doLoop statement expression
  | .kwEcho => return (∅, some (← echo expression))
  | .kwReturn => return (∅, some (← exit expression))
  | _ => return (∅, some (← expressionStatement expression))

/-- A statement with room for so many nested statements, expressions and negations, itself
included. -/
def statement (room : Nat) : Reader Parts := fun tokens =>
  match room with
  | 0 => tooDeep tokens
  | room + 1 => statementWith (statement room) (Node.readExpression room) tokens

end Statement

/-- All statements up to the end of the source, given a reader for one. -/
def Program.readWith {m : Type → Type} [Monad m] [MonadExceptOf (Located ParseFault) m]
    (statement : Reading m Statement.Parts) : Reading m Program := do
  let (declarations, nodes) ← Statement.list statement .endOfSource
  if (← peekKind) = .endOfSource then
    return ⟨declarations.functions, declarations.classes, .sequence nodes⟩
  else failHere .unexpected

/-- All statements up to the end of the source. -/
def Program.read : Reader Program :=
  Program.readWith (Statement.statement maximumDepth)

/-- The program that tokens form. All tokens before the end of the source belong to it. -/
def Program.parse (tokens : List Token) : Except (Located ParseFault) Program :=
  (Program.read.run tokens).map Prod.fst

end TagScript
