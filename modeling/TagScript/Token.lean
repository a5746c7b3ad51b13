import TagScript.Source
import TagScript.Text.Quoted

/-!
# Tokens

A source text is inline text with scripts between tags. Tokens are the pieces of it that the grammar
sees; each has a kind, a value and the place where it starts.
-/

namespace TagScript

/-- The kind of a token. -/
inductive TokenKind
  | inlineText
  | openTag
  | closeTag
  | endOfSource
  | string
  | integer
  | float
  | variableName
  | identifier
  | leftBrace
  | rightBrace
  | leftParen
  | rightParen
  | leftBracket
  | rightBracket
  | semicolon
  | comma
  | dot
  | arrow
  | assign
  | equal
  | notEqual
  | less
  | lessEqual
  | greater
  | greaterEqual
  | plus
  | minus
  | star
  | slash
  | kwIf
  | kwElse
  | kwWhile
  | kwDo
  | kwEcho
  | kwReturn
  | kwFunction
  | kwClass
  | kwNew
  | kwPublic
  | kwProtected
  | kwPrivate
  | kwVar
  deriving DecidableEq, Repr, Inhabited

namespace TokenKind

/-- The name of a kind in diagnostics. -/
def name : TokenKind → String
  | inlineText => "InlineHtml"
  | openTag => "OpenTag"
  | closeTag => "CloseTag"
  | endOfSource => "Eof"
  | string => "StringLit"
  | integer => "Integer"
  | float => "Float"
  | variableName => "Variable"
  | identifier => "Identifier"
  | leftBrace => "LBrace"
  | rightBrace => "RBrace"
  | leftParen => "LParen"
  | rightParen => "RParen"
  | leftBracket => "LBracket"
  | rightBracket => "RBracket"
  | semicolon => "Semicolon"
  | comma => "Comma"
  | dot => "Dot"
  | arrow => "Arrow"
  | assign => "Assign"
  | equal => "Equals"
  | notEqual => "NotEquals"
  | less => "LessThan"
  | lessEqual => "LessEqual"
  | greater => "GreaterThan"
  | greaterEqual => "GreaterEqual"
  | plus => "Plus"
  | minus => "Minus"
  | star => "Star"
  | slash => "Slash"
  | kwIf => "If"
  | kwElse => "Else"
  | kwWhile => "While"
  | kwDo => "Do"
  | kwEcho => "Echo"
  | kwReturn => "Return"
  | kwFunction => "Function"
  | kwClass => "Class"
  | kwNew => "New"
  | kwPublic => "Public"
  | kwProtected => "Protected"
  | kwPrivate => "Private"
  | kwVar => "Var"

/-- Whether a keyword can open the declaration of a class member. -/
def isModifier : TokenKind → Bool
  | kwPublic | kwProtected | kwPrivate | kwVar => true
  | _ => false

/-- Whether a kind is that of a keyword. -/
def isKeyword : TokenKind → Bool
  | kwIf | kwElse | kwWhile | kwDo | kwEcho | kwReturn | kwFunction | kwClass | kwNew
  | kwPublic | kwProtected | kwPrivate | kwVar => true
  | _ => false

/-- The keyword that a word spells, in any case. -/
def ofWord? (word : String) : Option TokenKind :=
  match word.map Char.toLower with
  | "if" => some kwIf
  | "else" => some kwElse
  | "while" => some kwWhile
  | "do" => some kwDo
  | "echo" => some kwEcho
  | "return" => some kwReturn
  | "function" => some kwFunction
  | "class" => some kwClass
  | "new" => some kwNew
  | "public" => some kwPublic
  | "protected" => some kwProtected
  | "private" => some kwPrivate
  | "var" => some kwVar
  | _ => none

end TokenKind

/-- A piece of the source. The value of a string is its decoded content and that of a variable its
name; any other value is the piece as written. -/
structure Token where
  kind : TokenKind
  value : String
  position : Position
  deriving DecidableEq, Repr, Inhabited

namespace Token

/-- A one-line description. Tags and the end of the source have no value worth showing. -/
def describe (token : Token) : String :=
  let place := token.position.toText
  match token.kind with
  | .openTag | .closeTag | .endOfSource => s!"Token({token.kind.name}, {place})"
  | _ => s!"Token({token.kind.name}, {Text.quoted token.value}, {place})"

end Token

end TagScript
