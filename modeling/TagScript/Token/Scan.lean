import TagScript.Text.Blank
import TagScript.Token

/-!
# Scanning tokens

A source is cut into lexemes from left to right: inline text up to an open tag, then script up to a
close tag, and so on. Blanks and comments are lexemes that leave no token. A lexeme is described by
its length, so lexemes never overlap and never skip a character, and the place of each token is the
place reached by all the text before it.
-/

namespace TagScript

/-- Why a source has no tokens. -/
inductive ScanFault
  | unexpectedCharacter (c : Char)
  | unterminatedString
  | unterminatedComment
  | missingVariableName
  deriving DecidableEq, Repr

/-- The wording of a fault. -/
def ScanFault.message : ScanFault → String
  | unexpectedCharacter c => s!"Unexpected character: {Text.quotedChar c}"
  | unterminatedString => "Unterminated string literal"
  | unterminatedComment => "Unterminated block comment"
  | missingVariableName => "Expected variable name after '$'"

/-- Whether text is copied or run. -/
inductive Mode
  | inline
  | script
  deriving DecidableEq, Repr

/-- The first piece of a text: the token it stands for, if any, its length, and the mode after it. -/
structure Lexeme where
  token : Option (TokenKind × String)
  length : Nat
  mode : Mode := .script
  deriving DecidableEq, Repr

namespace Lexeme

/-- Whether a name can start with this character. Everything beyond ASCII counts as a letter. -/
def isNameStart (c : Char) : Bool :=
  c.isAlpha || c = '_' || 128 ≤ c.toNat

/-- Whether a name can go on with this character. -/
def isNameCharacter (c : Char) : Bool :=
  isNameStart c || c.isDigit

/-- The number of leading characters of a class. -/
def run (p : Char → Bool) (text : List Char) : Nat :=
  (text.takeWhile p).length

/-- The length of the text before the next open tag. -/
def inlineLength (text : List Char) : Nat :=
  count text 0
where
  /-- Counts on from `passed`. -/
  count : List Char → Nat → Nat
    | [], passed => passed
    | '<' :: '?' :: _, passed => passed
    | _ :: rest, passed => count rest (passed + 1)

/-- The length of a line comment: it ends before a line break and before a close tag. -/
def lineCommentLength : List Char → Nat
  | [] => 0
  | '\n' :: _ => 0
  | '?' :: '>' :: _ => 0
  | _ :: rest => lineCommentLength rest + 1

/-- The length of what stands before the end mark of a block comment, if there is one. -/
def blockCommentLength? : List Char → Option Nat
  | [] => none
  | '*' :: '/' :: _ => some 0
  | _ :: rest => (blockCommentLength? rest).map (· + 1)

/-- The length of what stands before the closing quote, if there is one. A backslash hides the
character after it. -/
def stringLength? (quote : Char) : List Char → Option Nat
  | [] => none
  | '\\' :: _ :: rest => (stringLength? quote rest).map (· + 2)
  | c :: rest => if c = quote then some 0 else (stringLength? quote rest).map (· + 1)

/-- What an escaped character stands for between two quotes. A backslash stays in front of a
character that it does not escape. -/
def unescaped (quote c : Char) : List Char :=
  if c = '\\' || c = quote then [c]
  else if quote = '"' && c = 'n' then ['\n']
  else if quote = '"' && c = 't' then ['\t']
  else if quote = '"' && c = 'r' then ['\r']
  else if quote = '"' && c = '$' then ['$']
  else ['\\', c]

/-- The content of a string, given what stands between its quotes. -/
def unescape (quote : Char) : List Char → List Char
  | [] => []
  | '\\' :: c :: rest => unescaped quote c ++ unescape quote rest
  | c :: rest => c :: unescape quote rest

/-- The word after an open tag that belongs to it, when a blank or the end of the source follows. -/
def tagWordLength (text : List Char) : Nat :=
  match text with
  | a :: b :: c :: rest =>
    if [a, b, c].map Char.toLower = ['p', 'h', 'p'] && rest.head?.all Text.isBlank then 3 else 0
  | _ => 0

/-- The line break after a close tag, which belongs to it. -/
def lineBreakLength : List Char → Nat
  | '\n' :: _ => 1
  | '\r' :: '\n' :: _ => 2
  | _ => 0

/-- The lexeme that opens an inline text, which is not empty. -/
def ofInline (text : List Char) : Lexeme :=
  match text with
  | '<' :: '?' :: rest => ⟨some (.openTag, "<?"), 2 + tagWordLength rest, .script⟩
  | _ =>
    let length := inlineLength text
    ⟨some (.inlineText, .ofList (text.take length)), length, .inline⟩

/-- The operator or punctuation mark that two characters make up. -/
def pair? : Char → Char → Option (TokenKind × String)
  | '-', '>' => some (.arrow, "->")
  | '=', '=' => some (.equal, "==")
  | '!', '=' => some (.notEqual, "!=")
  | '<', '>' => some (.notEqual, "<>")
  | '<', '=' => some (.lessEqual, "<=")
  | '>', '=' => some (.greaterEqual, ">=")
  | _, _ => none

/-- The operator or punctuation mark that a character is. -/
def single? : Char → Option TokenKind
  | '\x7b' => some .leftBrace
  | '\x7d' => some .rightBrace
  | '(' => some .leftParen
  | ')' => some .rightParen
  | '[' => some .leftBracket
  | ']' => some .rightBracket
  | ';' => some .semicolon
  | ',' => some .comma
  | '.' => some .dot
  | '+' => some .plus
  | '-' => some .minus
  | '*' => some .star
  | '/' => some .slash
  | '<' => some .less
  | '>' => some .greater
  | '=' => some .assign
  | _ => none

/-- A mark of one or two characters. -/
def mark? (c : Char) (rest : List Char) : Option Lexeme :=
  match rest.head?.bind (pair? c) with
  | some token => some { token := some token, length := 2 }
  | none => (single? c).map fun kind => { token := some (kind, c.toString), length := 1 }

/-- The string between this quote and the next one that is not hidden. -/
def string (quote : Char) (rest : List Char) : Except (Nat × ScanFault) Lexeme :=
  match stringLength? quote rest with
  | none => .error (0, .unterminatedString)
  | some length =>
    let content := unescape quote (rest.take length)
    .ok { token := some (.string, .ofList content), length := length + 2 }

/-- A run of digits. A point belongs to it only when a digit follows. -/
def number (text : List Char) : Lexeme :=
  let whole := run Char.isDigit text
  match text.drop whole with
  | '.' :: rest =>
    let places := run Char.isDigit rest
    if places = 0 then token .integer whole else token .float (whole + 1 + places)
  | _ => token .integer whole
where
  /-- The leading characters as a number of this kind. -/
  token (kind : TokenKind) (length : Nat) : Lexeme :=
    { token := some (kind, .ofList (text.take length)), length }

/-- A variable: dollar signs, the first of which is not part of the name, and a name. -/
def variableName (text : List Char) : Except (Nat × ScanFault) Lexeme :=
  let dollars := run (· = '$') text
  let rest := text.drop dollars
  if rest.head?.any isNameStart then
    let length := dollars + run isNameCharacter rest
    .ok { token := some (.variableName, .ofList ((text.take length).drop 1)), length }
  else .error (dollars, .missingVariableName)

/-- A word: a keyword or an identifier. -/
def word (text : List Char) : Lexeme :=
  let length := run isNameCharacter text
  let word := String.ofList (text.take length)
  { token := some ((TokenKind.ofWord? word).getD .identifier, word), length }

/-- A block comment, given what follows its start mark. -/
def blockComment (rest : List Char) : Except (Nat × ScanFault) Lexeme :=
  match blockCommentLength? rest with
  | none => .error (0, .unterminatedComment)
  | some length => .ok { token := none, length := length + 4 }

/-- The lexeme at the front of a script. A fault comes with the number of characters before the
place that it is reported at. -/
def ofScript (c : Char) (rest : List Char) : Except (Nat × ScanFault) Lexeme :=
  if Text.isBlank c then .ok { token := none, length := run Text.isBlank (c :: rest) }
  else if c = '#' then .ok { token := none, length := 1 + lineCommentLength rest }
  else if c = '/' && rest.head? = some '/' then
    .ok { token := none, length := 1 + lineCommentLength rest }
  else if c = '/' && rest.head? = some '*' then blockComment (rest.drop 1)
  else if c = '?' && rest.head? = some '>' then
    .ok ⟨some (.closeTag, "?>"), 2 + lineBreakLength (rest.drop 1), .inline⟩
  else if c = '\x27' || c = '"' then string c rest
  else if c.isDigit then .ok (number (c :: rest))
  else if c = '$' then variableName (c :: rest)
  else
    match mark? c rest with
    | some lexeme => .ok lexeme
    | none =>
      if isNameStart c then .ok (word (c :: rest)) else .error (0, .unexpectedCharacter c)

/-- The lexeme at the front of a text. -/
def first (mode : Mode) (c : Char) (rest : List Char) : Except (Nat × ScanFault) Lexeme :=
  match mode with
  | .inline => .ok (ofInline (c :: rest))
  | .script => ofScript c rest

end Lexeme

namespace Token

/-- The tokens of a text that starts at `place`. Every lexeme takes at least one character. -/
def scanFrom (mode : Mode) (place : Position) (text : List Char) :
    Except (Located ScanFault) (List Token) :=
  match text with
  | [] => .ok [⟨.endOfSource, "", place⟩]
  | c :: rest =>
    match Lexeme.first mode c rest with
    | .error (passed, cause) => .error ⟨place.after (text.take passed), cause⟩
    | .ok lexeme => do
      let tokens ← scanFrom lexeme.mode (place.after (text.take lexeme.length))
        (rest.drop (lexeme.length - 1))
      return (lexeme.token.map fun (kind, value) => ⟨kind, value, place⟩).toList ++ tokens
termination_by text.length
decreasing_by
  simp only [List.length_drop, List.length_cons]
  omega

/-- The tokens of a source. The last one marks the end of the source. -/
def scan (source : String) : Except (Located ScanFault) (List Token) :=
  scanFrom .inline .start source.toList

end Token

end TagScript
