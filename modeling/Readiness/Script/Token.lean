import Readiness.Decimal.Numeral
import Readiness.Script.Complaint

/-!
# Tokens

The words of a script. A token knows where it stands; its line is the one on which it ends, and
`lineStart` is the offset where that line starts, which lies behind the token's own start when the
token spans several lines.
-/

namespace Readiness.Script

/-- The classes of tokens. The last two occur only inside markup. -/
inductive Token.Kind where
  | boolean | eof | identifier | keyword | null | numeric | punctuator | string | template | regExp
  | tagName | tagText
deriving DecidableEq, Inhabited

/-- A token of a script. `value` is its spelling, for a string the characters it denotes, for a
template the raw characters between its delimiters. -/
structure Token where
  kind : Token.Kind
  value : Text
  /-- The value of a number. -/
  number : Decimal.Numeral := .whole 0
  /-- Whether a number or string uses a legacy octal form. -/
  octal : Bool := false
  /-- The characters that a template piece denotes. -/
  cooked : Text := []
  /-- The text that shows a valid regular expression. -/
  shown : Option Text := none
  /-- Whether a template piece opens the template. -/
  head : Bool := false
  /-- Whether a template piece closes the template. -/
  tail : Bool := false
  start : Nat
  stop : Nat
  line : Nat
  lineStart : Nat
deriving Inhabited

namespace Token

/-- The words that are never identifiers. -/
def keywords : List Text :=
  Text.ofStrings ["if", "in", "do", "var", "for", "new", "try", "let", "this", "else", "case",
    "void", "with", "enum", "while", "break", "catch", "throw", "const", "yield", "class",
    "super", "return", "typeof", "delete", "switch", "export", "import", "default", "finally",
    "extends", "function", "continue", "debugger", "instanceof"]

/-- The keywords kept for later use. -/
def isFutureReserved (w : Text) : Bool :=
  w == "enum" || w == "export" || w == "import" || w == "super"

/-- The words that strict code reserves. -/
def isStrictReserved (w : Text) : Bool :=
  ["implements", "interface", "package", "private", "protected", "public", "static", "yield",
    "let"].contains w.word

/-- The names that strict code does not let one bind. -/
def isRestricted (w : Text) : Bool := w == "eval" || w == "arguments"

/-- Whether the token is the given punctuator. -/
def isPunct (t : Token) (v : Text) : Bool := t.kind == .punctuator && t.value == v

/-- Whether the token is the given keyword. -/
def isWord (t : Token) (v : Text) : Bool := t.kind == .keyword && t.value == v

/-- Whether the token is the identifier with a special meaning in some places. -/
def isName (t : Token) (v : Text) : Bool := t.kind == .identifier && t.value == v

/-- Whether the token is a number and that number is zero. -/
def isZero (t : Token) : Bool :=
  t.kind == .numeric &&
    match t.number with
    | .whole n => n == 0
    | .double _ => false

/-- Whether the token can stand where any name can, as after a dot. -/
def isAnyName (t : Token) : Bool :=
  t.kind == .identifier || t.kind == .keyword || t.kind == .boolean || t.kind == .null

/-- Whether the token can start the key of a property. -/
def startsKey (t : Token) : Bool :=
  t.isAnyName || t.kind == .string || t.kind == .numeric || t.isPunct "["

/-- What is wrong when this token stands where none of its kind can. -/
def complaint (t : Token) (strict : Bool) : Complaint :=
  match t.kind with
  | .eof => .unexpectedEnd
  | .identifier => .unexpectedIdentifier
  | .numeric => .unexpectedNumber
  | .string => .unexpectedString
  | .template => .unexpectedQuasi t.value
  | .keyword =>
    if isFutureReserved t.value then .unexpectedReserved
    else if strict && isStrictReserved t.value then .strictReservedWord
    else .unexpectedToken t.value
  | _ => .unexpectedToken t.value

end Token

end Readiness.Script
