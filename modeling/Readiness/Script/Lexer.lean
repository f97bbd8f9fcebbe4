import Readiness.Script.Quoted
import Readiness.Script.RegExp
import Readiness.Script.Token

/-!
# The lexer

Reads the token at a cursor. The lexer takes the longest punctuator, and decides by the brace that
was opened last whether a closing brace goes on with a template. A slash is always a punctuator
here; where an expression is expected the parser reads a regular expression at its place instead.
-/

namespace Readiness.Script

/-- An open brace: of a block, or of an interpolation in a template. -/
inductive Brace where
  | block
  | interpolation
deriving DecidableEq

/-- A token that was read, the cursor behind it, the braces open there, and the problems noted. -/
structure Lexeme where
  token : Token
  after : Cursor
  braces : List Brace
  problems : List Problem

/-- A token from `c` to `after`. -/
def Token.between (kind : Token.Kind) (value : Text) (c after : Cursor) : Token :=
  { kind, value, start := c.index, stop := after.index, line := after.line,
    lineStart := after.lineStart }

/-! ## Identifiers -/

/-- Reads the escape of an identifier character from behind its backslash. The four-digit form must
denote a character that `allowed` admits, other than a backslash; the braced form may denote
any. -/
def identifierEscape (allowed : CodePoint → Bool) (c : Cursor) : Except Problem (CodePoint × Cursor) :=
  match c.rest with
  | .char 'u' :: .char '{' :: r =>
    match bracedEscape r with
    | .char d k rest => .ok (d, c.move rest (k + 2))
    | .bad k => .error ((c.move [] (k + 2)).problem .illegalToken)
  | .char 'u' :: r =>
    match fixedEscape 4 r with
    | .char d k rest =>
      if d != '\\' && allowed d then .ok (d, c.move rest (k + 1))
      else .error ((c.move [] (k + 1)).problem .illegalToken)
    | .bad k => .error ((c.move [] (k + 1)).problem .illegalToken)
  | _ => .error (c.problem .illegalToken)

/-- Reads the rest of an identifier that holds escapes. Each turn takes a character, so as many
turns as characters are enough. -/
def escapedIdentifier : Nat → Cursor → Text → Except Problem (Text × Cursor)
  | 0, c, acc => .ok (acc.reverse, c)
  | fuel + 1, c, acc =>
    match c.rest with
    | [] => .ok (acc.reverse, c)
    | x :: r =>
      if !isIdentifierPart x then .ok (acc.reverse, c)
      else if x == '\\' then
        match identifierEscape isIdentifierPart (c.move r 1) with
        | .ok (d, c') => escapedIdentifier fuel c' (d :: acc)
        | .error p => .error p
      else escapedIdentifier fuel (c.move r 1) (x :: acc)

/-- Reads the name at the cursor, whose first character starts an identifier. -/
def identifierName (c : Cursor) : Except Problem (Text × Cursor) :=
  let (word, rest) := c.rest.span isIdentifierPart
  if !word.contains '\\' then .ok (word, c.move rest word.length)
  else
    match c.rest with
    | .char '\\' :: r =>
      match identifierEscape isIdentifierStart (c.move r 1) with
      | .ok (d, c') => escapedIdentifier c'.rest.length c' [d]
      | .error p => .error p
    | _ => escapedIdentifier c.rest.length c []

/-- The class of a name that was read. A name of one character is always an identifier. -/
def classOfName (name : Text) (length : Nat) : Token.Kind :=
  if length ≤ 1 then .identifier
  else if Token.keywords.contains name then .keyword
  else if name == "null" then .null
  else if name == "true" || name == "false" then .boolean
  else .identifier

/-- Reads an identifier or keyword. A keyword spelled with escapes is noted. -/
def lexName (c : Cursor) (braces : List Brace) : Except Problem Lexeme := do
  let (name, after) ← identifierName c
  let value := name
  let kind := classOfName value name.length
  let escaped := c.index + name.length != after.index
  let problems := if kind != .identifier && escaped then [Cursor.problem { after with index := c.index } .escapedReservedWord] else []
  return ⟨Token.between kind value c after, after, braces, problems⟩

/-! ## Punctuators -/

/-- The punctuators with more than one character that are read by the longest match. -/
def longPunctuators : List Text :=
  [">>>=", "===", "!==", ">>>", "<<=", ">>=", "**=", "&&", "||", "==", "!=", "+=", "-=", "*=", "/=",
   "++", "--", "<<", ">>", "&=", "|=", "^=", "%=", "<=", ">=", "=>", "**"]

/-- The punctuator at the front of a text. -/
def punctuator? (t : Text) : Option Text :=
  match t with
  | [] => none
  | .char '.' :: .char '.' :: .char '.' :: _ => some "..."
  | c :: _ =>
    if ("(){};,[]:?~." : Text).contains c then some [c]
    else
      match longPunctuators.find? (fun p => p.isPrefixOf t) with
      | some p => some p
      | none => if ("<>=!+-*%&|^/" : Text).contains c then some [c] else none

/-- Reads a punctuator, opening or closing a brace. -/
def lexPunctuator (c : Cursor) (braces : List Brace) : Except Problem Lexeme :=
  match punctuator? c.rest with
  | none => .error (c.problem .illegalToken)
  | some p =>
    let after := c.skip p.length
    let braces := if p == "\x7b" then .block :: braces else if p == "\x7d" then braces.tail else braces
    .ok ⟨Token.between .punctuator p c after, after, braces, []⟩

/-! ## Numbers -/

/-- The number with the given digits in the given base. -/
def digitsValue (base : Nat) (digits : Text) : Nat :=
  digits.foldl (fun n c => n * base + (hexDigit? c).getD 0) 0

/-- Whether the character at the cursor makes a number before it illegal. -/
def sticksTo (bad : CodePoint → Bool) (c : Cursor) : Bool :=
  (c.rest.head?.map bad).getD false

/-- A number in a base other than ten: `skip` characters of introduction, then digits. -/
def lexRadix (base skip : Nat) (digit : CodePoint → Bool) (bad : CodePoint → Bool) (octal : Bool) (c : Cursor)
    (braces : List Brace) : Except Problem Lexeme :=
  let c' := c.skip skip
  let digits := c'.rest.takeWhile digit
  let after := c'.skip digits.length
  if digits.isEmpty || sticksTo bad after then .error (after.problem .illegalToken)
  else
    let number := Decimal.Numeral.whole (digitsValue base digits)
    .ok ⟨{ Token.between .numeric number.text c after with number, octal }, after, braces, []⟩

/-- Whether digits after a leading zero make an octal number: no eight or nine comes before their
end. -/
def isLegacyOctal (t : Text) : Bool :=
  match t.dropWhile isOctalDigit with
  | c :: _ => !(c == '8' || c == '9')
  | [] => true

/-- A decimal number: digits, a fraction, an exponent. -/
def lexDecimal (c : Cursor) (braces : List Brace) : Except Problem Lexeme :=
  let whole := c.rest.takeWhile CodePoint.isDigit
  let c₁ := c.skip whole.length
  let (fraction, c₂) : Text × Cursor :=
    match c₁.rest with
    | .char '.' :: r =>
      let f := r.takeWhile CodePoint.isDigit
      (f, c₁.skip (f.length + 1))
    | _ => ([], c₁)
  let finish (exponent : Int) (after : Cursor) : Except Problem Lexeme :=
    if sticksTo isIdentifierStart after then .error (after.problem .illegalToken)
    else
      let mantissa := digitsValue 10 (whole ++ fraction)
      let number := Decimal.Numeral.ofFloat (Decimal.toFloat mantissa (exponent - fraction.length))
      .ok ⟨{ Token.between .numeric number.text c after with number }, after, braces, []⟩
  match c₂.rest with
  | e :: r =>
    if e == 'e' || e == 'E' then
      let (sign, r, n) : Int × Text × Nat :=
        match r with
        | .char '+' :: r => (1, r, 2)
        | .char '-' :: r => (-1, r, 2)
        | r => (1, r, 1)
      let digits := r.takeWhile CodePoint.isDigit
      if digits.isEmpty then .error ((c₂.skip n).problem .illegalToken)
      else finish (sign * digitsValue 10 digits) (c₂.skip (n + digits.length))
    else finish 0 c₂
  | [] => finish 0 c₂

/-- Reads a number. -/
def lexNumber (c : Cursor) (braces : List Brace) : Except Problem Lexeme :=
  let orDigit (x : CodePoint) : Bool := isIdentifierStart x || x.isDigit
  match c.rest with
  | .char '0' :: x :: r =>
    if x == 'x' || x == 'X' then
      lexRadix 16 2 (fun d => (hexDigit? d).isSome) isIdentifierStart false c braces
    else if x == 'b' || x == 'B' then
      lexRadix 2 2 (fun d => d == '0' || d == '1') orDigit false c braces
    else if x == 'o' || x == 'O' then lexRadix 8 2 isOctalDigit orDigit false c braces
    else if isOctalDigit x && isLegacyOctal r then lexRadix 8 1 isOctalDigit orDigit true c braces
    else lexDecimal c braces
  | _ => lexDecimal c braces

/-! ## Literals in quotes -/

/-- Reads a string. -/
def lexString (quote : CodePoint) (c : Cursor) (braces : List Brace) : Except Problem Lexeme := do
  let body ← stringBody quote c.index (c.skip 1) [] false []
  let token := Token.between .string body.value c body.after
  return ⟨{ token with octal := body.octal }, body.after, braces, body.problems⟩

/-- Reads a piece of a template: from its backquote, or from the brace that closes an
interpolation. -/
def lexTemplate (head : Bool) (c : Cursor) (braces : List Brace) : Except Problem Lexeme := do
  let body ← templateBody (c.skip 1) []
  let delimiter := if body.tail then 1 else 2
  let raw := (c.rest.drop 1).take (body.after.index - delimiter - (c.index + 1))
  let token := Token.between .template raw c body.after
  let opened := if body.tail then braces else .interpolation :: braces
  -- The piece that follows an interpolation closes the brace it started with.
  let braces := if head then opened else opened.tail
  return ⟨{ token with cooked := body.cooked, head, tail := body.tail }, body.after, braces, []⟩

/-! ## The next token -/

/-- Reads the token at the cursor. -/
def lex (c : Cursor) (braces : List Brace) : Except Problem Lexeme :=
  match c.rest with
  | [] => .ok ⟨Token.between .eof "" c c, c, braces, []⟩
  | x :: r =>
    if isIdentifierStart x then lexName c braces
    else if x == '\'' || x == '"' then lexString x c braces
    else if x == '.' then
      if (r.head?.map CodePoint.isDigit).getD false then lexNumber c braces else lexPunctuator c braces
    else if x.isDigit then lexNumber c braces
    else if x == '`' then lexTemplate true c braces
    else if x == '}' && braces.head? == some .interpolation then lexTemplate false c braces
    else lexPunctuator c braces

/-! ## Regular expressions -/

/-- Reads the body of a regular expression from behind its opening slash, with `inClass` while
between brackets: the pattern, and the cursor behind the closing slash. -/
def regExpBody : Bool → Text → Cursor → Text → Except Problem (Text × Cursor)
  | _, [], c, _ => .error (c.problem .unterminatedRegExp)
  | _, [.char '\\'], c, _ => .error ((c.move [] 2).problem .unterminatedRegExp)
  | inClass, .char '\\' :: e :: r, c, acc =>
    if isLineBreak e then .error ((c.move [] 2).problem .unterminatedRegExp)
    else regExpBody inClass r (c.move r 2) (e :: '\\' :: acc)
  | inClass, x :: r, c, acc =>
    let c' := c.move r 1
    if isLineBreak x then .error (c'.problem .unterminatedRegExp)
    else if inClass then regExpBody (x != ']') r c' (x :: acc)
    else if x == '/' then .ok (acc.reverse, c')
    else regExpBody (x == '[') r c' (x :: acc)

/-- Reads the flags of a regular expression, of which the last one comes first in the result; an
escape among them is noted. -/
def regExpFlags : Nat → Cursor → Text → List Problem → Cursor × Text × List Problem
  | 0, c, flags, ps => (c, flags, ps)
  | fuel + 1, c, flags, ps =>
    match c.rest with
    | [] => (c, flags, ps)
    | x :: r =>
      if !isIdentifierPart x then (c, flags, ps)
      else if x == '\\' then
        match r with
        | [] => regExpFlags fuel (c.move r 1) (x :: flags) ps
        | .char 'u' :: r' =>
          let (c', flag) : Cursor × CodePoint :=
            match fixedEscape 4 r' with
            | .char v k rest => (c.move rest (k + 2), v)
            | .bad _ => (c.move r' 2, 'u')
          regExpFlags fuel c' (flag :: flags) (c'.problem .illegalToken :: ps)
        | r =>
          let c' := c.move r 1
          regExpFlags fuel c' flags (c'.problem .illegalToken :: ps)
      else regExpFlags fuel (c.move r 1) (x :: flags) ps

/-- Reads a regular expression whose opening slash is at the cursor. A pattern outside the accepted
dialect is noted behind the flags, and so is each escape that names no code point. -/
def lexRegExp (c : Cursor) (braces : List Brace) : Except Problem Lexeme := do
  let (pattern, afterBody) ← regExpBody false (c.rest.drop 1) (c.skip 1) []
  let (after, flags, noted) := regExpFlags (afterBody.rest.length + 1) afterBody [] []
  let shown := RegExp.shown? pattern flags
  let faults := RegExp.codePointFaults pattern + (if shown.isSome then 0 else 1)
  let problems := noted.reverse ++ List.replicate faults (after.problem .invalidRegExp)
  return ⟨{ Token.between .regExp "" c after with shown }, after, braces, problems⟩

end Readiness.Script
