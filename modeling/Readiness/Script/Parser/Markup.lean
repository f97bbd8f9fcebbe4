import Readiness.Script.Entity
import Readiness.Script.Parser.Pattern

/-!
# Markup

Elements in angle brackets where an expression can stand. Inside of them other tokens are read:
names may hold hyphens, strings hold entities instead of escapes, and the text between tags is taken
as it is. The parser leaves the tokens of scripts when it meets the opening bracket, comes back to
them inside braces, and again behind the element.

Line breaks inside an attribute's string are not counted as lines.
-/

namespace Readiness.Script.Parser

/-- Goes back to where the token ahead starts, to read it as markup. -/
def enterMarkup : Parser Unit := modify fun s =>
  { s with cursor := s.start }

/-- Reads the next token as one of a script again. -/
def leaveMarkup : Parser Unit := discard next

/-- The string in quotes that `t` starts with, and how many characters it takes. A missing closing
quote is no fault here. -/
def attributeString (quote : CodePoint) :
    Nat → Text → Text → Nat → Except Breakdown (Text × Nat)
  | 0, _, acc, n => .ok (acc.reverse, n)
  | _, [], acc, n => .ok (acc.reverse, n)
  | fuel + 1, c :: r, acc, n =>
    if c == quote then .ok (acc.reverse, n + 1)
    else if c == '&' then do
      let (chars, k) ← Entity.read quote r
      attributeString quote fuel (r.drop k) (chars.reverse ++ acc) (n + 1 + k)
    else attributeString quote fuel r (c :: acc) (n + 1)

/-- Reads a token of markup at the cursor. -/
def lexMarkup (c : Cursor) (braces : List Brace) : Except Breakdown (Except Problem Lexeme) :=
  let token (kind : Token.Kind) (value : Text) (n : Nat) :
      Except Breakdown (Except Problem Lexeme) :=
    let after := c.skip n
    .ok (.ok ⟨Token.between kind value c after, after, braces, []⟩)
  match c.rest with
  | [] => .ok (lex c braces)
  | .char '.' :: .char '.' :: .char '.' :: _ => token .punctuator "..." 3
  | x :: r =>
    if ("<>/:={}." : Text).contains x then token .punctuator [x] 1
    else if x == '"' || x == '\'' then do
      let (value, n) ← attributeString x r.length r [] 1
      token .string value n
    else if x == '`' then token .template "" 0
    else if isIdentifierStart x && x != '\\' then
      let name := x :: r.takeWhile fun y => (isIdentifierPart y && y != '\\') || y == '-'
      token .tagName name name.length
    else .ok (lex c braces)

/-- Reads the token of markup at the cursor. -/
def readMarkup : Parser Token := do
  let s ← get
  match lexMarkup s.cursor s.braces with
  | .ok r => lexed r
  | .error b => breakDown b

/-- Where the next token of markup starts. -/
def markMarkup : Parser Marker := do
  skipTrivia
  return (← get).cursor.marker

/-- Where the cursor is. -/
def markCursor : Parser Marker := return (← get).cursor.marker

/-- Takes the next token of markup. -/
def nextMarkup : Parser Token := do
  skipTrivia
  modify fun s => { s with start := s.cursor }
  let t ← readMarkup
  modify fun s => { s with last := s.cursor.marker }
  return t

/-- The next token of markup, not taken. -/
def peekMarkup : Parser Token := do
  let c := (← get).cursor
  skipTrivia
  let t ← readMarkup
  modify fun s => { s with cursor := c }
  return t

/-- Takes the punctuator of markup, which must come next. -/
def expectMarkup (v : Text) : Parser Unit := do
  let t ← nextMarkup
  if !t.isPunct v then unexpected t

/-- Whether the punctuator of markup comes next. -/
def seesMarkup (v : Text) : Parser Bool := return (← peekMarkup).isPunct v

/-- Goes back to markup at the closing brace that was read ahead. -/
def reenterMarkup : Parser Unit := do
  enterMarkup
  expectMarkup "\x7d"

/-- A name. -/
def tagIdentifier : Parser Node := do
  let m ← markMarkup
  let t ← nextMarkup
  if t.kind != .tagName then unexpected t
  node m (.tagIdentifier t.value)

/-- The name of an element: plain, with a namespace, or a path. -/
def tagName : Parser Node := do
  let m ← markMarkup
  let name ← tagIdentifier
  if ← seesMarkup ":" then
    expectMarkup ":"
    let inner ← tagIdentifier
    node m .tagNamespaced [(.namespaceOf, name), (.nameOf, inner)]
  else
    loop name fun (object : Node) => do
      if ← seesMarkup "." then
        expectMarkup "."
        let property ← tagIdentifier
        return .again (← node m .tagMember [(.memberObject, object), (.memberProperty, property)])
      else return .done object

/-- The name of an attribute: plain or with a namespace. -/
def attributeName : Parser Node := do
  let m ← markMarkup
  let name ← tagIdentifier
  if ← seesMarkup ":" then
    expectMarkup ":"
    let inner ← tagIdentifier
    node m .tagNamespaced [(.namespaceOf, name), (.nameOf, inner)]
  else return name

/-- The value of an attribute: an expression in braces, an element, or a string. -/
def attributeValue (g : Rules) : Parser Node := production do
  if ← seesMarkup "\x7b" then
    let m ← markMarkup
    expectMarkup "\x7b"
    leaveMarkup
    if ← sees "\x7d" then noteHere .emptyAttribute
    let e ← production g.assignment
    reenterMarkup
    node m .tagContainer [(.expression, e)]
  else if ← seesMarkup "<" then g.markup
  else
    let m ← markMarkup
    let t ← nextMarkup
    if t.kind != .string then unexpected t
    node m (.literal (.string t.value))

/-- An attribute. -/
def namedAttribute (g : Rules) : Parser Node := production do
  let m ← markMarkup
  let name ← attributeName
  if ← seesMarkup "=" then
    expectMarkup "="
    let value ← attributeValue g
    node m .tagAttribute [(.nameOf, name), (.value, value)]
  else node m .tagAttribute [(.nameOf, name)]

/-- Attributes taken from an object. -/
def spreadAttribute (g : Rules) : Parser Node := production do
  let m ← markMarkup
  expectMarkup "\x7b"
  expectMarkup "..."
  leaveMarkup
  let e ← g.assignment
  reenterMarkup
  node m .tagSpreadAttribute [(.argument, e)]

/-- The attributes of an element. -/
def attributes (g : Rules) : Parser (List Node) := production <|
  collect (return !((← seesMarkup "/") || (← seesMarkup ">"))) do
    if ← seesMarkup "\x7b" then spreadAttribute g else namedAttribute g

/-- An opening tag from behind its bracket. -/
def openingTail (g : Rules) (m : Marker) : Parser Node := production do
  let name ← tagName
  let attrs ← attributes g
  let selfClosing ← seesMarkup "/"
  if selfClosing then expectMarkup "/"
  expectMarkup ">"
  node m (.tagOpening selfClosing) ((.nameOf, name) :: many .attribute attrs)

/-- A tag that opens or closes an element. -/
def boundaryTag (g : Rules) : Parser Node := do
  let m ← markMarkup
  expectMarkup "<"
  if ← seesMarkup "/" then
    expectMarkup "/"
    let name ← tagName
    expectMarkup ">"
    node m .tagClosing [(.nameOf, name)]
  else openingTail g m

/-- An expression in braces between tags, which may be missing. -/
def container (g : Rules) : Parser Node := production do
  let m ← markMarkup
  expectMarkup "\x7b"
  if ← seesMarkup "\x7d" then
    let m' ← markCursor
    skipTrivia
    modify fun s => { s with last := s.cursor.marker }
    let e ← node m' .tagEmpty
    expectMarkup "\x7d"
    node m .tagContainer [(.expression, e)]
  else
    leaveMarkup
    let e ← g.assignment
    reenterMarkup
    node m .tagContainer [(.expression, e)]

/-- The cursor at the brace or bracket that ends a stretch of text. -/
def afterTagText : Nat → Cursor → Cursor
  | 0, c => c
  | fuel + 1, c =>
    match c.rest with
    | [] => c
    | x :: r =>
      if x == '{' || x == '<' then c
      else if isLineBreak x then
        afterTagText fuel (c.newLine (afterBreak x r).1 (afterBreak x r).2)
      else afterTagText fuel (c.move r 1)

/-- Text and expressions up to the next tag. -/
def tagChildren (g : Rules) : Parser (List Node) := production <|
  loop #[] fun (acc : Array Node) => do
    let s ← get
    if s.cursor.rest.isEmpty then return .done acc.toList
    else
      let after := afterTagText s.cursor.rest.length s.cursor
      set { s with start := s.cursor, cursor := after, last := after.marker }
      let acc ← if s.cursor.index < after.index then
          pure (acc.push (← node s.cursor.marker .tagText))
        else pure acc
      if after.rest.head? == some '{' then return .again (acc.push (← container g))
      else return .done acc.toList

/-- The name of a tag as it is written. -/
def qualifiedName : Node → Text
  | .mk kind _ children =>
    match kind, children with
    | .tagIdentifier name, _ => name
    | .tagNamespaced, [(_, a), (_, b)] => qualifiedName a ++ ":" ++ qualifiedName b
    | .tagMember, [(_, a), (_, b)] => qualifiedName a ++ "." ++ qualifiedName b
    | _, _ => ""

/-- An element whose closing tag has not been read. -/
structure OpenElement where
  marker : Marker
  opening : Node
  children : Array Node

/-- The parts of an element. -/
def elementParts (opening : Node) (children : List Node) (closing : Option Node) :
    List (Role × Node) :=
  (.opening, opening) :: many .child children ++ optional .closing closing

/-- Reads up to the closing tag of the outermost open element: its children and that tag. A tag
that does not fit is noted. -/
def elementBody (g : Rules) (outermost : OpenElement) : Parser (List Node × Option Node) :=
  production <| loop (outermost, []) fun (acc : OpenElement × List OpenElement) => do
    let (el, stack) := acc
    if (← get).cursor.rest.isEmpty then return .done (el.children.toList, none)
    else
      let more ← tagChildren g
      let el := { el with children := el.children ++ more.toArray }
      let m ← markCursor
      let tag ← boundaryTag g
      match tag.kind with
      | .tagOpening true =>
        let child ← node m .tagElement (elementParts tag [] none)
        return .again ({ el with children := el.children.push child }, stack)
      | .tagOpening false => return .again (⟨m, tag, #[]⟩, el :: stack)
      | _ =>
        let name (n : Node) : Text := ((n.field? .nameOf).map qualifiedName).getD ""
        if name el.opening != name tag then noteHere (.mismatchedTag (name el.opening))
        match stack with
        | outer :: stack =>
          let child ← node el.marker .tagElement
            (elementParts el.opening el.children.toList (some tag))
          return .again ({ outer with children := outer.children.push child }, stack)
        | [] => return .done (el.children.toList, some tag)

/-- An element. -/
def element (g : Rules) : Parser Node := production do
  let m ← markMarkup
  let opening ← show Parser Node from do
    let m ← markMarkup
    expectMarkup "<"
    openingTail g m
  match opening.kind with
  | .tagOpening true => node m .tagElement (elementParts opening [] none)
  | _ =>
    let (children, closing) ← elementBody g ⟨m, opening, #[]⟩
    node m .tagElement (elementParts opening children closing)

/-- An element where an expression stands. -/
def markupExpression (g : Rules) : Parser Node := production do
  enterMarkup
  let e ← element g
  leaveMarkup
  return e

end Readiness.Script.Parser
