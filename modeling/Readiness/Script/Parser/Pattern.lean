import Readiness.Script.Parser.State

/-!
# Names, keys and patterns

The productions that bind names. Each production takes the `Rules` that parse one level deeper, so
that a production is an ordinary function and only the tower of rules is recursive.
-/

namespace Readiness.Script

/-- What a pattern is parsed for. -/
inductive Binding where
  /-- A `var` declaration. -/
  | variable
  /-- A `let` or `const` declaration. -/
  | lexical
  /-- Parameters and catch clauses. -/
  | other
deriving DecidableEq

/-- The productions that call each other at a deeper level of nesting. -/
structure Rules where
  assignment : Parser Node
  expression : Parser Node
  exponentiation : Parser Node
  unary : Parser Node
  newCallee : Parser Node
  leftHandSide : Parser Node
  statement : Parser Node
  listItem : Parser Node
  /-- A pattern, with the tokens of the names it binds. -/
  pattern : Binding → Parser (Node × List Token)
  markup : Parser Node

namespace Parser

/-- A name of any kind, as after a dot. -/
def anyName : Parser Node := do
  let m ← mark
  let t ← next
  if !t.isAnyName then unexpected t
  node m (.identifier t.value)

/-- An identifier that is bound or labels a statement. -/
def bindingName (b : Binding := .other) : Parser Node := do
  let m ← mark
  let t ← next
  let c ← context
  if t.isWord "yield" then
    if c.strict then noteToken t .strictReservedWord
    else if !c.allowYield then unexpected t
  else if t.kind != .identifier then
    if c.strict && t.kind == .keyword && Token.isStrictReserved t.value then
      noteToken t .strictReservedWord
    else if c.strict || t.value != "let" || b != .variable then unexpected t
  else if (c.isModule || c.allowAwait) && t.value == "await" then noteUnexpected t
  node m (.identifier t.value)

/-- The literal that a string or number token is. -/
def literalOf (t : Token) : Literal :=
  if t.kind == .numeric then .number t.number else .string t.value

/-- The key of a property: a literal, a name, or an expression in brackets. -/
def propertyKey (g : Rules) : Parser Node := production do
  let m ← mark
  let t ← next
  match t.kind with
  | .string | .numeric =>
    if (← context).strict && t.octal then noteToken t .strictOctal
    node m (.literal (literalOf t))
  | .identifier | .boolean | .null | .keyword => node m (.identifier t.value)
  | _ =>
    if t.isPunct "[" then
      let key ← isolate g.assignment
      expect "]"
      return key
    else unexpected t

/-- Whether a key is the given name or string. -/
def isKey (key : Node) (name : Text) : Bool :=
  match key.kind with
  | .identifier n => n == name
  | .literal (.string v) => v == name
  | _ => false

/-- A pattern with an optional default value. -/
def patternWithDefault (g : Rules) (b : Binding) : Parser (Node × List Token) := production do
  let first ← ahead
  let (p, names) ← g.pattern b
  if ← sees "=" then
    discard next
    let before := (← context).allowYield
    modifyContext fun c => { c with allowYield := true }
    let right ← isolate g.assignment
    modifyContext fun c => { c with allowYield := before }
    return (← node (markOf first) .assignmentPattern [(.left, p), (.right, right)], names)
  else return (p, names)

/-- The elements of an array pattern; holes leave no element. -/
def arrayPattern (g : Rules) (b : Binding) : Parser (Node × List Token) := production do
  let m ← mark
  expect "["
  let (elements, names) ← loop (#[], #[]) fun (acc : Array Node × Array Token) => do
    if ← sees "]" then return .done acc
    else if ← sees "," then
      discard next
      return .again acc
    else if ← sees "..." then
      let m ← mark
      expect "..."
      let (p, names) ← g.pattern b
      let rest ← node m .restElement [(.argument, p)]
      return .done (acc.1.push rest, acc.2 ++ names.toArray)
    else
      let (p, names) ← patternWithDefault g b
      if !(← sees "]") then expect ","
      return .again (acc.1.push p, acc.2 ++ names.toArray)
  expect "]"
  return (← node m .arrayPattern (many .element elements.toList), names.toList)

/-- A property of an object pattern. -/
def patternProperty (g : Rules) (b : Binding) : Parser (Node × List Token) := production do
  let m ← mark
  let t ← ahead
  if t.kind == .identifier then
    let key ← bindingName
    let short ← node m (.identifier t.value)
    let (value, names) ← show Parser (Node × List Token) from do
      if ← sees "=" then
        discard next
        let right ← g.assignment
        return (← node (markOf t) .assignmentPattern [(.left, short), (.right, right)], [t])
      else if ← sees ":" then
        expect ":"
        patternWithDefault g b
      else return (short, [t])
    return (← node m (.property false) [(.key, key), (.value, value)], names)
  else
    let computed ← sees "["
    let key ← propertyKey g
    expect ":"
    let (value, names) ← patternWithDefault g b
    return (← node m (.property computed) [(.key, key), (.value, value)], names)

/-- The rest of an object pattern, which must come last. -/
def restProperty (g : Rules) (b : Binding) : Parser (Node × List Token) := production do
  let m ← mark
  expect "..."
  let (p, names) ← g.pattern b
  if ← sees "=" then failHere (.unexpectedToken "=")
  if !(← sees "\x7d") then failHere .unexpectedHere
  return (← node m .restElement [(.argument, p)], names)

/-- An object pattern. -/
def objectPattern (g : Rules) (b : Binding) : Parser (Node × List Token) := production do
  let m ← mark
  expect "\x7b"
  let (properties, names) ← loop (#[], #[]) fun (acc : Array Node × Array Token) => do
    if ← sees "\x7d" then return .done acc
    else
      let (p, names) ← if ← sees "..." then restProperty g b else patternProperty g b
      if !(← sees "\x7d") then expect ","
      return .again (acc.1.push p, acc.2 ++ names.toArray)
  expect "\x7d"
  return (← node m .objectPattern (many .property properties.toList), names.toList)

/-- A pattern: an array, an object or a name. -/
def pattern (g : Rules) (b : Binding) : Parser (Node × List Token) := production do
  if ← sees "[" then arrayPattern g b
  else if ← sees "\x7b" then objectPattern g b
  else
    let t ← ahead
    if t.isWord "let" && b == .lexical then noteToken t .letInLexicalBinding
    return (← bindingName b, [t])

end Parser

mutual

/-- An expression that turned out to be a pattern. -/
def Node.asPattern : Node → Node
  | .mk kind span children =>
    match kind with
    | .spreadElement => .mk .restElement span (asPatterns children)
    | .arrayExpression => .mk .arrayPattern span (asPatterns children)
    | .objectExpression => .mk .objectPattern span (asProperties children)
    | .assignment _ => .mk .assignmentPattern span (asTargets children)
    | _ => .mk kind span children

/-- All children as patterns. -/
def asPatterns : List (Role × Node) → List (Role × Node)
  | [] => []
  | (r, n) :: more => (r, n.asPattern) :: asPatterns more

/-- The properties of an object as those of a pattern: their values become patterns. -/
def asProperties : List (Role × Node) → List (Role × Node)
  | [] => []
  | (r, .mk kind span children) :: more =>
    match kind with
    | .property _ => (r, .mk kind span (asValues children)) :: asProperties more
    | .spreadElement => (r, .mk .restElement span (asPatterns children)) :: asProperties more
    | _ => (r, .mk kind span children) :: asProperties more

/-- The children of a property with the value as a pattern. -/
def asValues : List (Role × Node) → List (Role × Node)
  | [] => []
  | (r, n) :: more => (r, if r = .value then n.asPattern else n) :: asValues more

/-- The children of an assignment with the left side as a pattern. -/
def asTargets : List (Role × Node) → List (Role × Node)
  | [] => []
  | (r, n) :: more => (r, if r = .left then n.asPattern else n) :: asTargets more

end

end Readiness.Script
