import Readiness.Script.Parser.Function

/-!
# Arrays, objects, templates and classes

The literals that hold expressions.
-/

namespace Readiness.Script.Parser

/-- The elements of something iterable, spread into a list. -/
def spread (g : Rules) : Parser Node := production do
  let m ← mark
  expect "..."
  let e ← inherit g.assignment
  node m .spreadElement [(.argument, e)]

/-- An array literal; holes leave no element. -/
def arrayLiteral (g : Rules) : Parser Node := production do
  let m ← mark
  expect "["
  let elements ← loop #[] fun (acc : Array Node) => do
    if ← sees "]" then return .done acc.toList
    else if ← sees "," then
      discard next
      return .again acc
    else if ← sees "..." then
      let e ← spread g
      if !(← sees "]") then
        notTarget
        expect ","
      return .again (acc.push e)
    else
      let e ← inherit g.assignment
      if !(← sees "]") then expect ","
      return .again (acc.push e)
  expect "]"
  node m .arrayExpression (many .element elements)

/-! ## Objects -/

/-- The value of a property whose key has been read, where neither an accessor nor a generator
stands: a value behind a colon, a method, or the key itself as a name. -/
def propertyValue (g : Rules) (m : Marker) (first : Token) (isAsync : Bool) : Parser Node := do
  if (← sees ":") && !isAsync then
    discard next
    inherit g.assignment
  else if ← sees "(" then
    if isAsync then asyncMethod g else plainMethod g
  else if first.kind == .identifier then
    let name ← node m (.identifier first.value)
    if ← sees "=" then
      let t ← ahead
      modifyContext fun c => { c with strayDefault := some t }
      discard next
      let right ← isolate g.assignment
      node m .assignmentPattern [(.left, name), (.right, right)]
    else return name
  else unexpected (← next)

/-- A property of an object literal, and whether the object has set its prototype after it. -/
def objectProperty (g : Rules) (hasProto : Bool) : Parser (Node × Bool) := production do
  let m ← mark
  let first ← ahead
  let (key, computed, isAsync) ← show Parser (Option Node × Bool × Bool) from do
    if first.kind == .identifier then
      discard next
      let computed ← sees "["
      let s ← get
      let plain := [":", "(", "*", ","].any fun p => s.ahead.isPunct p
      let isAsync := !s.lineBreak && first.value == "async" && !plain
      let key ← if isAsync then propertyKey g else node m (.identifier first.value)
      return (some key, computed, isAsync)
    else if first.isPunct "*" then
      discard next
      return (none, false, false)
    else
      let computed ← sees "["
      return (some (← propertyKey g), computed, false)
  let accessor := (← ahead).startsKey && !isAsync
  let finish (key : Node) (computed : Bool) (value : Node) : Parser Node :=
    node m (.property computed) [(.key, key), (.value, value)]
  if first.isName "get" && accessor then
    let computed ← sees "["
    let key ← propertyKey g
    modifyContext fun c => { c with allowYield := false }
    return (← finish key computed (← getter g), hasProto)
  else if first.isName "set" && accessor then
    let computed ← sees "["
    let key ← propertyKey g
    return (← finish key computed (← setter g), hasProto)
  else if first.isPunct "*" && accessor then
    let computed ← sees "["
    let key ← propertyKey g
    return (← finish key computed (← generatorMethod g), hasProto)
  else
    match key with
    | none => unexpected (← ahead)
    | some key =>
      let proto := (← sees ":") && !isAsync && !computed && isKey key "__proto__"
      if proto && hasProto then noteHere .duplicateProto
      let value ← propertyValue g m first isAsync
      return (← finish key computed value, hasProto || proto)

/-- An object literal. -/
def objectLiteral (g : Rules) : Parser Node := production do
  let m ← mark
  expect "\x7b"
  let properties ← loop (#[], false) fun (acc : Array Node × Bool) => do
    if ← sees "\x7d" then return .done acc.1.toList
    else
      let (p, hasProto) ← if ← sees "..." then do pure (← spread g, acc.2)
        else objectProperty g acc.2
      if !(← sees "\x7d") then expectComma
      return .again (acc.1.push p, hasProto)
  expect "\x7d"
  node m .objectExpression (many .property properties)

/-! ## Templates -/

/-- A piece of a template, which is the token ahead. -/
def templatePiece : Parser (Node × Bool) := do
  let t ← ahead
  if t.kind != .template then failHere .illegalToken
  let m ← mark
  discard next
  return (← node m (.templateElement t.cooked t.tail), t.tail)

/-- A template: pieces of text with expressions between them. -/
def templateLiteral (g : Rules) : Parser Node := production do
  if !(← ahead).head then breakDown .strayTemplatePiece
  let m ← mark
  let (first, tail) ← templatePiece
  if tail then node m .templateLiteral [(.quasi, first)]
  else
    let (quasis, expressions) ← loop (#[first], #[]) fun (acc : Array Node × Array Node) => do
      let e ← g.expression
      let (q, tail) ← templatePiece
      let acc := (acc.1.push q, acc.2.push e)
      return if tail then .done acc else .again acc
    node m .templateLiteral (many .quasi quasis.toList ++ many .expression expressions.toList)

/-! ## Classes -/

/-- What has been read of a class member before its parameters. -/
structure MemberHead where
  token : Token
  key : Option Node := none
  computed : Bool := false
  isStatic : Bool := false
  isAsync : Bool := false

/-- The modifiers and key of a class member. -/
def memberHead (g : Rules) : Parser MemberHead := do
  let t ← ahead
  if t.isPunct "*" then
    discard next
    return { token := t }
  else
    let computed ← sees "["
    let key ← propertyKey g
    let h : MemberHead := { token := t, key := some key, computed }
    let a ← ahead
    let h ← show Parser MemberHead from do
      if key.identifier? == some "static" && (a.startsKey || a.isPunct "*") then
        let computed := a.isPunct "["
        if a.isPunct "*" then
          discard next
          return { h with token := a, isStatic := true, computed }
        else
          let key ← propertyKey g
          return { h with token := a, isStatic := true, computed, key := some key }
      else return h
    let s ← get
    let v := s.ahead.value
    if h.token.isName "async" && !s.lineBreak && v != ":" && v != "(" && v != "*" then
      let t := s.ahead
      let key ← propertyKey g
      if t.isName "constructor" then noteToken t .constructorIsAsync
      return { h with token := t, key := some key, isAsync := true }
    else return h

/-- The value of a class member and its key: an accessor, a generator or a method. The flag tells
whether it is an accessor. -/
def memberValue (g : Rules) (h : MemberHead) : Parser (Node × Node × Bool × Bool) := do
  let keyed := (← ahead).startsKey
  if h.token.isName "get" && keyed then
    let computed ← sees "["
    let key ← propertyKey g
    modifyContext fun c => { c with allowYield := false }
    return (key, ← getter g, computed, true)
  else if h.token.isName "set" && keyed then
    let computed ← sees "["
    let key ← propertyKey g
    return (key, ← setter g, computed, true)
  else if h.token.isPunct "*" && keyed then
    let computed ← sees "["
    let key ← propertyKey g
    return (key, ← generatorMethod g, computed, false)
  else
    match h.key, ← sees "(" with
    | some key, true =>
      return (key, ← if h.isAsync then asyncMethod g else plainMethod g, h.computed, false)
    | _, _ => unexpected (← ahead)

/-- A class member, and whether the class has its constructor after it. -/
def classMember (g : Rules) (hasConstructor : Bool) : Parser (Node × Bool) := production do
  let m ← mark
  let h ← memberHead g
  let (key, value, computed, accessor) ← memberValue g h
  let fault (k : Complaint) : Parser Unit := do fail (← tokenProblem h.token k)
  if !computed && h.isStatic && isKey key "prototype" then fault .staticPrototype
  let isConstructor := !computed && !h.isStatic && isKey key "constructor"
  if isConstructor then
    let special := match value.kind with
      | .functionExpression _ generator => accessor || generator
      | _ => accessor
    if special then fault .constructorSpecial
    if hasConstructor then fault .duplicateConstructor
  let n ← node m (.methodDefinition computed) [(.key, key), (.value, value)]
  return (n, hasConstructor || isConstructor)

/-- The members of a class in braces. -/
def classMembers (g : Rules) : Parser (List Node) := production do
  expect "\x7b"
  let members ← loop (#[], false) fun (acc : Array Node × Bool) => do
    if ← sees "\x7d" then return .done acc.1.toList
    else if ← sees ";" then
      discard next
      return .again acc
    else
      let (n, hasConstructor) ← classMember g acc.2
      return .again (acc.1.push n, hasConstructor)
  expect "\x7d"
  return members

/-- The body of a class. -/
def classBody (g : Rules) : Parser Node := production do
  let m ← mark
  let members ← classMembers g
  node m .classBody (many .body members)

/-- A class from its keyword on. Its code is strict. -/
def classTail (g : Rules) (heritage : Parser Node) (named : Parser Bool) (kind : Kind) :
    Parser Node := production do
  let m ← mark
  let before := (← context).strict
  modifyContext fun c => { c with strict := true }
  expectWord "class"
  let id ← if ← named then do pure (some (← bindingName)) else pure none
  let parent ← show Parser (Option Node) from do
    if ← seesWord "extends" then
      discard next
      return some (← isolate heritage)
    else return none
  let body ← classBody g
  modifyContext fun c => { c with strict := before }
  node m kind (optional .id id ++ optional .superClass parent ++ [(.body, body)])

/-- A class declaration; the name may be left out of a default export. -/
def classDeclaration (g : Rules) (heritage : Parser Node) (nameless : Bool) : Parser Node :=
  classTail g heritage (return !nameless || (← ahead).kind == .identifier) .classDeclaration

/-- A class expression. -/
def classExpression (g : Rules) (heritage : Parser Node) : Parser Node :=
  classTail g heritage (return (← ahead).kind == .identifier) .classExpression

end Readiness.Script.Parser
