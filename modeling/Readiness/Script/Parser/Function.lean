import Readiness.Script.Parser.Pattern

/-!
# Functions

Parameters, bodies and the directives that open a body. Whether parameter names were allowed may be
known only after the body: a directive in it can make the function strict.
-/

namespace Readiness.Script

/-- What a complaint about a parameter points at: its token, or, once the token is gone, the place
the parser has reached. -/
inductive Culprit where
  | token (t : Token)
  | reached

/-- Parameters, with what is known about their names. -/
structure Params where
  params : Array Node := #[]
  /-- Whether all parameters are plain names. -/
  simple : Bool := true
  names : List Text := []
  /-- A name that is not allowed in strict code. -/
  stricted : Option Culprit := none
  /-- A name that would not be allowed if the code turned out strict. -/
  restricted : Option Culprit := none
  complaint : Option Complaint := none

/-- The parameters after one more name. -/
def Params.addName (o : Params) (strict : Bool) (culprit : Culprit) (name : Text) : Params :=
  let known := o.names.contains name
  let o' :=
    if strict then
      let o := if Token.isRestricted name then
        { o with stricted := some culprit, complaint := some .strictParameterName } else o
      if known then
        { o with stricted := some culprit, complaint := some .strictDuplicateParameter } else o
    else if o.restricted.isNone then
      if Token.isRestricted name then
        { o with restricted := some culprit, complaint := some .strictParameterName }
      else if Token.isStrictReserved name then
        { o with restricted := some culprit, complaint := some .strictReservedWord }
      else if known then
        { o with stricted := some culprit, complaint := some .strictDuplicateParameter }
      else o
    else o
  { o' with names := name :: o.names }

/-- Whether a node is a plain name. -/
def Node.isIdentifier (n : Node) : Bool := n.identifier?.isSome

namespace Parser

/-- The problem of a culprit. -/
def culpritProblem (c : Culprit) (k : Complaint) : Parser Problem :=
  match c with
  | .token t => tokenProblem t k
  | .reached => lastProblem k

/-- Ends the parse at the culprit, if there is one and the code is strict. -/
def failCulprit (c : Option Culprit) (k : Option Complaint) : Parser Unit := do
  if (← context).strict then
    match c with
    | some c => fail (← culpritProblem c (k.getD .illegalToken))
    | none => return

/-- Notes the culprit, if there is one and the code is strict. -/
def noteCulprit (c : Option Culprit) (k : Option Complaint) : Parser Unit := do
  if (← context).strict then
    match c with
    | some c => note (← culpritProblem c (k.getD .illegalToken))
    | none => return

/-- The rest parameter, which must come last. -/
def restParameter (g : Rules) : Parser (Node × List Token) := production do
  let m ← mark
  expect "..."
  let (p, names) ← g.pattern .other
  if ← sees "=" then failHere (.unexpectedToken "=")
  if !(← sees ")") then failHere .parameterAfterRest
  return (← node m .restElement [(.argument, p)], names)

/-- The parameters of a function in parentheses. -/
def parameters (g : Rules) (restricted : Option Culprit := none) : Parser Params := production do
  expect "("
  let start : Params := { restricted }
  let o ← loop start fun (o : Params) => do
    if (← sees ")") || (← seesEnd) then return .done o
    else
      let (p, names) ← production do
        if ← sees "..." then restParameter g else patternWithDefault g .other
      let strict := (← context).strict
      let o := names.foldl (fun o t => o.addName strict (.token t) t.value) o
      let o := { o with simple := o.simple && p.isIdentifier, params := o.params.push p }
      if ← sees ")" then return .done o
      else
        expect ","
        return .again o
  expect ")"
  return o

/-- A statement that may be a directive. -/
def directive (g : Rules) : Parser (Node × Option Text) := production do
  let s ← get
  let raw := s.start.rest.take (s.ahead.stop - s.ahead.start)
  let m ← mark
  let e ← g.expression
  let words : Option Text :=
    match e.kind with
    | .literal _ =>
      let inner := (raw.drop 1).dropLast
      if inner.isEmpty then none else some inner
    | _ => none
  endStatement
  return (← node m (.expressionStatement words) [(.expression, e)], words)

/-- The directives at the start of a script or body. -/
def directives (g : Rules) : Parser (List Node) := production do
  let (_, body) ← loop (none, #[]) fun (acc : Option Token × Array Node) => do
    let (octal, body) := acc
    let t ← ahead
    if t.kind != .string then return .done acc
    else
      let (n, words) ← directive g
      let body := body.push n
      match words.map Text.word with
      | none => return .done (octal, body)
      | some "use strict" =>
        modifyContext fun c => { c with strict := true }
        match octal with
        | some t => noteToken t .strictOctal
        | none => pure ()
        if !(← context).allowStrictDirective then noteToken t .illegalStrictDirective
        return .again (octal, body)
      | some _ => return .again (if octal.isNone && t.octal then some t else octal, body)
  return body.toList

/-- The body of a function in braces. -/
def functionBody (g : Rules) : Parser Node := production do
  let m ← mark
  expect "\x7b"
  let opening ← directives g
  let before ← context
  modifyContext fun c => { c with
    labels := [], inIteration := false, inSwitch := false, inFunctionBody := true }
  let rest ← collect (return !((← seesEnd) || (← sees "\x7d"))) g.listItem
  expect "\x7d"
  modifyContext fun c => { c with
    labels := before.labels, inIteration := before.inIteration, inSwitch := before.inSwitch,
    inFunctionBody := before.inFunctionBody }
  node m .block (many .body (opening ++ rest))

/-- Whether a function follows `async` on the same line. -/
def seesAsyncFunction : Parser Bool := do
  if ← seesName "async" then
    let line := (← get).cursor.line
    let t ← peek
    return line == t.line && t.isWord "function"
  else return false

/-- The culprit that a function's name is, if it may not be one, and why. -/
def nameCulprit (t : Token) : Parser (Option Culprit × Option Complaint) := do
  if (← context).strict then
    if Token.isRestricted t.value then noteToken t .strictFunctionName
    return (none, none)
  else if Token.isRestricted t.value then return (some (.token t), some .strictFunctionName)
  else if Token.isStrictReserved t.value then return (some (.token t), some .strictReservedWord)
  else return (none, none)

/-- Parameters and body of a function, with the names judged once the body is known. -/
def functionTail (g : Rules) (restricted : Option Culprit) (complaint : Option Complaint) :
    Parser (List Node × Node) := do
  let o ← parameters g restricted
  let complaint := o.complaint.or complaint
  let before ← context
  modifyContext fun c => { c with allowStrictDirective := o.simple }
  let body ← functionBody g
  failCulprit o.restricted complaint
  noteCulprit o.stricted complaint
  modifyContext fun c => { c with
    strict := before.strict, allowStrictDirective := before.allowStrictDirective }
  return (o.params.toList, body)

/-- The children of a function. -/
def functionParts (id : Option Node) (params : List Node) (body : Node) : List (Role × Node) :=
  optional .id id ++ many .param params ++ [(.body, body)]

/-- The `async`, `function` and `*` that open a function: whether it is asynchronous, and whether it
is a generator. -/
def functionHead : Parser (Bool × Bool) := do
  let isAsync ← seesName "async"
  if isAsync then discard next
  expectWord "function"
  let generator ← if isAsync then pure false else sees "*"
  if generator then discard next
  return (isAsync, generator)

/-- A function declaration; the name may be left out of a default export. -/
def functionDeclaration (g : Rules) (nameless : Bool) : Parser Node := production do
  let m ← mark
  let (isAsync, generator) ← functionHead
  let (id, restricted, complaint) ←
    show Parser (Option Node × Option Culprit × Option Complaint) from do
      if nameless && (← sees "(") then return (none, none, none)
      else
        let t ← ahead
        let id ← bindingName
        let (r, k) ← nameCulprit t
        return (some id, r, k)
  let before ← context
  modifyContext fun c => { c with allowAwait := isAsync, allowYield := !generator }
  let (params, body) ← functionTail g restricted complaint
  modifyContext fun c => { c with allowAwait := before.allowAwait, allowYield := before.allowYield }
  node m (.functionDeclaration isAsync generator) (functionParts id params body)

/-- A function expression. -/
def functionExpression (g : Rules) : Parser Node := production do
  let m ← mark
  let (isAsync, generator) ← functionHead
  let before ← context
  modifyContext fun c => { c with allowAwait := isAsync, allowYield := !generator }
  let (id, restricted, complaint) ←
    show Parser (Option Node × Option Culprit × Option Complaint) from do
      if ← sees "(" then return (none, none, none)
      else
        let t ← ahead
        let id ← if !(← context).strict && !generator && t.isWord "yield" then anyName else bindingName
        let (r, k) ← nameCulprit t
        return (some id, r, k)
  let (params, body) ← functionTail g restricted complaint
  modifyContext fun c => { c with allowAwait := before.allowAwait, allowYield := before.allowYield }
  node m (.functionExpression isAsync generator) (functionParts id params body)

/-! ## Methods -/

/-- The body of a method. -/
def methodBody (g : Rules) (o : Params) : Parser Node := production do
  notTarget
  let before ← context
  modifyContext fun c => { c with allowStrictDirective := o.simple }
  let body ← isolate (functionBody g)
  noteCulprit o.restricted o.complaint
  noteCulprit o.stricted o.complaint
  modifyContext fun c => { c with
    strict := before.strict, allowStrictDirective := before.allowStrictDirective }
  return body

/-- A method from its parameters on. `inParams` and `inBody` tell whether `yield` is a name there,
and `check` looks at the parameters before the body is read. -/
def method (g : Rules) (isAsync generator : Bool) (inParams inBody : Bool)
    (check : List Node → Parser Unit) : Parser Node := production do
  let m ← mark
  let before ← context
  modifyContext fun c => { c with
    allowYield := inParams, allowAwait := if isAsync then true else c.allowAwait }
  let o ← parameters g
  check o.params.toList
  modifyContext fun c => { c with allowYield := inBody }
  let body ← methodBody g o
  modifyContext fun c => { c with allowYield := before.allowYield, allowAwait := before.allowAwait }
  node m (.functionExpression isAsync generator) (functionParts none o.params.toList body)

/-- An ordinary method. -/
def plainMethod (g : Rules) : Parser Node := method g false false true true fun _ => pure ()

/-- An asynchronous method. -/
def asyncMethod (g : Rules) : Parser Node := method g true false false false fun _ => pure ()

/-- A generator method. -/
def generatorMethod (g : Rules) : Parser Node := method g false true true false fun _ => pure ()

/-- A getter, which has no parameters. -/
def getter (g : Rules) : Parser Node :=
  method g false false true true fun params => do
    if !params.isEmpty then noteHere .badGetterArity

/-- A setter, which has one parameter. -/
def setter (g : Rules) : Parser Node :=
  method g false false true true fun params => do
    match params with
    | [p] =>
      match p.kind with
      | .restElement => noteHere .badSetterRest
      | _ => return
    | _ => noteHere .badSetterArity

end Parser

end Readiness.Script
