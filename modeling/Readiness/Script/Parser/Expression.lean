import Readiness.Script.Parser.Literal
import Readiness.Script.Parser.Markup

/-!
# Expressions

From the primary expressions up to the comma. What stands in parentheses may turn out to be the
parameters of an arrow function; it is read as an expression and reinterpreted at the arrow.

The start of a node that begins with another node is taken from the first token, so it includes an
opening parenthesis there.
-/

namespace Readiness.Script.Parser

/-! ## Parentheses and arguments -/

/-- Parameters in wait of their arrow. -/
def awaiting (isAsync : Bool) (params : List Node) : Node :=
  bare (.arrowParameters isAsync) (many .param params)

/-- The rest of a list in parentheses whose first item has been read: either parameters, when a
trailing comma or a rest parameter shows them to be, or the items of a sequence. -/
def groupItems (g : Rules) (first : Node) : Parser (Sum Node (List Node)) :=
  loop #[first] fun (acc : Array Node) => do
    if (← seesEnd) || !(← sees ",") then return .done (.inr acc.toList)
    else
      discard next
      if ← sees ")" then
        discard next
        return .done (.inl (awaiting false (acc.toList.map Node.asPattern)))
      else if ← sees "..." then
        if !(← context).isBinding then unexpected (← ahead)
        let (rest, _) ← restParameter g
        expect ")"
        if !(← sees "=>") then expect "=>"
        modifyContext fun c => { c with isBinding := false }
        return .done (.inl (awaiting false ((acc.toList ++ [rest]).map Node.asPattern)))
      else return .again (acc.push (← inherit g.assignment))

/-- Ends what stands in parentheses: at an arrow it becomes parameters. -/
def groupEnd (e : Node) : Parser Node := do
  expect ")"
  let e ← show Parser Node from do
    if ← sees "=>" then
      if e.identifier? == some "yield" then return awaiting false [e]
      else
        if !(← context).isBinding then unexpected (← ahead)
        match e.kind with
        | .sequence => return awaiting false ((e.fields .expression).map Node.asPattern)
        | _ => return awaiting false [e.asPattern]
    else return e
  modifyContext fun c => { c with isBinding := false }
  return e

/-- What stands in parentheses. -/
def group (g : Rules) : Parser Node := production do
  expect "("
  if ← sees ")" then
    discard next
    if !(← sees "=>") then expect "=>"
    return awaiting false []
  else
    let first ← ahead
    if ← sees "..." then
      let (rest, _) ← restParameter g
      expect ")"
      if !(← sees "=>") then expect "=>"
      return awaiting false [rest]
    else
      modifyContext fun c => { c with isBinding := true }
      let e ← inherit g.assignment
      if ← sees "," then
        modifyContext fun c => { c with isTarget := false }
        match ← groupItems g e with
        | .inl params => return params
        | .inr items => groupEnd (← node (markOf first) .sequence (many .expression items))
      else groupEnd e

/-- The arguments of a call in parentheses. -/
def arguments (g : Rules) (item : Parser Node) : Parser (List Node) := production do
  expect "("
  let args ← loop #[] fun (acc : Array Node) => do
    if ← sees ")" then return .done acc.toList
    else
      let e ← if ← sees "..." then spread g else isolate item
      let acc := acc.push e
      if ← sees ")" then return .done acc.toList
      else
        expectComma
        return .again acc
  expect ")"
  return args

/-- An argument of what may be an asynchronous arrow function. -/
def asyncArgument (g : Rules) : Parser Node := production do
  let e ← g.assignment
  modifyContext fun c => { c with strayDefault := none }
  return e

/-! ## Primary expressions -/

/-- Whether an import call comes next. -/
def seesImportCall : Parser Bool := do
  if ← seesWord "import" then return (← peek).isPunct "(" else return false

/-- An expression that starts with a keyword. -/
def keywordExpression (g : Rules) (m : Marker) (t : Token) : Parser Node := do
  let c ← context
  if !c.strict && c.allowYield && t.value == "yield" then anyName
  else if !c.strict && t.value == "let" then
    discard next
    node m (.identifier t.value)
  else
    notTarget
    if t.value == "function" then functionExpression g
    else if t.value == "this" then
      discard next
      node m .this
    else if t.value == "class" then classExpression g g.leftHandSide
    else if ← seesImportCall then
      let m ← mark
      expectWord "import"
      node m .importKeyword
    else unexpected (← next)

/-- An expression that starts with a punctuator. -/
def punctuatedExpression (g : Rules) (m : Marker) (t : Token) : Parser Node := do
  match t.value.word with
  | "(" =>
    modifyContext fun c => { c with isBinding := false }
    inherit (group g)
  | "[" => inherit (arrayLiteral g)
  | "\x7b" => inherit (objectLiteral g)
  | "/" | "/=" =>
    notTarget
    let t ← nextRegExp
    node m (.literal (.regExp t.shown))
  | _ => unexpected (← next)

/-- A primary expression that is no element. -/
def plainPrimary (g : Rules) : Parser Node := production do
  let m ← mark
  let t ← ahead
  match t.kind with
  | .identifier =>
    let c ← context
    if (c.isModule || c.allowAwait) && t.value == "await" then noteUnexpected t
    if ← seesAsyncFunction then functionExpression g
    else
      discard next
      node m (.identifier t.value)
  | .numeric | .string =>
    if (← context).strict && t.octal then noteToken t .strictOctal
    notTarget
    discard next
    node m (.literal (literalOf t))
  | .boolean =>
    notTarget
    discard next
    node m (.literal (.boolean (t.value == "true")))
  | .null =>
    notTarget
    discard next
    node m (.literal .null)
  | .template => templateLiteral g
  | .punctuator => punctuatedExpression g m t
  | .keyword => keywordExpression g m t
  | _ => unexpected (← next)

/-- A primary expression. -/
def primary (g : Rules) : Parser Node := production do
  if ← sees "<" then markupExpression g else plainPrimary g

/-! ## Members and calls -/

/-- A construction: `new` with its callee and arguments, or `new.target`. -/
def construction (g : Rules) : Parser Node := production do
  let m ← mark
  let word ← anyName
  if ← sees "." then
    discard next
    let t ← ahead
    if t.isName "target" && (← context).inFunctionBody then
      let property ← anyName
      node m .metaProperty [(.metaName, word), (.memberProperty, property)]
    else unexpected t
  else if ← seesWord "import" then unexpected (← ahead)
  else
    let callee ← isolate g.newCallee
    let args ← if ← sees "(" then arguments g g.assignment else pure []
    notTarget
    node m .construct ((.callee, callee) :: many .argument args)

/-- A member behind a dot or in brackets, or a template behind its tag, if one comes next. -/
def access? (g : Rules) (m : Marker) (e : Node) : Parser (Option Node) := do
  let target : Parser Unit := modifyContext fun c => { c with isBinding := false, isTarget := true }
  let t ← ahead
  if t.isPunct "." then
    target
    expect "."
    let property ← anyName
    return some (← node m (.member false) [(.memberObject, e), (.memberProperty, property)])
  else if t.isPunct "[" then
    target
    expect "["
    let property ← isolate g.expression
    expect "]"
    return some (← node m (.member true) [(.memberObject, e), (.memberProperty, property)])
  else if t.kind == .template && t.head then
    let quasi ← templateLiteral g
    return some (← node m .taggedTemplate [(.tag, e), (.quasi, quasi)])
  else return none

/-- The callee of a construction: members, but no calls. -/
def newCallee (g : Rules) : Parser Node := production do
  let m := markOf (← ahead)
  let e ← show Parser Node from do
    if (← seesWord "super") && (← context).inFunctionBody then
      let m ← mark
      expectWord "super"
      if !((← sees "[") || (← sees ".")) then unexpected (← ahead)
      node m .super
    else inherit (if ← seesWord "new" then construction g else primary g)
  loop e fun (e : Node) => do
    match ← access? g m e with
    | some e => return .again e
    | none => return .done e

/-- Members and calls. -/
def leftHandSide (g : Rules) : Parser Node := production do
  let first ← ahead
  let maybeAsync := first.isName "async"
  let before := (← context).allowIn
  modifyContext fun c => { c with allowIn := true }
  let e ← show Parser Node from do
    if (← seesWord "super") && (← context).inFunctionBody then
      let m ← mark
      discard next
      let e ← node m .super
      if !((← sees "(") || (← sees ".") || (← sees "[")) then unexpected (← ahead)
      return e
    else inherit (if ← seesWord "new" then construction g else primary g)
  let e ← loop e fun (e : Node) => do
    if ← sees "(" then
      let asyncArrow := maybeAsync && first.line == (← ahead).line
      notTarget
      let args ← arguments g (if asyncArrow then asyncArgument g else g.assignment)
      match e.kind with
      | .importKeyword => if args.length != 1 then noteHere .unexpectedHere
      | _ => pure ()
      let call ← node (markOf first) .call ((.callee, e) :: many .argument args)
      if asyncArrow && (← sees "=>") then
        return .again (awaiting true (args.map Node.asPattern))
      else return .again call
    else
      match ← access? g (markOf first) e with
      | some e => return .again e
      | none => return .done e
  modifyContext fun c => { c with allowIn := before }
  return e

/-! ## Operators -/

/-- Notes what is wrong with the operand of an increment or decrement. -/
def checkUpdate (e : Node) (k : Complaint) : Parser Unit := do
  let c ← context
  if c.strict && (e.identifier?.map Token.isRestricted).getD false then noteHere k
  if !c.isTarget then noteHere .badAssignmentTarget

/-- Increments and decrements, before and behind their operand. -/
def update (g : Rules) : Parser Node := production do
  let first ← ahead
  if first.isPunct "++" || first.isPunct "--" then
    discard next
    let e ← inherit g.unary
    checkUpdate e .strictPrefix
    let e ← node (markOf first) (.update first.value) [(.argument, e)]
    notTarget
    return e
  else
    let e ← inherit (leftHandSide g)
    let s ← get
    if !s.lineBreak && (s.ahead.isPunct "++" || s.ahead.isPunct "--") then
      checkUpdate e .strictPostfix
      notTarget
      let t ← next
      node (markOf first) (.update t.value) [(.argument, e)]
    else return e

/-- Operators before one operand. -/
def unary (g : Rules) : Parser Node := production do
  let t ← ahead
  let operator := (t.kind == .punctuator && ["+", "-", "~", "!"].contains t.value.word) ||
    (t.kind == .keyword && ["delete", "void", "typeof"].contains t.value.word)
  if operator then
    let m := markOf t
    discard next
    let e ← inherit g.unary
    let n ← node m (.unary t.value) [(.argument, e)]
    if (← context).strict && t.value == "delete" && e.isIdentifier then noteHere .strictDelete
    notTarget
    return n
  else if (← context).allowAwait && t.isName "await" then
    production do
      let m ← mark
      discard next
      let e ← g.unary
      node m .await [(.argument, e)]
  else update g

/-- Powers, which group to the right. -/
def exponentiation (g : Rules) : Parser Node := production do
  let first ← ahead
  let e ← inherit (unary g)
  let isUnary := match e.kind with
    | .unary _ => true
    | _ => false
  if !isUnary && (← sees "**") then
    discard next
    notTarget
    let right ← isolate g.exponentiation
    node (markOf first) (.binary "**") [(.left, e), (.right, right)]
  else return e

/-- How tightly an operator binds; zero for what is no operator here. -/
def precedence (t : Token) (allowIn : Bool) : Nat :=
  match t.kind with
  | .punctuator =>
    match t.value.word with
    | "||" => 1
    | "&&" => 2
    | "|" => 3
    | "^" => 4
    | "&" => 5
    | "==" | "!=" | "===" | "!==" => 6
    | "<" | ">" | "<=" | ">=" => 7
    | "<<" | ">>" | ">>>" => 8
    | "+" | "-" => 9
    | "*" | "/" | "%" => 11
    | _ => 0
  | .keyword => if t.value == "instanceof" || (allowIn && t.value == "in") then 7 else 0
  | _ => 0

/-- The kind of an operation on two operands. -/
def operationKind (operator : Text) : Kind :=
  if operator == "||" || operator == "&&" then .logical operator else .binary operator

/-- An operator that waits for its right operand to be complete, with its left operand and the token
that the left operand starts with. -/
structure Pending where
  left : Node
  first : Token
  operator : Text
  strength : Nat

/-- Operands read so far: the operators in wait, innermost first, and the last operand with its
first token. -/
structure Operands where
  pending : List Pending
  right : Node
  first : Token

/-- Completes the operations that bind at least as tightly as the next operator. -/
def reduce (strength : Nat) : List Pending → Node → Token → Parser Operands
  | [], right, first => return ⟨[], right, first⟩
  | p :: more, right, first => do
    if strength ≤ p.strength then
      let e ← node (markOf p.first) (operationKind p.operator) [(.left, p.left), (.right, right)]
      reduce strength more e p.first
    else return ⟨p :: more, right, first⟩

/-- Completes all operations. The column of one that starts with a token of several lines is counted
with the line of the operand that follows. -/
def reduceAll : List Pending → Node → Token → Parser Node
  | [], right, _ => return right
  | p :: more, right, first => do
    let e ← node (markOf p.first first.lineStart) (operationKind p.operator)
      [(.left, p.left), (.right, right)]
    reduceAll more e p.first

/-- Operations on two operands. -/
def binary (g : Rules) : Parser Node := production do
  let first ← ahead
  let e ← inherit (exponentiation g)
  let start : Operands := ⟨[], e, first⟩
  let o ← loop start fun (o : Operands) => do
    let t ← ahead
    let strength := precedence t (← context).allowIn
    if strength = 0 then return .done o
    else
      let o ← reduce strength o.pending o.right o.first
      discard next
      if o.pending.isEmpty then notTarget
      let first ← ahead
      let right ← isolate (exponentiation g)
      return .again ⟨⟨o.right, o.first, t.value, strength⟩ :: o.pending, right, first⟩
  reduceAll o.pending o.right o.first

/-- A choice between two expressions. -/
def conditional (g : Rules) : Parser Node := production do
  let first ← ahead
  let e ← inherit (binary g)
  if ← sees "?" then
    discard next
    let before := (← context).allowIn
    modifyContext fun c => { c with allowIn := true }
    let a ← isolate g.assignment
    modifyContext fun c => { c with allowIn := before }
    expect ":"
    let b ← isolate g.assignment
    let e ← node (markOf first) .conditional [(.test, e), (.consequent, a), (.alternate, b)]
    notTarget
    return e
  else return e

/-! ## Arrow functions and assignments -/

/-- The names that a reinterpreted parameter binds, and whether each part of it is a plain name. -/
def addPattern (strict : Bool) (o : Params) : Node → Params
  | .mk kind _ children =>
    match kind with
    | .identifier name => o.addName strict .reached name
    | .restElement => { addAll strict o children with simple := false }
    | .assignmentPattern => { addFirst strict o children with simple := false }
    | .arrayPattern => { addAll strict o children with simple := false }
    | .objectPattern => { addAll strict o children with simple := false }
    | .property _ => addLast strict o children
    | _ => { o with simple := false }
where
  /-- All children. -/
  addAll (strict : Bool) (o : Params) : List (Role × Node) → Params
    | [] => o
    | (_, n) :: more => addAll strict (addPattern strict o n) more
  /-- The first child, which is what a default value is for. -/
  addFirst (strict : Bool) (o : Params) : List (Role × Node) → Params
    | [] => o
    | (_, n) :: _ => addPattern strict o n
  /-- The last child, which is the value of a property. -/
  addLast (strict : Bool) (o : Params) : List (Role × Node) → Params
    | [] => o
    | [(_, n)] => addPattern strict o n
    | _ :: c :: more => addLast strict o (c :: more)

/-- A default value that is a bare `yield` is the name. -/
def yieldAsName (param : Node) : Parser Node := do
  match param with
  | .mk .assignmentPattern span [l, (r, .mk .yield s cs)] =>
    if cs.isEmpty then return .mk .assignmentPattern span [l, (r, .mk (.identifier "yield") s [])]
    else unexpected (← ahead)
  | p => return p

/-- The parameters of an arrow function, from what stands before the arrow; nothing if that cannot
be parameters. -/
def arrowParams (e : Node) : Parser (Option Params) := do
  let c ← context
  let params : Option (List Node × Bool) :=
    match e.kind with
    | .identifier _ => some ([e], false)
    | .arrowParameters isAsync => some (e.fields .param, isAsync)
    | _ => none
  match params with
  | none => return none
  | some (params, isAsync) =>
    let mut o : Params := {}
    for p in params do
      let p ← yieldAsName p
      if isAsync && p.identifier? == some "await" then unexpected (← ahead)
      o := addPattern c.strict o p
      o := { o with params := o.params.push p }
    if c.strict || !c.allowYield then
      for p in params do
        match p.kind with
        | .yield => unexpected (← ahead)
        | _ => pure ()
    if o.complaint == some .strictDuplicateParameter then
      fail (← lastProblem .strictDuplicateParameter)
    return some o

/-- An arrow function whose parameters have been read. -/
def arrowFunction (g : Rules) (first : Token) (isAsync : Bool) (o : Params) : Parser Node := do
  if (← get).lineBreak then noteUnexpected (← ahead)
  let before ← context
  modifyContext fun c => { c with
    strayDefault := none, allowStrictDirective := o.simple, allowYield := true,
    allowAwait := isAsync }
  let m := markOf first
  expect "=>"
  let body ← show Parser Node from do
    if ← sees "\x7b" then
      let allowIn := (← context).allowIn
      modifyContext fun c => { c with allowIn := true }
      let b ← functionBody g
      modifyContext fun c => { c with allowIn }
      return b
    else isolate g.assignment
  failCulprit o.restricted o.complaint
  noteCulprit o.stricted o.complaint
  let e ← node m (.arrowFunction isAsync) (functionParts none o.params.toList body)
  modifyContext fun c => { c with
    strict := before.strict, allowStrictDirective := before.allowStrictDirective,
    allowYield := before.allowYield, allowAwait := before.allowAwait }
  return e

/-- The operators that assign. -/
def assigns (t : Token) : Bool :=
  t.kind == .punctuator && ["=", "*=", "**=", "/=", "%=", "+=", "-=", "<<=", ">>=", ">>>=", "&=",
    "^=", "|="].contains t.value.word

/-- Whether an expression can come next, as far as the token ahead tells. -/
def seesExpression : Parser Bool := do
  let t ← ahead
  match t.kind with
  | .punctuator =>
    return ["[", "(", "\x7b", "+", "-", "!", "~", "++", "--", "/", "/=", "<"].contains t.value.word
  | .keyword =>
    return ["class", "delete", "function", "let", "new", "super", "this", "typeof", "void",
      "yield"].contains t.value.word
  | _ => return true

/-- A `yield` in a generator. -/
def yieldExpression (g : Rules) : Parser Node := production do
  let m ← mark
  expectWord "yield"
  if (← get).lineBreak then node m .yield
  else
    let before := (← context).allowYield
    modifyContext fun c => { c with allowYield := false }
    let argument ← show Parser (Option Node) from do
      if ← sees "*" then
        discard next
        return some (← g.assignment)
      else if ← seesExpression then return some (← g.assignment)
      else return none
    modifyContext fun c => { c with allowYield := before }
    node m .yield (optional .argument argument)

/-- An assignment, an arrow function, or what binds tighter. -/
def assignment (g : Rules) : Parser Node := production do
  if !(← context).allowYield && (← seesWord "yield") then yieldExpression g
  else
    let first ← ahead
    let e ← conditional g
    let e ← show Parser Node from do
      let t ← ahead
      if first.isName "async" && first.line == t.line &&
          (t.kind == .identifier || t.isWord "yield") then
        let arg ← primary g
        return awaiting true [arg.asPattern]
      else return e
    let isAsync? : Option Bool := match e.kind with
      | .arrowParameters isAsync => some isAsync
      | _ => none
    if isAsync?.isSome || (← sees "=>") then
      notTarget
      match ← arrowParams e with
      | some o => arrowFunction g first (isAsync?.getD false) o
      | none => return e
    else
      let t ← ahead
      if assigns t then
        let c ← context
        if !c.isTarget then noteHere .badAssignmentTarget
        if c.strict then
          match e.identifier? with
          | some name =>
            if Token.isRestricted name then noteToken first .strictAssignment
            if Token.isStrictReserved name then noteToken first .strictReservedWord
          | none => pure ()
        if t.value != "=" then notTarget
        let left := if t.value == "=" then e.asPattern else e
        discard next
        let right ← isolate g.assignment
        let e ← node (markOf first) (.assignment t.value) [(.left, left), (.right, right)]
        modifyContext fun c => { c with strayDefault := none }
        return e
      else return e

/-- Expressions separated by commas. -/
def expression (g : Rules) : Parser Node := production do
  let first ← ahead
  let e ← isolate (assignment g)
  if ← sees "," then
    let items ← loop #[e] fun (acc : Array Node) => do
      if (← seesEnd) || !(← sees ",") then return .done acc.toList
      else
        discard next
        return .again (acc.push (← isolate (assignment g)))
    node (markOf first) .sequence (many .expression items)
  else return e

end Readiness.Script.Parser
