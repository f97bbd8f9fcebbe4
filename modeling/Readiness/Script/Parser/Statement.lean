import Readiness.Script.Parser.Expression

/-!
# Statements and declarations

A condition whose closing parenthesis is missing is noted, the token in its place is dropped, and
the statement gets an empty body.
-/

namespace Readiness.Script.Parser

/-- A block of statements. -/
def block (g : Rules) : Parser Node := production do
  let m ← mark
  expect "\x7b"
  let items ← collect (return !(← sees "\x7d")) g.listItem
  expect "\x7d"
  node m .block (many .body items)

/-- The class declaration at this level. -/
def classStatement (g : Rules) (nameless : Bool) : Parser Node :=
  classDeclaration g (leftHandSide g) nameless

/-! ## Variables -/

/-- Notes a variable whose name strict code does not allow. -/
def checkVariable (id : Node) : Parser Unit := do
  if (← context).strict && (id.identifier?.map Token.isRestricted).getD false then
    noteHere .strictVariableName

/-- One or more declarators separated by commas. -/
def declarators (one : Parser Node) : Parser (List Node) := production do
  let first ← one
  let rest ← collect (sees ",") do
    discard next
    one
  return first :: rest

/-- An initial value behind its equals sign. -/
def initializer (g : Rules) : Parser Node := do
  expect "="
  isolate (assignment g)

/-- A declarator of `let` or `const`. A pattern needs a value except in the head of a loop, a
constant everywhere but in front of `in` and `of`. -/
def lexicalDeclarator (g : Rules) (isConst inFor : Bool) : Parser Node := production do
  let m ← mark
  let (id, _) ← pattern g .lexical
  checkVariable id
  let init ← show Parser (Option Node) from do
    if isConst then
      if (← seesWord "in") || (← seesName "of") then return none
      else if ← sees "=" then return some (← initializer g)
      else failHere (.missingInitializer "const")
    else if (!inFor && !id.isIdentifier) || (← sees "=") then return some (← initializer g)
    else return none
  node m .variableDeclarator ((.id, id) :: optional .init init)

/-- A declarator of `var`. -/
def variableDeclarator (g : Rules) (inFor : Bool) : Parser Node := production do
  let m ← mark
  let (id, _) ← pattern g .variable
  checkVariable id
  let init ← show Parser (Option Node) from do
    if ← sees "=" then return some (← initializer g)
    else
      if !id.isIdentifier && !inFor then expect "="
      return none
  node m .variableDeclarator ((.id, id) :: optional .init init)

/-- A `let` or `const` declaration. -/
def lexicalDeclaration (g : Rules) : Parser Node := production do
  let m ← mark
  let t ← next
  let ds ← declarators (lexicalDeclarator g (t.value == "const") false)
  endStatement
  node m .variableDeclaration (many .declarator ds)

/-- A `var` declaration. -/
def variableStatement (g : Rules) : Parser Node := production do
  let m ← mark
  expectWord "var"
  let ds ← declarators (variableDeclarator g false)
  endStatement
  node m .variableDeclaration (many .declarator ds)

/-- Whether `let` opens a declaration, as far as the token behind it tells. -/
def seesLexical : Parser Bool := do
  let t ← peek
  return t.kind == .identifier || t.isPunct "[" || t.isPunct "\x7b" || t.isWord "let" || t.isWord "yield"

/-! ## Conditions and loops -/

/-- The body of a statement behind the closing parenthesis of its head, or an empty body if another
token stands in the parenthesis's place. -/
def guarded (missing : Role) (body : Parser (List (Role × Node))) : Parser (List (Role × Node)) := do
  if ← sees ")" then
    expect ")"
    body
  else
    noteUnexpected (← next)
    return [(missing, ← node (← mark) .empty)]

/-- A branch of a condition. -/
def branch (g : Rules) : Parser Node := production do
  if (← context).strict && (← seesWord "function") then noteHere .strictFunction
  g.statement

/-- The body of a loop. -/
def loopBody (body : Parser Node) : Parser Node := do
  let before := (← context).inIteration
  modifyContext fun c => { c with inIteration := true }
  let b ← body
  modifyContext fun c => { c with inIteration := before }
  return b

/-- An `if` statement. -/
def ifStatement (g : Rules) : Parser Node := production do
  let m ← mark
  expectWord "if"
  expect "("
  let test ← expression g
  let parts ← guarded .consequent do
    let a ← branch g
    if ← seesWord "else" then
      discard next
      return [(.consequent, a), (.alternate, ← branch g)]
    else return [(.consequent, a)]
  node m .ifStatement ((.test, test) :: parts)

/-- A `do` loop. -/
def doWhile (g : Rules) : Parser Node := production do
  let m ← mark
  expectWord "do"
  let body ← loopBody g.statement
  expectWord "while"
  expect "("
  let test ← expression g
  if ← sees ")" then
    expect ")"
    if ← sees ";" then discard next
  else noteUnexpected (← next)
  node m .doWhile [(.body, body), (.test, test)]

/-- A `while` loop. -/
def whileLoop (g : Rules) : Parser Node := production do
  let m ← mark
  expectWord "while"
  expect "("
  let test ← expression g
  let body ← guarded .body (return [(.body, ← loopBody g.statement)])
  node m .whileLoop ((.test, test) :: body)

/-- The head of a `for` loop: over the keys or the values of something, or with an initial
statement. -/
inductive ForHead where
  | over (kind : Kind) (left right : Node)
  | counted (init : Option Node)

/-- Behind the left side of a `for`: the keys of an expression. -/
def forKeys (g : Rules) (left : Node) : Parser ForHead := do
  discard next
  return .over .forIn left (← expression g)

/-- Behind the left side of a `for`: the values of an expression. -/
def forValues (g : Rules) (left : Node) : Parser ForHead := do
  discard next
  return .over .forOf left (← assignment g)

/-- Parses with `in` not taken for an operator. -/
def withoutIn (p : Parser α) : Parser α := do
  let before := (← context).allowIn
  modifyContext fun c => { c with allowIn := false }
  let r ← p
  modifyContext fun c => { c with allowIn := before }
  return r

/-- Whether a declaration has a single declarator, and it has no value. -/
def soleBare (ds : List Node) : Bool :=
  match ds with
  | [d] => (d.field? .init).isNone
  | _ => false

/-- The head of a `for` that opens with `var`. -/
def forVar (g : Rules) : Parser ForHead := do
  let m ← mark
  discard next
  let ds ← withoutIn (declarators (variableDeclarator g true))
  let declaration : Parser Node := node m .variableDeclaration (many .declarator ds)
  if ds.length == 1 && (← seesWord "in") then
    let strict := (← context).strict
    let faulty := ds.any fun d =>
      (d.field? .init).isSome && (strict || !((d.field? .id).map Node.isIdentifier).getD true)
    if faulty then noteHere (.loopInitializer "for-in")
    forKeys g (← declaration)
  else if soleBare ds && (← seesName "of") then forValues g (← declaration)
  else
    let d ← declaration
    expect ";"
    return .counted (some d)

/-- The head of a `for` that opens with `let` or `const`. -/
def forLexical (g : Rules) : Parser ForHead := do
  let m ← mark
  let t ← next
  if !(← context).strict && (← ahead).value == "in" then
    forKeys g (← node m (.identifier t.value))
  else
    let ds ← withoutIn (declarators (lexicalDeclarator g (t.value == "const") true))
    let declaration : Parser Node := node m .variableDeclaration (many .declarator ds)
    if soleBare ds && (← seesWord "in") then forKeys g (← declaration)
    else if soleBare ds && (← seesName "of") then forValues g (← declaration)
    else
      endStatement
      return .counted (some (← declaration))

/-- The head of a `for` that opens with an expression. -/
def forExpression (g : Rules) : Parser ForHead := do
  let first ← ahead
  let e ← withoutIn (inherit (assignment g))
  let isAssignment := match e.kind with
    | .assignment _ => true
    | _ => false
  let bad := !(← context).isTarget || isAssignment
  if ← seesWord "in" then
    if bad then noteHere .badForInTarget
    forKeys g e.asPattern
  else if ← seesName "of" then
    if bad then noteHere .badForLoopTarget
    forValues g e.asPattern
  else
    let init ← show Parser Node from do
      if ← sees "," then
        let rest ← collect (sees ",") do
          discard next
          isolate (assignment g)
        node (markOf first) .sequence (many .expression (e :: rest))
      else return e
    expect ";"
    return .counted (some init)

/-- A `for` loop. -/
def forLoop (g : Rules) : Parser Node := production do
  let m ← mark
  expectWord "for"
  expect "("
  let head ← show Parser ForHead from do
    if ← sees ";" then
      discard next
      return .counted none
    else if ← seesWord "var" then forVar g
    else if (← seesWord "const") || (← seesWord "let") then forLexical g
    else forExpression g
  let (kind, parts) ← show Parser (Kind × List (Role × Node)) from do
    match head with
    | .over kind left right => return (kind, [(.left, left), (.right, right)])
    | .counted init =>
      let test ← if ← sees ";" then pure none else do pure (some (← expression g))
      expect ";"
      let update ← if ← sees ")" then pure none else do pure (some (← expression g))
      return (.forLoop, optional .init init ++ optional .test test ++ optional .update update)
  let body ← guarded .body (return [(.body, ← loopBody (isolate g.statement))])
  node m kind (parts ++ body)

/-! ## Jumps -/

/-- The label that `break` or `continue` names, if it names one. -/
def jumpLabel : Parser (Option Node) := do
  let s ← get
  if s.ahead.kind == .identifier && !s.lineBreak then
    let id ← bindingName
    let name := id.identifier?.getD ""
    if !(← context).labels.contains name then failHere (.unknownLabel name)
    return some id
  else return none

/-- A `continue` statement. -/
def continueStatement : Parser Node := do
  let m ← mark
  expectWord "continue"
  let label ← jumpLabel
  endStatement
  if label.isNone && !(← context).inIteration then failHere .illegalContinue
  node m .continueStatement (optional .label label)

/-- A `break` statement. -/
def breakStatement : Parser Node := do
  let m ← mark
  expectWord "break"
  let label ← jumpLabel
  endStatement
  let c ← context
  if label.isNone && !c.inIteration && !c.inSwitch then failHere .illegalBreak
  node m .breakStatement (optional .label label)

/-- A `return` statement. -/
def returnStatement (g : Rules) : Parser Node := production do
  if !(← context).inFunctionBody then noteHere .illegalReturn
  let m ← mark
  expectWord "return"
  let s ← get
  let t := s.ahead
  let valued := (!t.isPunct ";" && !t.isPunct "\x7d" && !s.lineBreak && t.kind != .eof) ||
    t.kind == .string || t.kind == .template
  let argument ← if valued then do pure (some (← expression g)) else pure none
  endStatement
  node m .returnStatement (optional .argument argument)

/-- A `throw` statement. -/
def throwStatement (g : Rules) : Parser Node := production do
  let m ← mark
  expectWord "throw"
  if (← get).lineBreak then failHere .newlineAfterThrow
  let argument ← expression g
  endStatement
  node m .throwStatement [(.argument, argument)]

/-! ## Other statements -/

/-- A `with` statement. -/
def withStatement (g : Rules) : Parser Node := production do
  if (← context).strict then noteHere .strictWith
  let m ← mark
  expectWord "with"
  expect "("
  let object ← expression g
  let body ← guarded .body (return [(.body, ← g.statement)])
  node m .withStatement ((.memberObject, object) :: body)

/-- A clause of a `switch`. -/
def switchCase (g : Rules) : Parser Node := production do
  let m ← mark
  let test ← show Parser (Option Node) from do
    if ← seesWord "default" then
      discard next
      return none
    else
      expectWord "case"
      return some (← expression g)
  expect ":"
  let items ← collect
    (return !((← sees "\x7d") || (← seesWord "default") || (← seesWord "case"))) g.listItem
  node m .switchCase (optional .test test ++ many .consequent items)

/-- A `switch` statement. -/
def switchStatement (g : Rules) : Parser Node := production do
  let m ← mark
  expectWord "switch"
  expect "("
  let discriminant ← expression g
  expect ")"
  let before := (← context).inSwitch
  modifyContext fun c => { c with inSwitch := true }
  expect "\x7b"
  let cases ← loop (#[], false) fun (acc : Array Node × Bool) => do
    if ← sees "\x7d" then return .done acc.1.toList
    else
      let clause ← switchCase g
      let isDefault := (clause.field? .test).isNone
      if isDefault && acc.2 then failHere .manyDefaults
      return .again (acc.1.push clause, acc.2 || isDefault)
  expect "\x7d"
  modifyContext fun c => { c with inSwitch := before }
  node m .switchStatement ((.discriminant, discriminant) :: many .caseClause cases)

/-- What a label stands before. -/
def labelledBody (g : Rules) : Parser Node := do
  let t ← ahead
  if t.isWord "class" then
    noteUnexpected t
    classStatement g false
  else if t.isWord "function" then
    let f ← functionDeclaration g false
    let generator := match f.kind with
      | .functionDeclaration _ generator => generator
      | _ => false
    if (← context).strict then noteToken t .strictFunction
    else if generator then noteToken t .generatorInLegacyContext
    return f
  else g.statement

/-- A statement that starts with an identifier: with a label, or an expression. -/
def labelledStatement (g : Rules) : Parser Node := production do
  let m ← mark
  let e ← expression g
  match e.identifier?, ← sees ":" with
  | some name, true =>
    discard next
    if (← context).labels.contains name then failHere (.redeclaredLabel name)
    modifyContext fun c => { c with labels := name :: c.labels }
    let body ← labelledBody g
    modifyContext fun c => { c with labels := c.labels.erase name }
    node m .labeled [(.label, e), (.body, body)]
  | _, _ =>
    endStatement
    node m (.expressionStatement none) [(.expression, e)]

/-- The clause that catches. -/
def catchClause (g : Rules) : Parser Node := production do
  let m ← mark
  expectWord "catch"
  expect "("
  if ← sees ")" then unexpected (← ahead)
  let (param, names) ← pattern g .other
  let mut seen : List Text := []
  for t in names do
    if seen.contains t.value then noteHere (.duplicateBinding t.value)
    seen := t.value :: seen
  if (← context).strict && (param.identifier?.map Token.isRestricted).getD false then
    noteHere .strictCatchVariable
  expect ")"
  let body ← block g
  node m .catchClause [(.param, param), (.body, body)]

/-- A `try` statement. -/
def tryStatement (g : Rules) : Parser Node := production do
  let m ← mark
  expectWord "try"
  let body ← block g
  let handler ← if ← seesWord "catch" then do pure (some (← catchClause g)) else pure none
  let finalizer ← show Parser (Option Node) from do
    if ← seesWord "finally" then
      discard next
      return some (← production (block g))
    else return none
  if handler.isNone && finalizer.isNone then failHere .noCatchOrFinally
  node m .tryStatement ((.block, body) :: optional .handler handler ++ optional .finalizer finalizer)

/-- An expression as a statement. -/
def expressionStatement (g : Rules) : Parser Node := production do
  let m ← mark
  let e ← expression g
  endStatement
  node m (.expressionStatement none) [(.expression, e)]

/-- A statement. -/
def statement (g : Rules) : Parser Node := production do
  let t ← ahead
  match t.kind with
  | .boolean | .null | .numeric | .string | .template | .regExp => expressionStatement g
  | .punctuator =>
    match t.value.word with
    | "\x7b" => block g
    | ";" =>
      let m ← mark
      expect ";"
      node m .empty
    | _ => expressionStatement g
  | .identifier =>
    if ← seesAsyncFunction then functionDeclaration g false else labelledStatement g
  | .keyword =>
    match t.value.word with
    | "break" => breakStatement
    | "continue" => continueStatement
    | "debugger" =>
      let m ← mark
      discard next
      endStatement
      node m .debugger
    | "do" => doWhile g
    | "for" => forLoop g
    | "function" => functionDeclaration g false
    | "if" => ifStatement g
    | "return" => returnStatement g
    | "switch" => switchStatement g
    | "throw" => throwStatement g
    | "try" => tryStatement g
    | "var" => variableStatement g
    | "while" => whileLoop g
    | "with" => withStatement g
    | _ => expressionStatement g
  | _ => unexpected t

/-! ## Imports and exports -/

/-- The module that an import or export names. -/
def moduleSpecifier : Parser Node := do
  let m ← mark
  if (← ahead).kind != .string then failHere .unexpectedHere
  let t ← next
  node m (.literal (.string t.value))

/-- Takes `from`, which must come next. -/
def expectFrom : Parser Unit := do
  let t ← ahead
  if t.isName "from" then discard next
  else if t.value.isEmpty || t.isZero then failHere .unexpectedHere
  else if t.kind == .numeric && t.number.isLong then breakDown .longNumber
  else failHere (.unexpectedToken t.value)

/-- One imported name. -/
def importSpecifier : Parser Node := do
  let m ← mark
  let isName := (← ahead).kind == .identifier
  let imported ← if isName then bindingName else anyName
  let localName ← show Parser Node from do
    if ← seesName "as" then
      discard next
      bindingName
    else if isName then return imported
    else unexpected (← next)
  node m .importSpecifier [(.localName, localName), (.imported, imported)]

/-- The imported names in braces. -/
def namedImports : Parser (List Node) := do
  expect "\x7b"
  let specifiers ← collect (return !(← sees "\x7d")) do
    let s ← importSpecifier
    if !(← sees "\x7d") then expect ","
    return s
  expect "\x7d"
  return specifiers

/-- All of a module under one name. -/
def namespaceImport : Parser Node := do
  let m ← mark
  expect "*"
  if !(← seesName "as") then failHere .unexpectedHere
  discard next
  let localName ← anyName
  node m .importNamespaceSpecifier [(.localName, localName)]

/-- What an import declaration imports. -/
def importClause : Parser (List Node) := do
  let t ← ahead
  if t.isPunct "\x7b" then namedImports
  else if t.isPunct "*" then return [← namespaceImport]
  else if t.isAnyName && !t.isWord "default" then
    let m ← mark
    let localName ← anyName
    let first ← node m .importDefaultSpecifier [(.localName, localName)]
    if ← sees "," then
      discard next
      if ← sees "*" then return [first, ← namespaceImport]
      else if ← sees "\x7b" then return first :: (← namedImports)
      else unexpected (← ahead)
    else return [first]
  else unexpected (← next)

/-- An import declaration. -/
def importDeclaration : Parser Node := do
  if (← context).inFunctionBody then failHere .unexpectedHere
  let m ← mark
  expectWord "import"
  let (specifiers, source) ← show Parser (List Node × Node) from do
    if (← ahead).kind == .string then return ([], ← moduleSpecifier)
    else
      let specifiers ← importClause
      expectFrom
      return (specifiers, ← moduleSpecifier)
  endStatement
  node m .importDeclaration (many .specifier specifiers ++ [(.source, source)])

/-- One exported name. -/
def exportSpecifier : Parser Node := do
  let m ← mark
  let localName ← anyName
  let exported ← show Parser Node from do
    if ← seesName "as" then
      discard next
      anyName
    else return localName
  node m .exportSpecifier [(.exported, exported), (.localName, localName)]

/-- What a default export exports, from behind `default`. -/
def defaultExport (g : Rules) (m : Marker) : Parser Node := do
  let declaration ← show Parser Node from do
    if ← seesWord "function" then functionDeclaration g true
    else if ← seesWord "class" then classStatement g true
    else if ← seesName "async" then
      if ← seesAsyncFunction then functionDeclaration g true else assignment g
    else
      let t ← ahead
      if t.isName "from" then failHere (.unexpectedToken t.value)
      let e ← if t.isPunct "\x7b" then objectLiteral g
        else if t.isPunct "[" then arrayLiteral g
        else assignment g
      endStatement
      return e
  node m .exportDefault [(.declaration, declaration)]

/-- The exported names in braces, and whether one of them is `default`, which only another module can
have. -/
def bracedExports : Parser (List Node × Bool) := do
  expect "\x7b"
  let r ← loop (#[], false) fun (acc : Array Node × Bool) => do
    if ← sees "\x7d" then return .done (acc.1.toList, acc.2)
    else
      let isDefault ← seesWord "default"
      let s ← exportSpecifier
      if !(← sees "\x7d") then expect ","
      return .again (acc.1.push s, acc.2 || isDefault)
  expect "\x7d"
  return r

/-- A name that stands for the default export of another module. -/
def exportDefaultSpecifier : Parser Node := do
  let m ← mark
  let localName ← anyName
  node m .exportDefaultSpecifier [(.localName, localName)]

/-- The names of an export declaration: a default name, names in braces, or the one and then the
other. -/
def exportClause : Parser (List Node × Bool) := do
  if (← ahead).kind == .identifier then
    let first ← exportDefaultSpecifier
    if ← sees "," then
      discard next
      let (specifiers, needsSource) ← bracedExports
      return (first :: specifiers, needsSource)
    else return ([first], false)
  else bracedExports

/-- The exported names, and the module they come from. -/
def namedExports (m : Marker) : Parser Node := do
  let (specifiers, needsSource) ← exportClause
  let source ← show Parser (Option Node) from do
    if ← seesName "from" then
      discard next
      let source ← moduleSpecifier
      endStatement
      return some source
    else
      if needsSource then expectFrom
      endStatement
      return none
  node m .exportNamed (many .specifier specifiers ++ optional .source source)

/-- An export declaration. -/
def exportDeclaration (g : Rules) : Parser Node := production do
  if (← context).inFunctionBody then failHere .unexpectedHere
  let m ← mark
  expectWord "export"
  let t ← ahead
  if t.isWord "default" then
    discard next
    defaultExport g m
  else if t.isPunct "*" then
    discard next
    expectFrom
    let source ← moduleSpecifier
    endStatement
    node m .exportAll [(.source, source)]
  else if t.kind == .keyword then
    let declaration ← show Parser Node from do
      if t.value == "let" || t.value == "const" then lexicalDeclaration g
      else if t.value == "var" || t.value == "class" || t.value == "function" then g.listItem
      else unexpected t
    node m .exportNamed [(.declaration, declaration)]
  else if ← seesAsyncFunction then
    let declaration ← functionDeclaration g false
    node m .exportNamed [(.declaration, declaration)]
  else namedExports m

/-- A statement or declaration. -/
def listItem (g : Rules) : Parser Node := production do
  modifyContext fun c => { c with isTarget := true, isBinding := true }
  let t ← ahead
  if t.kind == .keyword then
    match t.value.word with
    | "export" =>
      if !(← context).isModule then noteToken t .unexpectedHere
      exportDeclaration g
    | "import" =>
      if ← seesImportCall then expressionStatement g
      else
        if !(← context).isModule then noteToken t .unexpectedHere
        importDeclaration
    | "const" => lexicalDeclaration g
    | "function" => functionDeclaration g false
    | "class" => classStatement g false
    | "let" => if ← seesLexical then lexicalDeclaration g else statement g
    | _ => statement g
  else statement g

/-! ## The tower of rules -/

/-- The rules for scripts that nest at most `n` levels deep from here. A level opens at least one
production, so as many levels as productions may be open are enough. -/
def rules : Nat → Rules
  | 0 =>
    ⟨failTooDeep, failTooDeep, failTooDeep, failTooDeep, failTooDeep,
     failTooDeep, failTooDeep, failTooDeep, fun _ => failTooDeep, failTooDeep⟩
  | n + 1 =>
    let g := rules n
    ⟨assignment g, expression g, exponentiation g, unary g, newCallee g, leftHandSide g,
     statement g, listItem g, pattern g, element g⟩

end Readiness.Script.Parser
