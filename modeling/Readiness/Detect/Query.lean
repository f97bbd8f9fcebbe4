import Readiness.Detect.Basic

/-!
# Queries built from values

A call that runs a query is at fault if the text of the query is put together from values, by
concatenation or in a template, and the values are not passed as parameters. The text may be the
argument itself or the variable that the argument names.
-/

namespace Readiness.Query

open Script

/-- The methods that run a query. -/
def methods : List Text := ["query", "execute", "run", "get", "all", "raw"]

/-- The functions that run a query. -/
def functions : List Text := ["query", "execute", "run"]

/-- Whether a call or construction is of something that runs a query, by its name in any case. -/
def isQueryCall (n : Node) : Bool :=
  match n.field? .callee with
  | some c =>
    match c.kind with
    | .member _ =>
      match c.propertyName? with
      | some name => methods.contains (Text.lower name)
      | none => false
    | .identifier name => functions.contains (Text.lower name)
    | _ => false
  | none => false

mutual

/-- Whether an expression adds somewhere in a chain of operators, or interpolates. -/
def concatenates : Node → Bool
  | .mk kind _ children =>
    match kind with
    | .binary operator => operator == "+" || anyConcatenates children
    | .templateLiteral => children.any fun c => c.1 == .expression
    | _ => false

/-- Whether one of the operands does. -/
def anyConcatenates : List (Role × Node) → Bool
  | [] => false
  | (_, c) :: more => concatenates c || anyConcatenates more

end

/-- Whether the second argument of a call is a list or record of parameters. -/
def isParameterized (n : Node) : Bool :=
  match n.arguments with
  | _ :: second :: _ =>
    match second.kind with
    | .arrayExpression | .objectExpression => true
    | _ => false
  | _ => false

/-- What tells the function around a place from others. -/
def scope (p : Place) : Option (List Nat) := p.enclosingFunction?.map (·.address)

/-- Whether the node declares a variable of the given name with an initial value. -/
def declares (n : Node) (name : Text) : Bool :=
  match n.kind with
  | .variableDeclarator =>
    ((n.field? .id).map fun i => i.isNamed name).getD false && (n.field? .init).isSome
  | _ => false

/-- The last declarator of a variable before a call in the same function, if it concatenates. -/
def declarator? (s : Script) (call : Place) (name : Text) : Option Node :=
  let found := s.places.filter fun d =>
    declares d.node name && d.node.start < call.node.start && scope d == scope call
  match found.getLast? with
  | some d => if ((d.node.field? .init).map concatenates).getD false then some d.node else none
  | none => none

/-- The words that mark authentication. -/
def authenticationWords : List Text := ["auth", "login"]

/-- Whether the code deals with authentication, by its context, its routes or the name of its
file. -/
def isAuthentication (c : Context) (file : Text) : Bool :=
  let marks (s : Text) : Bool := Text.mentions authenticationWords (Text.lower s)
  c.isAuthenticationCode || c.routes.any (fun r => marks r.path) || marks file

/-- What is told about queries built from values. -/
def rule : Rule where
  type := IssueType.sqlInjection
  category := .security
  impact := "Attackers could read, modify, or delete your entire database"
  education := "SQL injection occurs when user input is directly concatenated into SQL " ++
    "queries. Always use parameterized queries or prepared statements."
  fix := "Use parameterized queries to prevent SQL injection"
  known := by decide

/-- The message for a query, in code that deals with authentication or not. -/
def message (authentication : Bool) : Text :=
  if authentication then
    "SQL injection vulnerability detected in authentication endpoint - " ++
      "this is extremely dangerous"
  else
    "SQL injection vulnerability detected - user input is concatenated " ++
      "directly into SQL query"

/-- The expression that builds the text of a call's query from values, with the declarator if it is
a variable's. -/
def builtText? (s : Script) (call : Place) : Option (Node × Option (Node × Text)) :=
  match call.node.arguments with
  | [] => none
  | first :: _ =>
    if concatenates first then some (first, none)
    else
      match first.identifier? with
      | some name =>
        match declarator? s call name with
        | some d => (d.field? .init).map fun e => (e, some (d, name))
        | none => none
      | none => none

/-- Whether a place is a call that runs a query with arguments. -/
def isCandidate (p : Place) : Bool :=
  p.node.isCall && isQueryCall p.node && !p.node.arguments.isEmpty

/-- The issue of a place, if it is a query call at fault. -/
def issue? (s : Script) (authentication : Bool) (file : Text) (p : Place) :
    Except Breakdown (Option Issue) := do
  if !isCandidate p || isParameterized p.node then return none
  match builtText? s p with
  | none => return none
  | some (e, declared) =>
    let facts : List (Text × Json) := ("auth_context", .bool authentication) ::
      match declared with
      | some (d, name) => [("declarator_line", Json.nat d.line), ("declarator_name", .str name)]
      | none => []
    return some (← rule.issue file p.node .critical (message authentication) facts (s.textOf e))

/-- Finds queries built from values. -/
def detector : Detector where
  id := IssueType.sqlInjection
  category := .security
  detect s context file := s.places.filterMapM (issue? s (isAuthentication context file) file)

end Readiness.Query
