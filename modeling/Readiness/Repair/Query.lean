import Readiness.Detect.Query
import Readiness.Repair.Engine
import Readiness.Repair.Placeholder

/-!
# Repairing queries

A query whose text is built from values becomes a literal with placeholders, and the values become
a list of parameters that is the second argument of the call.
-/

namespace Readiness.Query

open Script Repair

/-- Whether an expression is a string literal. -/
def isString (n : Node) : Bool := n.string?.isSome

mutual

/-- Whether a sum has a string literal or a template among its terms. -/
def hasString : Node → Bool
  | .mk kind _ children =>
    match kind with
    | .literal (.string _) => true
    | .templateLiteral => true
    | .binary operator => operator == "+" && anyHasString children
    | _ => false

/-- Whether one of the operands has. -/
def anyHasString : List (Role × Node) → Bool
  | [] => false
  | (_, c) :: more => hasString c || anyHasString more

end

mutual

/-- The terms of a sum from left to right. A part of the sum that has no string in it is a number,
for all one can tell, and stays one term. -/
def terms : Node → List Node
  | .mk kind span children =>
    match kind with
    | .binary operator =>
      if operator == "+" && anyHasString children then allTerms children
      else [.mk kind span children]
    | _ => [.mk kind span children]

/-- The terms of the operands. -/
def allTerms : List (Role × Node) → List Node
  | [] => []
  | (_, c) :: more => terms c ++ allTerms more

end

/-- The parts that a query is built from. -/
def parts (query : Node) : List Node := if query.isTemplate then [query] else terms query

/-- Whether an expression is a number literal. -/
def isNumber (n : Node) : Bool :=
  match n.kind with
  | .literal (.number _) => true
  | _ => false

/-- The quotes of the first string literal among the parts, else double quotes. -/
def quoteStyle (s : Script) (ps : List Node) : CodePoint :=
  let firsts := ps.filterMap fun p =>
    if isString p then
      match s.textOf p with
      | .char '\'' :: _ => some '\''
      | .char '"' :: _ => some '"'
      | _ => none
    else none
  firsts.head?.getD '"'

/-- The source text of an expression with the parentheses around it. -/
def expressionSource (s : Script) (n : Node) : Text :=
  let (start, stop) := widenOverParens s.text 0 s.text.length n.start n.stop
  s.text.slice start stop

/-- The pieces with those of a template behind them: its texts and the expressions between them. -/
def addTemplate (s : Script) : List Node → List Node → List Piece → List Piece
  | [], _, pieces => pieces
  | q :: quasis, expressions, pieces =>
    let cooked := match q.kind with
      | .templateElement cooked _ => cooked
      | _ => []
    let pieces := Piece.addText cooked pieces
    match expressions with
    | [] => addTemplate s quasis [] pieces
    | e :: more => addTemplate s quasis more (Piece.addValue (s.textOf e) pieces)

/-- The pieces with that of one more part behind them. -/
def addPart (s : Script) (pieces : List Piece) (p : Node) : List Piece :=
  match p.string? with
  | some value => Piece.addText value pieces
  | none =>
    if isNumber p then Piece.addText (s.textOf p) pieces
    else if p.isTemplate then addTemplate s (p.fields .quasi) (p.fields .expression) pieces
    else Piece.addValue (expressionSource s p) pieces

/-- The pieces of a query. -/
def pieces (s : Script) (query : Node) : List Piece :=
  ((parts query).foldl (addPart s) []).reverse

/-- The literal with placeholders and the parameters for a query. -/
def parameterized (s : Script) (query : Node) : Except Breakdown (Text × List Text) := do
  let p ← assemble (pieces s query)
  return (requote (quoteStyle s (parts query)) p.sql, p.params)

/-- The range of an argument of a call with the parentheses around it; the parentheses of the call
itself are never part of it. -/
def argumentSpan (s : Script) (call argument : Node) : Except Fault (Nat × Nat) :=
  let calleeEnd := ((call.field? .callee).map Node.stop).getD call.start
  match Text.indexOf? "(" (s.text.drop calleeEnd) with
  | none => .error (.declined "substring not found")
  | some i =>
    .ok (widenOverParens s.text (calleeEnd + i + 1) (call.stop - 1) argument.start argument.stop)

/-- The edit that makes the parameters the second argument of a call. -/
def insertion (s : Script) (call : Node) (params : List Text) : Except Fault (List Edit) :=
  let list : Text := "[" ++ Text.join ", " params ++ "]"
  match call.arguments with
  | _ :: second :: _ => do
    let (start, _) ← argumentSpan s call second
    return [Edit.insert start (list ++ ", ")]
  | first :: _ => do
    let (_, stop) ← argumentSpan s call first
    return [Edit.insert stop (", " ++ list)]
  | [] => return []

/-- The edit of a node's range. -/
def replacement (n : Node) (t : Text) : Except Fault Edit :=
  (Edit.ofRange n.start n.stop t).mapError .badRange

/-- The expression of a call that builds its query from values, or why there is none. -/
def target (s : Script) (call : Place) : Except Fault Node :=
  match builtText? s call with
  | some (e, _) => .ok e
  | none =>
    match call.node.arguments.head?.bind Node.identifier? with
    | some name => .error (.declined ("cannot resolve query text for " ++ quoted name))
    | none => .error (.declined "query argument is not built by concatenation")

/-- Proposes placeholders and parameters for the query call of an issue. -/
def propose (s : Script) (i : Issue) : Except Fault Proposal := do
  let some call := nearest? (s.places.filter isCandidate) i.line i.column
    | throw (.declined ("no query call found near line " ++ toString i.line))
  if isParameterized call.node then throw (.declined "query call is already parameterized")
  let query ← target s call
  let (literal, params) ← (parameterized s query).mapError .breakdown
  let main ← replacement query literal
  let more ← if params.isEmpty then pure [] else insertion s call.node params
  return {
    edits := main :: more
    explanation :=
      "Converted string concatenation to parameterized query to prevent SQL injection" }

/-- Repairs queries built from values. -/
def fixer : Fixer Script where
  id := "sql-injection-fixer"
  types := [IssueType.sqlInjection]
  canFix i := i.type == IssueType.sqlInjection
  propose := propose

end Readiness.Query
