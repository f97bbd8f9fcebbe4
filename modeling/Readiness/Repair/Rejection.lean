import Readiness.Detect.Rejection
import Readiness.Json.Shown
import Readiness.Repair.Engine
import Readiness.Script.Requote

/-!
# Repairing lost errors

The body of a function that lets errors pass is wrapped in a `try` whose `catch` reports the error
and throws it on. A chain that lets rejections pass gets a rejection handler at its end.
-/

namespace Readiness.Rejection

open Script Repair

/-- The expression that reports errors. -/
def loggerExpression : Text := "(typeof logger !== 'undefined' ? logger : console)"

/-- The statements that handle an error in a function of the given name. -/
def catchLines (name : Text) (payment : Bool) : List Text :=
  let report (label : Text) : Text :=
    loggerExpression ++ ".error(" ++ requote '\'' label ++ ", error);"
  if payment then
    [report ("Payment processing failed in " ++ name ++ ":"),
      "throw new Error('Payment processing failed', \x7b cause: error \x7d);"]
  else [report (name ++ " failed:"), "throw error;"]

/-- The indentation of a level where none can be read off. -/
def standardIndent : Text := [' ', ' ']

/-- The indentation of one level in a block whose line has the indentation `base`: what the first
statement has more. -/
def indentUnit (s : Script) (block : Node) (base : Text) : Text :=
  match block.fields .body with
  | [] => standardIndent
  | first :: _ =>
    let indent := indentOfLine s.text first.line
    if base.isPrefixOf indent && base.length < indent.length then indent.drop base.length
    else standardIndent

/-- The ranges of the templates in a place. -/
def templateSpans (p : Place) : List (Nat × Nat) :=
  (p.walk.filter (·.node.isTemplate)).map fun q => (q.node.start, q.node.stop)

/-- Whether an offset lies strictly inside one of the ranges. -/
def liesInside (offset : Nat) (spans : List (Nat × Nat)) : Bool :=
  spans.any fun (start, stop) => start < offset && offset < stop

/-- Whether a line holds nothing but blanks. -/
def isBlankLine (line : Text) : Bool := line.all isBlank

/-- The lines of a body moved one level in, where `number` and `offset` are those of the first line.
Blank lines are emptied, and those at the very start and end are left out; lines that start inside
a template are kept as they are. -/
def indentedLines (outer unit : Text) (spans : List (Nat × Nat)) :
    Nat → Nat → List Text → List Text
  | _, _, [] => []
  | number, offset, line :: more =>
    let rest := indentedLines outer unit spans (number + 1) (offset + line.length + 1) more
    if isBlankLine line then
      if 0 < number && !more.isEmpty then [] :: rest else rest
    else if liesInside offset spans then line :: rest
    else if number = 0 then (outer ++ unit ++ unit ++ Text.trim line) :: rest
    else (unit ++ line) :: rest

/-- The lines of a block that tries the given lines and handles their errors. -/
def tryLines (base unit : Text) (inner : List Text) (name : Text) (payment : Bool) : List Text :=
  let opening : List Text := ["\x7b", base ++ unit ++ "try \x7b"]
  let closing : List Text := [base ++ unit ++ "\x7d", base ++ "\x7d"]
  opening ++ inner ++ [base ++ unit ++ "\x7d catch (error) \x7b"] ++
    (catchLines name payment).map (fun l => base ++ unit ++ unit ++ l) ++ closing

/-- The text that a block is replaced with. -/
def wrappedBlock (s : Script) (block : Place) (name : Text) (payment : Bool) : Text :=
  let n := block.node
  let base := indentOfLine s.text n.line
  let unit := indentUnit s n base
  let inner := s.text.slice (n.start + 1) (n.stop - 1)
  let lines :=
    indentedLines base unit (templateSpans block) 0 (n.start + 1) (Text.splitLineFeeds inner)
  Text.join "\n" (tryLines base unit lines name payment)

/-- The text that the expression between two offsets, the body of a function, is replaced with. -/
def wrappedExpression (s : Script) (f : Node) (start stop : Nat) (name : Text) (payment : Bool) :
    Text :=
  let base := indentOfLine s.text f.line
  let unit := standardIndent
  let line := base ++ unit ++ unit ++ "return " ++ s.text.slice start stop ++ ";"
  Text.join "\n" (tryLines base unit [line] name payment)

/-- The edit that wraps the body of a function. -/
def wrapping (s : Script) (f : Place) (name : Text) (payment : Bool) : Except Fault Edit :=
  match f.child? .body with
  | none => .error (.declined "function has no body")
  | some b =>
    match b.kind with
    | .block =>
      (Edit.ofRange b.node.start b.node.stop (wrappedBlock s b name payment)).mapError .badRange
    | _ =>
      let (start, stop) := widenOverParens s.text 0 s.text.length b.node.start b.node.stop
      (Edit.ofRange start stop (wrappedExpression s f.node start stop name payment)).mapError
        .badRange

/-- What a function without a name is called in messages. -/
def anonymousName : Text := "Anonymous function"

/-- The name under which errors of a function are reported: the one that the issue notes, else its
own. -/
def reportedName (f : Place) (i : Issue) : Except Breakdown Text := do
  match (i.fact? "function_name").filter Json.isTrue with
  | some (.str name) => return name
  | some noted => return noted.shown
  | none =>
    let own := (← f.functionName?).filter fun n => !n.isEmpty
    return own.getD anonymousName

/-- Whether a function is treated as payment code: if the issue says so, or by its looks. -/
def treatedAsPayment (f : Place) (i : Issue) : Except Breakdown Bool :=
  if (i.fact? "is_payment").any Json.isTrue then .ok true else looksLikePayment f

/-- Proposes a wrapper for the body of the function of an issue. -/
def proposeWrapping (s : Script) (i : Issue) : Except Fault Proposal := do
  let candidates := s.places.filter fun p => p.node.isFunction && p.node.isAsync
  let some f := nearest? candidates i.line i.column
    | throw (.declined ("no async function found near line " ++ toString i.line))
  if hasOwnTry f then throw (.declined "function already has a try/catch block")
  let name ← (reportedName f i).mapError .breakdown
  let payment ← (treatedAsPayment f i).mapError .breakdown
  let edit ← wrapping s f name payment
  return {
    edits := [edit]
    explanation := "Added error handling to prevent crashes and improve reliability" }

/-- The rejection handler that is put at the end of a chain. -/
def handlerText : Text :=
  ".catch((error) => " ++ loggerExpression ++ ".error('Promise rejected:', error))"

/-- Whether rejections of the chain of a `then` call are handled. -/
def handlesRejections (call : Place) : Bool :=
  let top := call.chainTop.node
  (top.isMethodCall "then" && 2 ≤ top.arguments.length) || catchFollows call

/-- What is proposed for the chain of a `then` call. -/
def chainProposal (call : Place) : Proposal :=
  if handlesRejections call then ⟨[], "Promise chain already handles rejections"⟩
  else {
    edits := [Edit.insert call.chainTop.node.stop handlerText]
    explanation :=
      "Added .catch() handler so promise rejections are logged instead of going unhandled" }

/-- Proposes a rejection handler for the chain of an issue. -/
def proposeHandler (s : Script) (i : Issue) : Except Fault Proposal := do
  let candidates := s.places.filter fun p => p.node.isMethodCall "then"
  let some call := nearest? candidates i.line i.column
    | throw (.declined ("no .then() call found near line " ++ toString i.line))
  return chainProposal call

/-- Repairs functions and chains that let errors pass. -/
def fixer : Fixer Script where
  id := "error-handling-fixer"
  types := [IssueType.noErrorHandling, IssueType.unhandledPromise]
  canFix i := i.type == IssueType.noErrorHandling || i.type == IssueType.unhandledPromise
  propose s i :=
    if i.type == IssueType.unhandledPromise then proposeHandler s i else proposeWrapping s i

end Readiness.Rejection
