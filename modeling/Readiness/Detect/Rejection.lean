import Readiness.Detect.Basic

/-!
# Errors that nobody sees

An asynchronous function that awaits is at fault if it has no `try` of its own and no wrapper
catches for it. A chain of promise calls is at fault if no rejection handler ends it.
-/

namespace Readiness.Rejection

open Script

/-- The functions that catch for the asynchronous function they are given. -/
def standardWrappers : List Text :=
  ["asyncHandler", "catchAsync", "wrapAsync", "expressAsyncHandler"]

/-- The words that mark payment code. -/
def paymentWords : List Text := ["payment", "charge", "stripe"]

/-- Whether a name marks payment code, in any case. -/
def isPaymentName (name : Text) : Bool := Text.mentions paymentWords (Text.lower name)

/-- The waits of a function's own code. -/
def ownAwaits (f : Place) : List Place :=
  f.own.filter fun p =>
    match p.kind with
    | .await => true
    | _ => false

/-- Whether a function's own code has a `try`. -/
def hasOwnTry (f : Place) : Bool :=
  f.own.any fun p =>
    match p.kind with
    | .tryStatement => true
    | _ => false

/-- The places of a function's body, nested functions included. -/
def body (f : Place) : List Place := ((f.child? .body).map Place.walk).getD []

/-- Whether a function deals with payments, by its name or a name in its body. -/
def looksLikePayment (f : Place) : Except Breakdown Bool := do
  let name := (← f.functionName?).getD ""
  return isPaymentName name ||
    (body f).any fun p => ((p.node.identifier?).map isPaymentName).getD false

/-- Whether a name is that of a database. -/
def isDatabaseName (name : Text) : Bool :=
  name == "db" || name == "database" || Text.mentions ["model"] (Text.lower name)

/-- Whether a function uses a database, by the names of the objects in its body. -/
def touchesDatabase (f : Place) : Bool :=
  (body f).any fun p =>
    p.node.isMember &&
      ((p.node.field? .memberObject).bind Node.identifier?).any isDatabaseName

/-! ## Asynchronous functions -/

/-- Whether a function is the only argument of a wrapper that catches for it. -/
def isWrapped (wrappers : List Text) (f : Place) : Bool :=
  match f.above with
  | s :: _ =>
    s.parent.isCall && s.role == .argument && s.parent.arguments.length == 1 &&
      (s.parent.calleeName?).any wrappers.contains
  | [] => false

/-- Whether errors in a function pass unseen. -/
def letsErrorsPass (wrappers : List Text) (f : Place) : Bool :=
  f.node.isFunction && f.node.isAsync && !(ownAwaits f).isEmpty && !hasOwnTry f &&
    !isWrapped wrappers f

/-- What is told about functions that let errors pass. -/
def functionRule : Rule where
  type := IssueType.noErrorHandling
  category := .reliability
  impact := "Unhandled errors can crash your application"
  education := "Always handle errors in async functions to prevent crashes " ++
    "and provide better user experience."
  fix := "Add try-catch block to handle errors properly"
  known := by decide

/-- The message for a function that lets errors pass. -/
def functionMessage (payment : Bool) (f : Place) : Text :=
  if payment then
    "Missing error handling in payment processing code - this could cause " ++
      "failed transactions or duplicate charges"
  else if touchesDatabase f then
    "Missing error handling in database operation - this could cause data inconsistencies"
  else if 1 < (ownAwaits f).length then
    "Missing error handling in async function with multiple async operations"
  else "Missing error handling in async function - errors will crash the application"

/-- The severity of an issue in payment code or other code. -/
def severityOf (payment : Bool) : Severity := if payment then .critical else .high

/-- The issue of a place, if it is a function that lets errors pass. -/
def functionIssue? (wrappers : List Text) (context : Context) (file : Text) (f : Place) :
    Except Breakdown (Option Issue) := do
  if !letsErrorsPass wrappers f then return none
  let payment ← if context.isPaymentCode then pure true else looksLikePayment f
  let name ← f.functionName?
  return some (← functionRule.issue file f.node (severityOf payment) (functionMessage payment f)
    [("is_payment", .bool payment), ("function_name", Json.ofOption name)]
    (name.getD ""))

/-! ## Promise chains -/

/-- Whether a rejection handler follows a `then` call: a `catch` call on the chain, or as the
statement behind it. -/
def catchFollows (p : Place) : Bool :=
  p.chainAbove.any (fun c => c.1 == some "catch") ||
    match p.chainTop.parent? with
    | some statement =>
      match statement.kind with
      | .expressionStatement _ =>
        match statement.nextStatement? with
        | some next =>
          match next.kind with
          | .expressionStatement _ =>
            ((next.field? .expression).map fun e => e.isMethodCall "catch").getD false
          | _ => false
        | none => false
      | _ => false
    | none => false

/-- Whether no further `then` call follows on the chain. -/
def isLastThen (p : Place) : Bool := p.chainAbove.all fun c => c.1 != some "then"

/-- Whether a place is a `then` call after which rejections pass unseen. -/
def letsRejectionsPass (p : Place) : Bool :=
  p.node.isMethodCall "then" && p.node.arguments.length < 2 && isLastThen p && !catchFollows p

/-- What is told about chains that let rejections pass. -/
def chainRule : Rule where
  type := IssueType.unhandledPromise
  category := .reliability
  impact :=
    "Rejected promises surface as unhandled rejections and can terminate the process"
  education := "Every promise chain needs a rejection handler. End chains " ++
    "with .catch() or use async/await inside try/catch."
  fix := "Add .catch() handler to handle promise rejections"
  known := by decide

/-- The message for a chain that lets rejections pass. -/
def chainMessage (payment : Bool) : Text :=
  if payment then
    "Promise without .catch() handler in payment code - a failed charge could go unnoticed"
  else "Promise without .catch() handler - unhandled rejections can cause issues"

/-- The issue of a place, if it is a `then` call after which rejections pass unseen. -/
def chainIssue? (s : Script) (context : Context) (file : Text) (p : Place) :
    Except Breakdown (Option Issue) := do
  if !letsRejectionsPass p then return none
  let payment ←
    if context.isPaymentCode then pure true
    else match p.enclosingFunction? with
      | some f => looksLikePayment f
      | none => pure false
  let callee := ((p.node.field? .callee).map s.textOf).getD []
  return some (← chainRule.issue file p.node (severityOf payment) (chainMessage payment)
    [("is_payment", .bool payment)] callee)

/-- Finds functions and chains that let errors pass, where the given wrappers catch besides the
standard ones. -/
def detector (extraWrappers : List Text) : Detector where
  id := IssueType.noErrorHandling
  category := .reliability
  detect s context file := do
    let wrappers := standardWrappers ++ extraWrappers
    let functions ← s.places.filterMapM (functionIssue? wrappers context file)
    let chains ← s.places.filterMapM (chainIssue? s context file)
    return functions ++ chains

end Readiness.Rejection
