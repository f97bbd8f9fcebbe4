import Readiness.Command.Basic
import Readiness.Project.Repair
import Readiness.Service.Body
import Readiness.Service.Settings

/-!
# The service

Scans and previews for those who ask over the net. A request has a method, a path and a body; the
answer has a status and a document. A path that only differs in slashes at its end is led to the
right one.
-/

namespace Readiness.Service

/-- What can be asked for. -/
inductive Endpoint where
  | about
  | health
  | readiness
  | scanProject
  | scanSource
  | previewFixes
deriving DecidableEq

/-- The paths and methods of what can be asked for. -/
def routes : List (Text × Text × Endpoint) := [
  ("/health", "GET", .health),
  ("/ready", "GET", .readiness),
  ("/scan/", "POST", .scanProject),
  ("/scan/source", "POST", .scanSource),
  ("/fix/preview", "POST", .previewFixes),
  ("/", "GET", .about)]

/-- The answer to a request. -/
inductive Reply where
  | document (status : Nat) (body : Json)
  /-- A sentence instead of a document. -/
  | plain (status : Nat) (words : Text)
  /-- The body of the request is not what was asked for. -/
  | unacceptable (faults : List BodyFault)

/-- An answer that is only a complaint. -/
def refusal (status : Nat) (detail : Text) : Reply :=
  .document status (.obj [("detail", .str detail)])

/-- The answer if something went wrong that nobody is told about. -/
def mishap : Reply := .plain 500 "Internal Server Error"

/-- The answer with a document, which cannot be sent if a string in it cannot be encoded. -/
def sent (status : Nat) (body : Json) : Reply :=
  if body.isEncodable then .document status body else mishap

/-- The string of a field. -/
def stringOf? (fields : List (Text × Json)) (name : Text) : Option Text :=
  (fields.lookup name).bind Json.str?

/-- The strings of a field. -/
def stringsOf (fields : List (Text × Json)) (name : Text) : List Text :=
  (((fields.lookup name).bind Json.arr?).getD []).filterMap Json.str?

/-- The answer with the result of a scan. -/
def scanReply (time : Text) (a : Analysis) : Reply := sent 200 <| .obj [
  ("status", .str "complete"),
  ("summary", .obj [
    ("files_scanned", Json.nat a.files.length),
    ("issues_found", Json.nat a.issues.length),
    ("score", .int a.score),
    ("tier", .str (tierOf a.score).name),
    ("by_severity", Analysis.countsJson a.bySeverity)]),
  ("result", a.json),
  ("created_at", .str time)]

/-- Whether a fault lies in a value that was given. -/
def isBadValue : ProjectFault → Bool
  | .category _ => true
  | .breakdown b => b.isBadValue
  | .read (.decoding _) => true
  | .config (.unreadable (.decoding _)) => true
  | .config (.yaml _ f) =>
    match f with
    | .malformed => false
    | .hugeCode => false
    | .emptyNumber => false
    | .truth _ => false
    | _ => true
  | _ => false

/-- Scans the project in a folder. -/
def scanProject (w : Workspace) (setting time : Text) (fields : List (Text × Json)) : Reply :=
  let given := (stringOf? fields "repo_path").getD ""
  let root := Path.ofText given
  if !w.isFolder root then refusal 404 ("Path not found: " ++ given)
  else
    match (Project.scan w root setting (stringOf? fields "category")).outcome.1 with
    | .ok a => scanReply time a
    | .error f => refusal (if isBadValue f then 400 else 500) f.message

/-- Whether a source has too many bytes. -/
def isTooLarge (settings : Settings) (source : Text) : Bool :=
  settings.mostBytes < source.utf8.length

/-- The name of a source. -/
def nameOf (fields : List (Text × Json)) : Text :=
  (stringOf? fields "filename").getD "input.js"

/-- Scans a source. -/
def scanSource (settings : Settings) (time : Text) (fields : List (Text × Json)) : Reply :=
  let source := (stringOf? fields "source").getD ""
  if isTooLarge settings source then refusal 413 "Source too large"
  else
    match scanText source (nameOf fields) (stringOf? fields "category") with
    | .ok a => scanReply time a
    | .error (.breakdown b) => if b.isBadValue then refusal 400 b.message else mishap
    | .error f => refusal 400 f.message

/-- Shows what the repairs of a source would do, and the repaired source. -/
def previewFixes (settings : Settings) (fields : List (Text × Json)) : Reply :=
  let source := (stringOf? fields "source").getD ""
  if isTooLarge settings source then refusal 413 "Source too large"
  else
    match repairText source (nameOf fields) (stringsOf fields "types") with
    | .error _ => mishap
    | .ok r => sent 200 <| .obj [
        ("score", .int r.analysis.score),
        ("issues", .arr (r.analysis.issues.map Issue.json)),
        ("previews", .arr (r.previews.map Preview.json)),
        ("applied_fixes", .arr (r.repaired.ledger.map LedgerEntry.json)),
        ("transformed_code", .str r.repaired.text),
        ("changed", .bool r.repaired.changed)]

/-- Whether the parts that the service needs work. -/
def isReady : Bool :=
  match Script.parse "const ok = true;" with
  | .ok (.ok _) => true
  | _ => false

/-- The path of a request without what stands behind a question mark. -/
def pathOf (target : Text) : Text :=
  target.takeWhile fun (c : CodePoint) => c != '?' && c != '#'

/-- The path with a slash at its end, or without any if it has some. -/
def otherPath (path : Text) : Text :=
  if path.getLast? == some '/' then Text.dropEndWhile (· == '/') path
  else path ++ "/"

/-- The path that a request is led to: its own if it is known, else the one that differs in
slashes at the end. -/
def routed? (path : Text) : Option Text :=
  let isKnown (p : Text) : Bool := routes.any (·.1 == p)
  if isKnown path then some path
  else if path != "/" && isKnown (otherPath path) then some (otherPath path)
  else none

/-- The answer to a body that is not taken. -/
def rejection : BodyRejection → Reply
  | .faults l => .unacceptable l
  | .unreadable => refusal 400 "There was an error parsing the body"

/-- The answer of an endpoint, made at the given time. -/
def answer (w : Workspace) (setting : Text) (settings : Settings) (time : Text) (body : Body) :
    Endpoint → Reply
  | .about => .document 200 <| .obj [
      ("name", .str "ProdReady API"),
      ("version", .str Command.version),
      ("docs", .str (if settings.debug then "/docs" else "disabled"))]
  | .health => .document 200 (.obj [("status", .str "ok"), ("version", .str Command.version)])
  | .readiness => .document 200 (.obj [("status", .str (if isReady then "ready" else "degraded"))])
  | .scanProject =>
    match body.fields [("repo_path", .text), ("category", .maybeText)] with
    | .ok fields => scanProject w setting time fields
    | .error r => rejection r
  | .scanSource =>
    match body.fields [("source", .text), ("filename", .defaultText), ("category", .maybeText)] with
    | .ok fields => scanSource settings time fields
    | .error r => rejection r
  | .previewFixes =>
    match body.fields [("source", .text), ("filename", .defaultText), ("types", .maybeTexts)] with
    | .ok fields => previewFixes settings fields
    | .error r => rejection r

/-- Answers a request. -/
def handle (w : Workspace) (setting : Text) (settings : Settings) (time : Text)
    (method target : Text) (body : Body) : Reply :=
  match routed? (pathOf target) with
  | none => refusal 404 "Not Found"
  | some path =>
    match routes.find? fun (p, m, _) => p == path && m == method with
    | some (_, _, endpoint) => answer w setting settings time body endpoint
    | none => refusal 405 "Method Not Allowed"

end Readiness.Service
