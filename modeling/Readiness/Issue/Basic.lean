import Readiness.Json.Shown

/-!
# Issues

An issue is one detected defect: what kind it is, how bad, where, and what to tell about it. The
facts that a detector notes with an issue are for the repair and are not part of its public form.
-/

namespace Readiness

/-- How bad an issue is, worst first. -/
inductive Severity where
  | critical
  | high
  | medium
  | low
deriving DecidableEq, Repr, Inhabited

namespace Severity

/-- All severities, worst first. -/
def all : List Severity := [.critical, .high, .medium, .low]

/-- The word for a severity. -/
def name : Severity → Text
  | .critical => "critical"
  | .high => "high"
  | .medium => "medium"
  | .low => "low"

/-- The place of a severity among all of them, worst first. -/
def rank : Severity → Nat
  | .critical => 0
  | .high => 1
  | .medium => 2
  | .low => 3

/-- The severity of a word. -/
def ofName? (s : Text) : Option Severity := all.find? (·.name == s)

end Severity

/-- What an issue endangers. -/
inductive Category where
  | security
  | reliability
  | performance
  | observability
  | maintainability
  | operational
deriving DecidableEq, Repr, Inhabited

namespace Category

/-- All categories. -/
def all : List Category :=
  [.security, .reliability, .performance, .observability, .maintainability, .operational]

/-- The word for a category. -/
def name : Category → Text
  | .security => "security"
  | .reliability => "reliability"
  | .performance => "performance"
  | .observability => "observability"
  | .maintainability => "maintainability"
  | .operational => "operational"

/-- The category of a word. -/
def ofName? (s : Text) : Option Category := all.find? (·.name == s)

end Category

/-! The kinds of issues, by name. -/
namespace IssueType

/-- A query whose text is built from values. -/
def sqlInjection : Text := "sql-injection"

/-- An asynchronous function that lets errors pass. -/
def noErrorHandling : Text := "no-error-handling"

/-- A promise chain that lets rejections pass. -/
def unhandledPromise : Text := "unhandled-promise"

/-- A credential in the source text. -/
def hardcodedSecret : Text := "hardcoded-secret"

/-- A file that cannot be parsed. -/
def parseError : Text := "parse-error"

/-- The kinds that can be repaired, in alphabetical order. -/
def fixable : List Text := [hardcodedSecret, noErrorHandling, sqlInjection, unhandledPromise]

/-- The kinds that cannot be repaired. -/
def unfixable : List Text := [parseError]

/-- Whether a kind is one of the library's. -/
def isKnown (type : Text) : Bool := fixable.contains type || unfixable.contains type

end IssueType

namespace Issue

/-- Why an issue cannot be made from what was given. -/
inductive Fault where
  | negativeLine (line : Int)
  | unknownSeverity (given : Json)
  | unknownCategory (given : Json)
  | unknownType (given : Json)
  /-- A list or an object where a type belongs. -/
  | compoundType (isList : Bool)

/-- The words for a fault. -/
def Fault.message : Fault → Text
  | .negativeLine n => "line must be >= 0, got " ++ toString n
  | .unknownSeverity v => "invalid severity: " ++ v.shown
  | .unknownCategory v => "invalid category: " ++ v.shown
  | .unknownType v => "issue type " ++ v.shown ++ " is neither fixable nor declared unfixable"
  | .compoundType true => "unhashable type: 'list'"
  | .compoundType false => "unhashable type: 'dict'"

end Issue

/-- Where an issue is. Lines count from one; line zero stands for the file as a whole. -/
structure Location where
  file : Text
  line : Nat
  column : Option Int
deriving Inhabited

/-- The location at a line of a file. No line comes before line zero. -/
def Location.ofLine (file : Text) (line : Int) (column : Option Int) :
    Except Issue.Fault Location :=
  if line < 0 then .error (.negativeLine line) else .ok ⟨file, line.toNat, column⟩

/-- One detected defect. Its type is one of the library's: there are no other issues. -/
structure Issue where
  id : Text
  type : Text
  severity : Severity
  category : Category
  location : Location
  message : Text
  impact : Text
  education : Text
  /-- What a repair would do, where there is one. -/
  fix : Option Text
  /-- What the detector noted for the repair. -/
  facts : List (Text × Json)
  fingerprint : Text
  known : IssueType.isKnown type = true

namespace Issue

/-- The file of an issue. -/
def file (i : Issue) : Text := i.location.file

/-- The line of an issue. -/
def line (i : Issue) : Nat := i.location.line

/-- The column of an issue. -/
def column (i : Issue) : Option Int := i.location.column

/-- The column by which issues are ordered: zero where there is none. -/
def orderColumn (i : Issue) : Int := i.location.column.getD 0

/-- A fact that the detector noted. -/
def fact? (i : Issue) (key : Text) : Option Json := i.facts.lookup key

/-- The parts of an issue as they are given, before any check. What has to be one of a few words may
be any value. -/
structure Draft where
  id : Text
  type : Json
  severity : Json
  category : Json
  file : Text
  line : Int
  column : Option Int
  message : Text
  impact : Text
  education : Text
  fix : Option Text
  facts : List (Text × Json)
  fingerprint : Text

/-- The type that a value names. -/
def typeOf : Json → Except Fault {type : Text // IssueType.isKnown type = true}
  | .str s =>
    if known : IssueType.isKnown s = true then .ok ⟨s, known⟩ else .error (.unknownType (.str s))
  | .arr _ => .error (.compoundType true)
  | .obj _ => .error (.compoundType false)
  | v => .error (.unknownType v)

/-- The issue of a draft. The line is checked first, then the severity, the category and the
type. -/
def ofDraft (d : Draft) : Except Fault Issue := do
  let location ← Location.ofLine d.file d.line d.column
  let some severity := d.severity.str?.bind Severity.ofName? | throw (.unknownSeverity d.severity)
  let some category := d.category.str?.bind Category.ofName? | throw (.unknownCategory d.category)
  let type ← typeOf d.type
  return {
    id := d.id, type := type.val, severity, category, location,
    message := d.message, impact := d.impact, education := d.education, fix := d.fix,
    facts := d.facts, fingerprint := d.fingerprint, known := type.property }

/-- The issue at another line of its file, made anew: its line and its type are checked again. -/
def atLine (i : Issue) (line : Int) : Except Fault Issue := do
  let location ← Location.ofLine i.file line i.column
  let type ← typeOf (.str i.type)
  return { i with type := type.val, location, known := type.property }

/-- The public form of an issue. -/
def fields (i : Issue) : List (Text × Json) := [
  ("id", .str i.id),
  ("type", .str i.type),
  ("severity", .str i.severity.name),
  ("category", .str i.category.name),
  ("file", .str i.file),
  ("line", Json.nat i.line),
  ("column", (i.column.map Json.int).getD .null),
  ("message", .str i.message),
  ("impact", .str i.impact),
  ("educationalContent", .str i.education),
  ("fix", (i.fix.map fun d => Json.obj [("description", .str d)]).getD .null),
  ("fingerprint", .str i.fingerprint)]

/-- An issue as a document. -/
def json (i : Issue) : Json := .obj i.fields

end Issue

end Readiness
