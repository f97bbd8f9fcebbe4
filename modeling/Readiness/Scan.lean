import Readiness.Analysis
import Readiness.Context.File
import Readiness.Detect.Query
import Readiness.Detect.Rejection
import Readiness.Detect.Secret

/-!
# Scanning

All detectors over one script. The issues are listed by line, column and kind; a detector that
fails on a script is left out for it. A text that cannot be parsed has one issue that says so.
-/

namespace Readiness

/-- The detectors, in the order in which they run; the given wrappers catch errors besides the
standard ones. -/
def detectors (wrappers : List Text) : List Detector :=
  [Query.detector, Rejection.detector wrappers, Secret.detector]

/-- Whether a detector runs when only one category is asked for. -/
def Detector.isWanted (d : Detector) (category : Option Category) : Bool :=
  match category with
  | none => true
  | some c => d.category == c

/-- The issues that a detector finds in a script, none if it fails. -/
def Detector.findings (d : Detector) (s : Script) (context : Context) (file : Text) :
    List Issue :=
  match d.detect s context file with
  | .ok issues => issues
  | .error _ => []

/-- The issues of a script that the detectors find, one detector after the other. -/
def Script.findings (s : Script) (ds : List Detector) (category : Option Category)
    (context : Readiness.Context) (file : Text) : List Issue :=
  if isExamined file then
    (ds.filter (·.isWanted category)).flatMap fun d => d.findings s context file
  else []

/-- Whether an issue is listed before another, or may be: by line, column and kind. -/
def Issue.listedFirst (a b : Issue) : Bool :=
  if a.line ≠ b.line then a.line < b.line
  else if a.orderColumn ≠ b.orderColumn then a.orderColumn < b.orderColumn
  else a.type ≤ b.type

/-- The issues in the order in which they are listed. -/
def Issue.listed (issues : List Issue) : List Issue := issues.mergeSort Issue.listedFirst

/-- The issue of a file that cannot be parsed. -/
def parseErrorIssue (file reason : Text) : Except Breakdown Issue := do
  return {
    id := IssueType.parseError ++ ":" ++ file
    type := IssueType.parseError
    severity := .high
    category := .reliability
    location := ⟨file, 0, none⟩
    message := "Failed to parse file: " ++ reason
    impact := "The file could not be analyzed, so issues in it are not reported"
    education := ""
    fix := none
    facts := []
    fingerprint := ← fingerprint IssueType.parseError file 0 reason
    known := by decide }

/-- A word that is no category. -/
structure UnknownCategory where
  given : Text

/-- The words for a word that is no category. -/
def UnknownCategory.message (e : UnknownCategory) : Text :=
  quoted e.given ++ " is not a valid Category"

/-- The category that is asked for, if one is. -/
def Category.wanted (given : Option Text) : Except UnknownCategory (Option Category) :=
  match given with
  | none => .ok none
  | some s =>
    match Category.ofName? s with
    | some c => .ok (some c)
    | none => .error ⟨s⟩

/-- The result for the issues of files, which are numbered in the given order. -/
def Analysis.of (issues : List Issue) (files : List Text) (context : Context) : Analysis :=
  let numbered := Issue.numbered issues
  ⟨Readiness.score numbered, numbered, files, context⟩

/-- The result for a script under the name of a file: its issues of one category, or all. -/
def Script.analysis (s : Script) (category : Option Category) (file : Text) : Analysis :=
  let project : Readiness.Context := { routes := s.routes file }
  let found := s.findings (detectors []) category (project.forFile (some s) file) file
  Analysis.of (Issue.listed found) [file] project

/-- The result for a text that cannot be parsed. -/
def unparsedAnalysis (file : Text) (failure : Script.Failure) : Except Breakdown Analysis := do
  return Analysis.of [← parseErrorIssue file failure.message] [file] {}

/-- Scans a text under the name of a file for issues of one category, or of all. -/
def scanTextFor (category : Option Category) (t : Text) (file : Text) :
    Except Breakdown Analysis := do
  match ← Script.parse t with
  | .error failure => unparsedAnalysis file failure
  | .ok s => return s.analysis category file

/-- Why a text could not be scanned. -/
inductive ScanFault where
  | category (fault : UnknownCategory)
  | breakdown (b : Breakdown)

/-- The words of a fault. -/
def ScanFault.message : ScanFault → Text
  | .category f => f.message
  | .breakdown b => b.message

/-- Scans a text under the name of a file. A wrong category is complained about only if the text
can be parsed. -/
def scanText (t : Text) (file : Text) (category : Option Text) : Except ScanFault Analysis := do
  match ← (Script.parse t).mapError .breakdown with
  | .error failure => (unparsedAnalysis file failure).mapError .breakdown
  | .ok s => return s.analysis (← (Category.wanted category).mapError .category) file

end Readiness
