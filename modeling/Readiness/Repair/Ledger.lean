import Readiness.Json.Basic
import Readiness.Text.Basic

/-!
# Ledgers

What became of each issue that was to be repaired, and what a repair would do.
-/

namespace Readiness

/-- What became of one issue. -/
structure LedgerEntry where
  issueId : Text
  success : Bool
  error : Option Text := none
  diff : Option Text := none
  explanation : Text := ""

namespace LedgerEntry

/-- The fields of an entry; what is absent is left out. -/
def fields (e : LedgerEntry) : List (Text × Json) :=
  ("issueId", .str e.issueId) :: ("success", .bool e.success) ::
    (Json.stringField "error" e.error ++ Json.stringField "diff" e.diff ++
      (if e.explanation.isEmpty then [] else Json.stringField "explanation" e.explanation))

/-- An entry as a document. -/
def json (e : LedgerEntry) : Json := .obj e.fields

/-- An issue that was not repaired, and why. -/
def failed (issueId error : Text) : LedgerEntry :=
  { issueId, success := false, error := some error }

end LedgerEntry

/-- What the repair of one issue would do. -/
structure Preview where
  issueId : Text
  canFix : Bool
  before : Text := []
  after : Text := []
  diff : Text := []
  explanation : Text := ""
  error : Option Text := none

namespace Preview

/-- A preview as a document. -/
def json (p : Preview) : Json := .obj <|
  ("issueId", .str p.issueId) ::
  ("canFix", .bool p.canFix) ::
  ("original", .str p.before) ::
  ("fixed", .str p.after) ::
  ("diff", .str p.diff) ::
  ("explanation", .str p.explanation) ::
  Json.stringField "error" p.error

/-- An issue that cannot be repaired, and why. -/
def failed (issueId error : Text) : Preview := { issueId, canFix := false, error := some error }

end Preview

/-- A text after its repairs, with what became of each issue. -/
structure Repaired where
  text : Text
  ledger : List LedgerEntry

/-- Whether some issue was repaired. -/
def Repaired.changed (r : Repaired) : Bool := r.ledger.any (·.success)

/-- The ledger of a project, with the texts of the files that were repaired. -/
structure ProjectLedger where
  entries : List LedgerEntry
  files : List (Text × Text)

namespace ProjectLedger

/-- How many issues were repaired. -/
def successful (l : ProjectLedger) : Nat := l.entries.countP (·.success)

/-- How many issues were not repaired. -/
def failed (l : ProjectLedger) : Nat := l.entries.length - l.successful

/-- The files by name. -/
def sortedFiles (l : ProjectLedger) : List (Text × Text) :=
  l.files.mergeSort fun a b => decide (a.1 ≤ b.1)

/-- The ledger as a document. -/
def json (l : ProjectLedger) : Json := .obj [
  ("appliedFixes", .arr (l.entries.map LedgerEntry.json)),
  ("transformedFiles", .obj (l.sortedFiles.map fun (f, t) => (f, .str t))),
  ("summary", .obj [
    ("total", Json.nat l.entries.length),
    ("successful", Json.nat l.successful),
    ("failed", Json.nat l.failed)])]

end ProjectLedger

end Readiness
