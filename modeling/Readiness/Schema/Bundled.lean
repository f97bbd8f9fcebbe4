import Readiness.Issue.Basic
import Readiness.Schema.Validate
import Readiness.Score

/-!
# The bundled schemas

What the documents of the library look like: the result of a scan and the ledger of a repair.
-/

namespace Readiness.Schema

/-- Values of one kind. -/
def kind (k : ValueKind) : Schema := .all [.kind [k]]

/-- Natural numbers. -/
def natural : Schema := .all [.kind [.integer], .atLeast 0]

/-- The severities. -/
def severity : Schema := .all [.oneOfWords (Severity.all.map (·.name))]

/-- The categories. -/
def category : Schema := .all [.oneOfWords (Category.all.map (·.name))]

/-- Strings that are not empty. -/
def nonEmptyString : Schema := .all [.kind [.string], .nonEmpty]

/-- Issues. -/
def issue : Schema := .all [
  .kind [.object],
  .required ["id", "type", "severity", "category", "file", "line", "message"],
  .fields [
    ("id", nonEmptyString),
    ("type", nonEmptyString),
    ("severity", severity),
    ("category", category),
    ("file", kind .string),
    ("line", natural),
    ("column", .all [.kind [.integer, .null], .atLeast 0]),
    ("message", kind .string),
    ("impact", kind .string),
    ("educationalContent", kind .string),
    ("fix", .all [.oneOf [
      kind .null,
      .all [
        .kind [.object],
        .required ["description"],
        .fields [("description", kind .string)]]]]),
    ("fingerprint", kind .string)]]

/-- Routes. -/
def route : Schema := .all [
  .kind [.object],
  .required ["method", "path"],
  .fields [
    ("method", kind .string),
    ("path", kind .string),
    ("handler", kind .string),
    ("file", kind .string),
    ("line", natural)]]

/-- Contexts. -/
def context : Schema := .all [
  .kind [.object],
  .required ["projectType", "dependencies", "routes"],
  .fields [
    ("projectType", kind .string),
    ("framework", .all [.kind [.string, .null]]),
    ("dependencies", .all [.kind [.array], .items (kind .string)]),
    ("routes", .all [.kind [.array], .items route]),
    ("isPaymentCode", kind .boolean),
    ("isAuthenticationCode", kind .boolean),
    ("hasUserData", kind .boolean)]]

/-- Results of scans. -/
def analysis : Schema := .all [
  .kind [.object],
  .required ["score", "tier", "issues", "totalIssues", "byCategory", "bySeverity", "files",
    "context"],
  .noOtherFields,
  .fields [
    ("score", .all [.kind [.integer], .atLeast 0, .atMost 100]),
    ("tier", .all [.oneOfWords ["green", "yellow", "red"]]),
    ("issues", .all [.kind [.array], .items issue]),
    ("totalIssues", natural),
    ("byCategory", .all [
      .kind [.object],
      .fieldNames category,
      .otherFields (.all [.kind [.integer], .atLeast 1])]),
    ("bySeverity", .all [
      .kind [.object],
      .required ["critical", "high", "medium", "low"],
      .noOtherFields,
      .fields [
        ("critical", natural),
        ("high", natural),
        ("medium", natural),
        ("low", natural)]]),
    ("files", .all [.kind [.array], .items (kind .string)]),
    ("context", context)]]

/-- What the entries of ledgers may have. -/
def entryFields : List (Text × Schema) := [
  ("issueId", nonEmptyString),
  ("success", kind .boolean),
  ("error", kind .string),
  ("diff", kind .string),
  ("explanation", kind .string)]

/-- Entries of ledgers: one that failed tells why. -/
def ledgerEntry : Schema := .all [
  .kind [.object],
  .required ["issueId", "success"],
  .noOtherFields,
  .fields entryFields,
  .ifThen (.all [.fields [("success", .all [.isBoolean false])]]) (.all [.required ["error"]])]

/-- Ledgers of repairs. -/
def ledger : Schema := .all [
  .kind [.object],
  .required ["appliedFixes", "transformedFiles", "summary"],
  .noOtherFields,
  .fields [
    ("appliedFixes", .all [.kind [.array], .items ledgerEntry]),
    ("transformedFiles", .all [.kind [.object], .otherFields (kind .string)]),
    ("summary", .all [
      .kind [.object],
      .required ["total", "successful", "failed"],
      .noOtherFields,
      .fields [("total", natural), ("successful", natural), ("failed", natural)]])]]

/-- The bundled schemas by name, in alphabetical order. -/
def bundled : List (Text × Schema) :=
  [("analysis_result.schema.json", analysis), ("fix_result.schema.json", ledger)]

/-- Why a document was not accepted. -/
inductive Rejected where
  | unknownSchema (name : Text)
  | invalid (failing : Failing)

/-- The words for a document that was not accepted. -/
def Rejected.message : Rejected → Text
  | .unknownSchema name => "unknown schema: " ++ name
  | .invalid f => f.message

/-- Checks a document against a bundled schema. -/
def validate (document : Json) (name : Text) : Except Rejected Unit :=
  match bundled.lookup name with
  | none => .error (.unknownSchema name)
  | some s =>
    match s.check document with
    | some f => .error (.invalid f)
    | none => .ok ()

end Readiness.Schema
