import Readiness.Context.Basic
import Readiness.Score

/-!
# The result of a scan

The issues of the files that were looked at, numbered, with the score and what was learned about
the project.
-/

namespace Readiness

/-- The issues with the ids `type-1`, `type-2`, … for each kind, in the given order; `seen` holds
the kinds of the issues before. -/
def Issue.numberedAfter (seen : List Text) : List Issue → List Issue
  | [] => []
  | i :: more =>
    let seen := i.type :: seen
    { i with id := i.type ++ "-" ++ toString (seen.count i.type) } :: numberedAfter seen more

/-- The issues, numbered for each kind in the given order. -/
def Issue.numbered (issues : List Issue) : List Issue := numberedAfter [] issues

/-- The result of a scan. -/
structure Analysis where
  score : Int
  issues : List Issue
  files : List Text
  context : Context

namespace Analysis

/-- How many issues each category has, without the categories that have none. -/
def byCategory (a : Analysis) : List (Text × Nat) :=
  Category.all.filterMap fun c =>
    let n := a.issues.countP (·.category == c)
    if n = 0 then none else some (c.name, n)

/-- How many issues each severity has. -/
def bySeverity (a : Analysis) : List (Text × Nat) :=
  Severity.all.map fun s => (s.name, a.issues.countP (·.severity == s))

/-- The issues of a file. -/
def issuesFor (a : Analysis) (file : Text) : List Issue := a.issues.filter (·.file == file)

/-- Counts as a document. -/
def countsJson (counts : List (Text × Nat)) : Json :=
  .obj (counts.map fun (k, n) => (k, Json.nat n))

/-- The result as a document, with the given form for each issue. -/
def jsonWith (a : Analysis) (issue : Issue → Json) : Json := .obj [
  ("score", .int a.score),
  ("tier", .str (tierOf a.score).name),
  ("issues", .arr (a.issues.map issue)),
  ("totalIssues", Json.nat a.issues.length),
  ("byCategory", countsJson a.byCategory),
  ("bySeverity", countsJson a.bySeverity),
  ("files", Json.strings a.files),
  ("context", a.context.json)]

/-- The result as a document. -/
def json (a : Analysis) : Json := a.jsonWith Issue.json

end Analysis

end Readiness
