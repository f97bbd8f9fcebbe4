import Readiness.Analysis
import Readiness.Text.Case

/-!
# What reports tell

The parts that reports of every format share: what to do next, what to learn, and which issues come
first.
-/

namespace Readiness.Report

/-- The program and its version, as reports name them. -/
def signature : Text := "prodready 0.3.0"

/-- How many issues of a category there are. -/
def countOf (a : Analysis) (c : Category) : Nat := a.issues.countP (·.category == c)

/-- What to do next, by the mix of severities and categories. -/
def recommendations (a : Analysis) : List Text :=
  let rules : List (Bool × Text) := [
    (a.issues.any (·.severity == .critical), "Fix critical security issues immediately"),
    (5 < countOf a .security, "Consider a security audit"),
    (10 < countOf a .reliability, "Improve error handling across the application"),
    (a.score < 50, "Consider refactoring to improve code quality")]
  rules.filterMap fun (applies, advice) => if applies then some advice else none

/-- What to learn: for each kind of issue, the first thing that an issue of the kind has to say. -/
def education (a : Analysis) : List (Text × Text) :=
  a.issues.foldl (fun found i =>
    if i.education.isEmpty || found.any (·.1 == i.type) then found
    else found ++ [(i.type, i.education)]) []

/-- Whether an issue comes before another in a report, or may: by severity, file and line. -/
def comesFirst (a b : Issue) : Bool :=
  if a.severity ≠ b.severity then a.severity.rank < b.severity.rank
  else if a.file ≠ b.file then a.file < b.file
  else a.line ≤ b.line

/-- The first items of a list; a negative number leaves out as many at the end. -/
def first {α : Type} (n : Int) (l : List α) : List α :=
  if 0 ≤ n then l.take n.toNat else l.take (l.length - n.natAbs)

/-- The issues that a report lists. -/
def top (a : Analysis) (n : Int) : List Issue := first n (a.issues.mergeSort comesFirst)

/-- Where an issue is, in a report. -/
def place (i : Issue) : Text := i.file ++ ":" ++ toString i.line

/-- The report as a document. -/
def json (a : Analysis) : Json := .obj [
  ("summary", .obj [
    ("score", .int a.score),
    ("tier", .str (tierOf a.score).name),
    ("totalIssues", Json.nat a.issues.length),
    ("byCategory", Analysis.countsJson a.byCategory),
    ("bySeverity", Analysis.countsJson a.bySeverity)]),
  ("issues", .arr (a.issues.map fun i => .obj [
    ("type", .str i.type),
    ("severity", .str i.severity.name),
    ("category", .str i.category.name),
    ("message", .str i.message),
    ("file", .str i.file),
    ("line", Json.nat i.line),
    ("impact", .str i.impact)])),
  ("files", Json.strings a.files),
  ("recommendations", Json.strings (recommendations a)),
  ("education", .obj ((education a).map fun (t, e) => (t, .str e)))]

end Readiness.Report
