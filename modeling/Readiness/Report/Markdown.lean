import Readiness.Report.Basic

/-!
# Reports in Markdown

A short summary for people, with a table of severities and the first issues.
-/

namespace Readiness.Report

/-- The lines of the table of severities. -/
def severityRows (a : Analysis) : List Text :=
  a.bySeverity.filterMap fun (name, n) =>
    if n = 0 then none else some ("| " ++ Text.upper name ++ " | " ++ toString n ++ " |")

/-- The line of an issue, numbered from one. -/
def issueLine (number : Nat) (i : Issue) : Text :=
  toString number ++ ". **[" ++ Text.upper i.severity.name ++ "]** `" ++ place i ++ "` — " ++ i.message

/-- The report in Markdown, made at the time `now`, with the first `n` issues. -/
def markdown (now : Text) (n : Int) (a : Analysis) : Text :=
  let listed := top a n
  let heading : List Text := [
    "# Production Readiness Report",
    "",
    "**Generated:** " ++ now ++ "  ",
    "**Score:** " ++ toString a.score ++ "/100  ",
    "**Tier:** " ++ Text.upper (tierOf a.score).name ++ "  ",
    "**Issues:** " ++ toString a.issues.length,
    ""]
  let severities : List Text :=
    if a.issues.isEmpty then []
    else
      "## By Severity" :: "" :: "| Severity | Count |" :: "|----------|------:|" ::
        (severityRows a).concat ""
  let issues : List Text :=
    if listed.isEmpty then []
    else
      let lines : List Text := (listed.zipIdx 1).map fun (i, k) => issueLine k i
      ("## Top " ++ toString listed.length ++ " Issues" : Text) :: "" :: lines.concat ""
  let next : List Text :=
    match recommendations a with
    | [] => []
    | rs =>
      let items : List Text := rs.map fun r => "- " ++ r
      "## Recommendations" :: "" :: items.concat ""
  let foot : List Text := ["---", "*Generated by " ++ signature ++ "*", ""]
  Text.join "\n" (heading ++ severities ++ issues ++ next ++ foot)

end Readiness.Report
