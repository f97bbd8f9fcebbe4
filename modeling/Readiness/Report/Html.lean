import Readiness.Report.Basic

/-!
# Reports as pages

A page that stands on its own. Every text that comes from a scanned project is escaped, so that no
text can add to the markup.
-/

namespace Readiness.Report

/-- A character of a text inside the markup. -/
def escapeChar (c : CodePoint) : Text :=
  match c with
  | .char '&' => "&amp;"
  | .char '<' => "&lt;"
  | .char '>' => "&gt;"
  | .char '"' => "&quot;"
  | .char '\'' => "&#x27;"
  | c => [c]

/-- A text inside the markup. -/
def escape (s : Text) : Text := s.flatMap escapeChar

/-- The colour of a severity. -/
def severityColor : Severity → Text
  | .critical => "#dc3545"
  | .high => "#fd7e14"
  | .medium => "#ffc107"
  | .low => "#17a2b8"

/-- The colour of a tier. -/
def tierColor : Tier → Text
  | .green => "#28a745"
  | .yellow => "#ffc107"
  | .red => "#dc3545"

/-- The badge of a severity. -/
def badge (s : Severity) : Text :=
  "<span class=\"badge\" style=\"background:" ++ severityColor s ++ "\">" ++ Text.upper s.name ++
    "</span>"

/-- A labelled line of the summary. -/
def summaryLine (label : Text) (value : Text) : Text :=
  "<p><strong>" ++ label ++ ":</strong> " ++ value ++ "</p>"

/-- The summary. -/
def summary (a : Analysis) : List Text :=
  let counts : List Text :=
    ["<h1>Production Readiness Report</h1>",
     "<div class=\"summary\">",
     "<div class=\"score\">" ++ toString a.score ++ "/100</div>",
     "<div class=\"score-bar\"><div class=\"score-fill\"></div></div>",
     summaryLine "Tier" (Text.upper (tierOf a.score).name),
     summaryLine "Issues" (toString a.issues.length),
     summaryLine "Files scanned" (toString a.files.length)]
  let framework : List Text :=
    match a.context.framework with
    | some f => if f.isEmpty then [] else [summaryLine "Framework" (escape f)]
    | none => []
  counts ++ framework.concat "</div>"

/-- A row of the table of severities, if there are issues of the severity. -/
def severityRow? (a : Analysis) (s : Severity) : Option Text :=
  let n := a.issues.countP (·.severity == s)
  if n = 0 then none
  else some ("<tr><td>" ++ badge s ++ "</td><td>" ++ toString n ++ "</td></tr>")

/-- The tables of severities and categories. -/
def tables (a : Analysis) : List Text :=
  if a.issues.isEmpty then []
  else
    let categories : List Text := a.byCategory.map fun (c, n) =>
      "<tr><td>" ++ escape c ++ "</td><td>" ++ toString n ++ "</td></tr>"
    let bySeverity : List Text :=
      "<h2>Severity Breakdown</h2>" :: "<table><tr><th>Severity</th><th>Count</th></tr>" ::
        (Severity.all.filterMap (severityRow? a)).concat "</table>"
    let byCategory : List Text :=
      "<h2>Categories</h2>" :: "<table><tr><th>Category</th><th>Count</th></tr>" ::
        categories.concat "</table>"
    bySeverity ++ byCategory

/-- An issue. -/
def issueBlock (i : Issue) : Text :=
  let impact : Text :=
    if i.impact.isEmpty then [] else "<div class=\"impact\">" ++ escape i.impact ++ "</div>"
  "<div class=\"issue\">" ++ badge i.severity ++ " <code>" ++ escape (place i) ++
    "</code> &mdash; " ++ escape i.message ++ impact ++ "</div>"

/-- The issues that are listed. -/
def issueBlocks (listed : List Issue) : List Text :=
  if listed.isEmpty then []
  else ("<h2>Top " ++ toString listed.length ++ " Issues</h2>" : Text) :: listed.map issueBlock

/-- What to do next. -/
def nextSteps (a : Analysis) : List Text :=
  match recommendations a with
  | [] => []
  | rs =>
    let items : List Text := rs.map fun r => "<li>" ++ escape r ++ "</li>"
    "<h2>Recommendations</h2>" :: "<ul>" :: items.concat "</ul>"

/-- What to learn, by kind of issue. -/
def lessons (a : Analysis) : List Text :=
  match (education a).mergeSort fun x y => decide (x.1 ≤ y.1) with
  | [] => []
  | es =>
    let entries : List Text := es.map fun (t, e) =>
      "<dt><code>" ++ escape t ++ "</code></dt><dd>" ++ escape e ++ "</dd>"
    "<h2>Learn More</h2>" :: "<dl>" :: entries.concat "</dl>"

/-- The head of the page up to its body. -/
def pageHead (score color : Text) : Text :=
  "<!DOCTYPE html>\n<html lang=\"en\">\n<head>\n<meta charset=\"utf-8\">\n" ++
  "<meta name=\"viewport\" content=\"width=device-width, initial-scale=1.0\">\n" ++
  "<title>ProdReady Report - Score: " ++ score ++ "/100</title>\n<style>\n" ++
  "  body \x7b font-family: -apple-system, BlinkMacSystemFont, 'Segoe UI', Roboto, sans-serif; " ++
  "margin: 2rem; color: #212529; \x7d\n" ++
  "  h1 \x7b color: #343a40; \x7d\n" ++
  "  .summary \x7b background: #f8f9fa; padding: 1rem; border-radius: 6px; " ++
  "margin-bottom: 1.5rem; \x7d\n" ++
  "  .score \x7b font-size: 3rem; font-weight: 700; color: " ++ color ++ "; \x7d\n" ++
  "  .score-bar \x7b width: 100%; height: 16px; background: #e0e0e0; border-radius: 8px; " ++
  "overflow: hidden; \x7d\n" ++
  "  .score-fill \x7b height: 100%; width: " ++ score ++ "%; background: " ++ color ++ "; \x7d\n" ++
  "  .badge \x7b display: inline-block; padding: 2px 8px; border-radius: 4px; color: #fff; " ++
  "font-size: 0.85em; font-weight: 600; \x7d\n" ++
  "  table \x7b border-collapse: collapse; width: 100%; margin-bottom: 1.5rem; \x7d\n" ++
  "  th, td \x7b text-align: left; padding: 6px 12px; border-bottom: 1px solid #dee2e6; \x7d\n" ++
  "  th \x7b background: #e9ecef; \x7d\n" ++
  "  .issue \x7b margin-bottom: 0.75rem; \x7d\n" ++
  "  .impact \x7b color: #6c757d; font-size: 0.9em; \x7d\n" ++
  "  footer \x7b margin-top: 2rem; color: #6c757d; font-size: 0.85em; \x7d\n" ++
  "</style>\n</head>\n<body>\n"

/-- The lines of the page's body. -/
def pageBody (now : Text) (n : Int) (a : Analysis) : List Text :=
  summary a ++ tables a ++ issueBlocks (top a n) ++ nextSteps a ++ lessons a ++
    ["<footer>Generated by " ++ signature ++ " &bull; " ++ now ++ "</footer>"]

/-- The report as a page, made at the time `now`, with the first `n` issues. -/
def html (now : Text) (n : Int) (a : Analysis) : Text :=
  pageHead (toString a.score) (tierColor (tierOf a.score)) ++
    Text.join "\n" (pageBody now n a) ++ "\n</body>\n</html>\n"

end Readiness.Report
