import Readiness.Json.Write
import Readiness.Report.Html
import Readiness.Report.Markdown

/-!
# Reports

The result of a scan in one of three formats.
-/

namespace Readiness.Report

/-- The formats of reports. -/
inductive Format where
  | json
  | markdown
  | html
deriving DecidableEq

/-- A word that is no format. -/
structure UnknownFormat where
  given : Text

/-- The words for a word that is no format. -/
def UnknownFormat.message (e : UnknownFormat) : Text :=
  "Unknown export format: " ++ quoted e.given ++ " (use json|markdown|html)"

/-- The format of a word. -/
def Format.ofName (s : Text) : Except UnknownFormat Format :=
  if s == "json" then .ok .json
  else if s == "markdown" || s == "md" then .ok .markdown
  else if s == "html" then .ok .html
  else .error ⟨s⟩

/-- How many issues a report of a format lists unless it is told otherwise. -/
def Format.listed : Format → Int
  | .json => 0
  | .markdown => 20
  | .html => 50

/-- The report of a result, made at the time `now`, with the first `n` issues. -/
def render (format : Format) (now : Text) (n : Int) (a : Analysis) : Text :=
  match format with
  | .json => Json.canonical (some 2) true (json a)
  | .markdown => markdown now n a
  | .html => html now n a

end Readiness.Report
