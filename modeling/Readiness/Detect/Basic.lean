import Readiness.Context.Basic
import Readiness.Issue.Fingerprint
import Readiness.Script.Destination
import Readiness.Text.Pattern

/-!
# Detectors

A detector looks at a parsed script in its context and lists the issues it finds. It looks only at
scripts that are not tests.
-/

namespace Readiness

/-- Looks for one kind of defect. -/
structure Detector where
  id : Text
  category : Category
  /-- The issues of a script in a context, under the name of its file. -/
  detect : Script → Context → Text → Except Breakdown (List Issue)

/-- The endings of script files. -/
def scriptEndings : List Text := ["js", "jsx", "mjs", "cjs", "ts", "tsx"]

/-- Whether a file is a script, by its name. -/
def isSourceFile (file : Text) : Bool :=
  (Pattern.chain [.text ".", .words scriptEndings, .atEnd]).occursIn (Text.fold file)

/-- Whether a file is a test, by its name or by the folder it lies in. -/
def isTestFile (file : Text) : Bool :=
  let isSlash (c : CodePoint) : Bool := c == '/' || c == '\\'
  let folder := Pattern.seq (.text "__tests__") (.one isSlash)
  let marked := Pattern.chain
    [.words [".test.", ".spec."], .atLeast 1 fun c => !isSlash c, .atEnd]
  let t := file
  marked.occursIn t || folder.startsText t || (Pattern.seq (.one isSlash) folder).occursIn t

/-- Whether detectors look at a file. -/
def isExamined (file : Text) : Bool := isSourceFile file && !isTestFile file

/-- What a detector tells about every issue of a kind. -/
structure Rule where
  type : Text
  category : Category
  impact : Text
  education : Text
  fix : Text
  known : IssueType.isKnown type = true

/-- The issue of a rule at a node of a file. -/
def Rule.issue (r : Rule) (file : Text) (n : Script.Node) (severity : Severity)
    (message : Text) (facts : List (Text × Json)) (snippet : Text) :
    Except Breakdown Issue := do
  return {
    id := provisionalId r.type file n.line n.column
    type := r.type
    severity
    category := r.category
    location := ⟨file, n.line, n.column⟩
    message
    impact := r.impact
    education := r.education
    fix := some r.fix
    facts
    fingerprint := ← fingerprint r.type file n.line snippet
    known := r.known }

end Readiness
