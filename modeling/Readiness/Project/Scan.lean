import Readiness.Project.Basic

/-!
# Scanning a project

Every file of the project that counts is read and parsed. The routes that any of them registers are
known when the files are looked at, so the issues of one file can depend on the others. A file that
cannot be read or parsed is an issue of its own.
-/

namespace Readiness

/-- The part of the program that entries about parsing come from. -/
def Script.logSource : Text := "source.parser"

/-- What is recorded when a text is parsed under a name. -/
def Script.parseLog (file : Text) (parsed : Except Breakdown (Except Script.Failure Script)) : Log :=
  let name := if file.isEmpty then ("<source>" : Text) else file
  match parsed with
  | .error _ => []
  | .ok (.ok s) =>
    if s.problems.isEmpty then []
    else [⟨.debug, Script.logSource,
      name ++ ": tolerated " ++ toString s.problems.length ++ " parse error(s)"⟩]
  | .ok (.error f) => [⟨.debug, Script.logSource,
      name ++ ": parse failed at line " ++ toString f.line ++ ": " ++ f.message⟩]

namespace Project

/-- The part of the program that entries about scans and repairs come from. -/
def logSource : Text := "core.runner"

/-- A file of a project: its name in the project, and its script or why it has none. -/
structure Source where
  file : Text
  script : Except Text Script

/-- Reads and parses a file of a project. -/
def load (w : Workspace) (root path : Path) : Recorded ProjectFault Source := do
  let file := Text.join "/" (path.names.drop root.names.length)
  match w.read path with
  | .error f =>
    let why := "cannot read file: " ++ f.message
    record .warning logSource (file ++ ": " ++ why)
    return ⟨file, .error why⟩
  | .ok t =>
    let parsed := Script.parse t
    recordAll (Script.parseLog file parsed)
    match ← Recorded.ofExcept .breakdown parsed with
    | .ok s => return ⟨file, .ok s⟩
    | .error f =>
      record .warning logSource
        (file ++ ":" ++ toString f.line ++ ": parse failed: " ++ f.message)
      return ⟨file, .error f.message⟩

/-- The routes that a file registers. -/
def Source.routes (s : Source) : List Route :=
  match s.script with
  | .ok script => script.routes s.file
  | .error _ => []

/-- What is recorded about the detectors that failed on a file. -/
def Source.failureLog (s : Source) (ds : List Detector) (category : Option Category)
    (project : Context) : Log :=
  match s.script with
  | .error _ => []
  | .ok script =>
    if !isExamined s.file then []
    else (ds.filter (·.isWanted category)).filterMap fun d =>
      match d.detect script (project.forFile (some script) s.file) s.file with
      | .ok _ => none
      | .error _ => some ⟨.error, logSource, "Analyzer " ++ quoted d.id ++
          " raised an exception on " ++ s.file ++ " — skipped"⟩

/-- The words for a file that has no script for no reason that anyone gave. -/
def unknownReason : Text := "unknown error"

/-- The issues of a file in the order in which they are listed. -/
def Source.issues (s : Source) (ds : List Detector) (category : Option Category)
    (project : Context) : Except Breakdown (List Issue) := do
  match s.script with
  | .error why => return [← parseErrorIssue s.file (if why.isEmpty then unknownReason else why)]
  | .ok script =>
    return Issue.listed (script.findings ds category (project.forFile (some script) s.file) s.file)

/-- Scans the files of a project that a walk finds for issues of one category, or of all. -/
def scanBy (walk : Disk.Walk) (w : Workspace) (c : Config) (category : Option Category) :
    Recorded ProjectFault Analysis := do
  let paths ← ExceptT.adapt .read ((Discovery.ofConfig c).filesBy walk w)
  record .debug logSource
    ("scanning " ++ toString paths.length ++ " file(s) under " ++ c.root.text)
  let context ← context w c.root
  let sources ← paths.mapM (load w c.root)
  let project := { context with routes := sources.flatMap Source.routes }
  let ds := detectors c.wrappers
  recordAll (sources.flatMap (·.failureLog ds category project))
  let issues ← Recorded.ofExcept .breakdown (sources.mapM (·.issues ds category project))
  return Analysis.of issues.flatten (sources.map (·.file)) project

/-- Scans the files of a project for issues of one category, or of all. -/
def scanFor (w : Workspace) (c : Config) (category : Option Category) :
    Recorded ProjectFault Analysis :=
  scanBy Disk.below w c category

/-- Scans the project in a folder and checks that the result is as its schema says. -/
def scan (w : Workspace) (root : Path) (setting : Text) (category : Option Text) :
    Recorded ProjectFault Analysis := do
  let c ← Recorded.ofExcept id (config w root setting)
  let category ← Recorded.ofExcept .category (Category.wanted category)
  let a ← scanFor w c category
  Recorded.ofExcept .schema (Schema.validate a.json "analysis_result.schema.json")
  return a

/-- The report of a result in a format, made at the time `now`. -/
def reportOf (a : Analysis) (format now : Text) : Except ProjectFault Text := do
  let f ← (Report.Format.ofName format).mapError .format
  match f with
  | .json => (Json.document (some 2) true (Report.json a)).mapError .breakdown
  | .markdown | .html => return Report.render f now f.listed a

end Project

end Readiness
