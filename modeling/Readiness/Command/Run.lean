import Readiness.Command.Basic
import Readiness.Project.Repair

/-!
# Running a command

What a command line does: what it writes to the two streams, how it ends, and what is on the disk
then. Summaries, complaints and the entries of the log go to the second stream in the order in which
they come up, and documents to the first.

A fault of the configuration is reported and ends the command; any other fault of the project is
handed to the caller.
-/

namespace Readiness.Command

/-- The disk and what was written so far. -/
structure Terminal where
  workspace : Workspace
  /-- Whether entries of all levels are written. -/
  verbose : Bool := false
  out : Text := ""
  err : Text := ""

/-- A part of a command. -/
abbrev Shell (α : Type) := ExceptT ProjectFault (StateM Terminal) α

/-- Writes to the first stream. -/
def write (s : Text) : Shell Unit := modify fun t => { t with out := t.out ++ s }

/-- Writes a line to the second stream. -/
def tell (s : Text) : Shell Unit := modify fun t => { t with err := t.err ++ s ++ "\n" }

/-- Writes the entries that count to the second stream. -/
def tellLog (log : Log) : Shell Unit := do
  let verbose := (← get).verbose
  for e in log do
    if verbose || e.level != .debug then tell e.line

/-- Does something about a project and writes what it records. -/
def perform {α : Type} (m : Workspace → Recorded ProjectFault α) : Shell α := do
  let (r, log) := (m (← get).workspace).outcome
  tellLog log
  match r with
  | .ok a => return a
  | .error f => throw f

/-- The folder that a path asks for: the path itself, or the folder of the file that it names. -/
def rootOf (path : Path) : Shell (Option Path) := do
  let w := (← get).workspace
  let target := w.resolve path
  if !w.isThere target then
    tell ("error: path does not exist: " ++ target.text)
    return none
  return some (if w.isFolder target then target else target.parent)

/-- The sign of a tier. -/
def tierSign : Tier → Text
  | .green => "🟢"
  | .yellow => "🟡"
  | .red => "🔴"

/-- The sign of a severity. -/
def severitySign : Severity → Text
  | .critical => "✖"
  | .high => "!"
  | .medium => "~"
  | .low => "·"

/-- How many issues a summary lists at most. -/
def mostListed : Nat := 50

/-- The line of an issue in a summary. -/
def issueLine (i : Issue) : Text :=
  "   " ++ severitySign i.severity ++ " [" ++ Text.upper i.severity.name ++ "] " ++ i.file ++ ":" ++
    toString i.line ++ " — " ++ i.message

/-- The lines of the summary of a result. -/
def summary (a : Analysis) (quiet : Bool) : List Text :=
  let tier := tierOf a.score
  let counts := a.bySeverity.filter (·.2 != 0)
  let head : List Text := [
    "",
    tierSign tier ++ "  Production readiness: " ++ toString a.score ++ "/100  (" ++
      Text.upper tier.name ++ ")",
    "   Issues   : " ++ toString a.issues.length ++ " in " ++ toString a.files.length ++ " file(s)"]
  let severities : List Text := if counts.isEmpty then [] else
    ["   Severity : " ++ Text.join ", " (counts.map fun (k, n) => k ++ "=" ++ toString n)]
  let listed := (a.issues.take mostListed).map issueLine
  let more : List Text := if mostListed < a.issues.length then
    ["   … and " ++ toString (a.issues.length - mostListed) ++ " more"] else []
  let issues : List Text := if quiet || a.issues.isEmpty then [] else "" :: (listed ++ more)
  head ++ severities ++ issues.concat ""

/-- Scans a project. -/
def runScan (setting : Text) (path : Path) (json : Bool) (category : Option Text)
    (quiet : Bool) : Shell ExitStatus := do
  match ← rootOf path with
  | none => return .failure
  | some root =>
    let a ← perform (Project.scan · root setting category)
    if json then
      match Json.document (some 2) true a.json with
      | .ok t => write t
      | .error b => throw (.breakdown b)
    else (summary a quiet).forM tell
    return (tierOf a.score).exit

/-- Shows what the repairs of a project would do. -/
def runPreview (setting : Text) (root : Path) (types : List Text) (before : Analysis) :
    Shell ExitStatus := do
  let rows ← perform (Project.preview · root setting types (some before))
  let items := rows.flatMap fun (file, ps) => ps.map ((file, ·))
  let canShow (p : Preview) : Bool := p.canFix && !p.diff.isEmpty
  for (file, p) in items do
    if canShow p then
      write ("# " ++ p.issueId ++ ": " ++ p.explanation ++ "\n")
      write p.diff
    else tell (file ++ ": " ++ p.issueId ++ ": " ++ p.error.getD "None")
  tell ""
  tell (toString (items.countP fun (_, p) => canShow p) ++
    " fix(es) available; nothing was written.")
  return .success

/-- Repairs a project and tells how its score has changed. -/
def runFix (setting : Text) (path : Path) (preview : Bool) (types : List Text)
    (backups : Option Bool) : Shell ExitStatus := do
  match ← rootOf path with
  | none => return .failure
  | some root =>
    let before ← perform (Project.scan · root setting none)
    if preview then runPreview setting root types before
    else
      let r ← perform (Project.fix · root setting types true backups (some before))
      modify fun t => { t with workspace := r.workspace }
      let ledger ← ExceptT.mk (pure r.ledger)
      for e in ledger.entries do
        if !e.success then tell ("   ✖ " ++ e.issueId ++ ": " ++ e.error.getD "None")
      let after ← perform (Project.scan · root setting none)
      tell ""
      tell ("Fixed " ++ toString ledger.successful ++ "/" ++ toString ledger.entries.length ++
        " issue(s) in " ++ toString ledger.files.length ++ " file(s).")
      tell ("Score: " ++ toString before.score ++ " → " ++ toString after.score)
      return if ledger.failed = 0 then .success else .violation

/-- Reports on a project, to a file or to the first stream. -/
def runReport (setting now : Text) (path : Path) (format : Text) (output : Option Path) :
    Shell ExitStatus := do
  match ← rootOf path with
  | none => return .failure
  | some root =>
    let a ← perform (Project.scan · root setting none)
    let t ← perform fun _ => Recorded.ofExcept id (Project.reportOf a format now)
    match output with
    | none => write t
    | some file =>
      let w := (← get).workspace
      let (workspace, broken) ← perform fun _ => Recorded.ofExcept .access
        (do Project.writeText (← w.makeFolders file.parent) file t)
      modify fun t => { t with workspace }
      if let some b := broken then throw (.breakdown b)
      tell ("Report written to " ++ file.text)
    return .success

/-- Checks a document against a bundled schema. -/
def runValidate (file : Path) (schema : Text) : Shell ExitStatus := do
  match Project.validateFile (← get).workspace file schema with
  | .ok _ =>
    write "OK\n"
    return .success
  | .error (.schema (.invalid f)) =>
    tell ("FAIL: " ++ f.message)
    return .violation
  | .error (.breakdown b) => throw (.breakdown b)
  | .error f =>
    tell ("ERROR: " ++ f.message)
    return .failure

/-- Does what is asked for. -/
def runRequest (setting now : Text) : Request → Shell ExitStatus
  | .scan path json category quiet => runScan setting path json category quiet
  | .fix path preview types backups => runFix setting path preview types backups
  | .report path format output => runReport setting now path format output
  | .validate file schema => runValidate file schema

/-- The complaint about a command line that cannot be understood: the last line of it, without blanks
at its end. -/
def complaint (program : Text) (fault : UsageFault) : Text :=
  ((program ++ ": error: " ++ fault.message).trim.lines.getLast?).getD ""

/-- How a command line ended and what it wrote. -/
structure Finished where
  status : ExitStatus
  out : Text
  err : Text

/-- Runs a command line at the time `now`. The result is how it ended, or a fault, and what is on
the disk then. -/
def run (w : Workspace) (setting now : Text) (words : List Text) :
    Except ProjectFault Finished × Workspace :=
  match Invocation.ofWords words with
  | .error .help => (.ok ⟨.success, "", ""⟩, w)
  | .error .version => (.ok ⟨.success, program ++ " " ++ version ++ "\n", ""⟩, w)
  | .error (.fault program fault) =>
    (.ok ⟨.failure, "", complaint program fault⟩, w)
  | .ok invocation =>
    let start : Terminal := { workspace := w, verbose := invocation.verbose }
    let (result, t) := StateT.run (ExceptT.run (runRequest setting now invocation.request)) start
    match result with
    | .ok status => (.ok ⟨status, t.out, t.err⟩, t.workspace)
    | .error (.config f) =>
      if f.isConfiguration then
        (.ok ⟨.failure, t.out, t.err ++ "error: " ++ f.message ++ "\n"⟩, t.workspace)
      else (.error (.config f), t.workspace)
    | .error f => (.error f, t.workspace)

end Readiness.Command
