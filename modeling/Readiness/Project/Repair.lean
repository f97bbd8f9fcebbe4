import Readiness.Project.Scan
import Readiness.Repair

/-!
# Repairing a project

The issues of a project are repaired file by file, in the order of the names of the files. A file
that changes is written back, and before that kept under another name if the configuration says so.
A file that cannot be read or written keeps its issues, and the ledger says why.
-/

namespace Readiness

namespace Repair

/-- The part of the program that entries about repairs come from. -/
def logSource : Text := "transformers.engine"

/-- The name of a text in entries. -/
def shownLabel (label : Text) : Text := if label.isEmpty then "<source>" else label

/-- What is recorded about one attempt: what the parser says about the text before it and about the
text that a fixer proposed, and why it failed. -/
def Attempt.log (e : Engine Script) (label : Text) (a : Attempt) : Log :=
  match e.fixerFor? a.issue with
  | none => []
  | some f =>
    let parsed := Script.parse a.before
    let proposed := match parsed with
      | .error _ | .ok (.error _) => []
      | .ok (.ok tree) =>
        match f.propose tree a.issue with
        | .error _ => []
        | .ok p =>
          match Edit.apply a.before p.edits with
          | .error _ => []
          | .ok updated =>
            if p.edits.isEmpty then [] else Script.parseLog "" (Script.parse updated)
    let failure := match a.verdict with
      | .failed fault => [⟨.warning, logSource, shownLabel label ++ ":" ++
          toString a.issue.line ++ ": " ++ a.issue.type ++ " fix failed: " ++ fault.message⟩]
      | _ => []
    Script.parseLog label parsed ++ proposed ++ failure

/-- What is recorded about the repair of a text, with an engine for each turn. -/
def repairLog (e : Nat → Engine Script) (label : Text) (t : Text) (issues : List Issue) : Log :=
  let parsed := Script.parse t
  Script.parseLog label parsed ++
  match parsed with
  | .error _ => []
  | .ok (.error f) => [⟨.warning, logSource,
      shownLabel label ++ ": cannot fix, source does not parse: " ++ f.message⟩]
  | .ok (.ok _) =>
    match run scriptGrammar e t issues with
    | .error _ => []
    | .ok r => r.made.zipIdx.flatMap fun (a, k) => a.log (e k) label

/-- What is recorded about the previews for a text. -/
def previewLog (e : Engine Script) (label : Text) (t : Text) (issues : List Issue) : Log :=
  let parsed := Script.parse t
  Script.parseLog label parsed ++
  match parsed with
  | .error _ | .ok (.error _) => []
  | .ok (.ok tree) => (processingOrder issues).filterMap fun i =>
    match e.fixerFor? i with
    | none => none
    | some f =>
      match f.preview t tree i with
      | .ok _ => none
      | .error fault => some ⟨.debug, logSource, shownLabel label ++ ":" ++ toString i.line ++
          ": preview failed: " ++ fault.message⟩

end Repair

namespace Project

/-- The names of the files with issues, each once and in order. -/
def filesOf (issues : List Issue) : List Text :=
  (issues.map (·.file)).eraseDups.mergeSort fun a b => decide (a ≤ b)

/-- The name under which a file is kept. -/
def backupOf (p : Path) : Path := { p with names := p.names.dropLast ++ [p.name ++ ".bak"] }

/-- Writes a file, and keeps it under another name first if `backup` says so. The second part of the
result is a breakdown if the text could not be encoded. -/
def save (w : Workspace) (p : Path) (t : Text) (backup : Bool) :
    Except CopyFault (Workspace × Option Breakdown) := do
  let w ← if backup then w.copy p (backupOf p) else pure w
  (writeText w p t).mapError .access

/-- What is repaired of a project, and what is written. -/
structure RepairScope where
  /-- The kinds of issues to repair; all if none is named. -/
  types : List Text := []
  /-- Whether changed files are written. -/
  write : Bool := true
  /-- Whether files are kept before they are written. -/
  backups : Bool := true

/-- How a project is repaired. -/
structure RepairPlan extends RepairScope where
  engine : Repair.Engine Script := scriptEngine
  /-- An engine without fixers cannot be used. -/
  ready : engine.fixers.isEmpty = false := by rfl

/-- What the repair of one file came to: the entries of its issues and its text if it was read, or a
breakdown, and what is on the disk now. -/
structure FileRepair where
  outcome : Except Breakdown (List LedgerEntry × Option Text)
  workspace : Workspace
  log : Log

/-- Repairs the issues of one file, with an engine for each turn. -/
def repairFileInTurns (w : Workspace) (root : Path) (scope : RepairScope)
    (e : Nat → Repair.Engine Script) (file : Text) (issues : List Issue) : FileRepair :=
  let path := root ++ Path.ofText file
  let failed (why : Text) (log : Log) : FileRepair :=
    ⟨.ok (issues.map (LedgerEntry.failed ·.id why), none), w,
      log ++ [⟨.warning, logSource, file ++ ": cannot fix: " ++ why⟩]⟩
  match w.read path with
  | .error f => failed f.message []
  | .ok t =>
    let log := Repair.repairLog e file t issues
    match Repair.repairInTurns scriptGrammar e file t issues with
    | .error b => ⟨.error b, w, log⟩
    | .ok r =>
      if scope.write && r.text != t then
        match save w path r.text scope.backups with
        | .error f => failed f.message log
        | .ok (w, some b) => ⟨.error b, w, log⟩
        | .ok (w, none) => ⟨.ok (r.ledger, some r.text), w, log⟩
      else ⟨.ok (r.ledger, some r.text), w, log⟩

/-- Repairs the issues of one file with the same engine at every turn. -/
def repairFile (w : Workspace) (root : Path) (plan : RepairPlan) (file : Text)
    (issues : List Issue) : FileRepair :=
  repairFileInTurns w root plan.toRepairScope (fun _ => plan.engine) file issues

/-- What the repair of a project came to: its ledger or why there is none, and what is on the disk
now. -/
structure ProjectRepair where
  ledger : Except ProjectFault ProjectLedger
  workspace : Workspace
  log : Log

/-- Repairs the issues of a result, file by file, up to the first breakdown, with an engine for each
turn in each of the files. -/
def repairFilesInTurns (w : Workspace) (root : Path) (scope : RepairScope)
    (e : Text → Nat → Repair.Engine Script) (issues : List Issue) : List Text → ProjectRepair
  | [] => ⟨.ok ⟨[], []⟩, w, []⟩
  | file :: more =>
    let r := repairFileInTurns w root scope (e file) file (issues.filter (·.file == file))
    match r.outcome with
    | .error b => ⟨.error (.breakdown b), r.workspace, r.log⟩
    | .ok (entries, text) =>
      let rest := repairFilesInTurns r.workspace root scope e issues more
      let files := (text.map ((file, ·))).toList
      { rest with
        ledger := rest.ledger.map fun l => ⟨entries ++ l.entries, files ++ l.files⟩
        log := r.log ++ rest.log }

/-- Repairs the issues of a result, with an engine for each turn in each of the files. -/
def repairInTurns (w : Workspace) (root : Path) (scope : RepairScope)
    (e : Text → Nat → Repair.Engine Script) (a : Analysis) : ProjectRepair :=
  let issues := Issue.wanted scope.types a.issues
  repairFilesInTurns w root scope e issues (filesOf issues)

/-- Repairs the issues of a result with the same engine at every turn. -/
def repair (w : Workspace) (root : Path) (plan : RepairPlan) (a : Analysis) : ProjectRepair :=
  repairInTurns w root plan.toRepairScope (fun _ _ => plan.engine) a

/-- The ledger if it is as its schema says. -/
def checkedLedger (l : ProjectLedger) : Except ProjectFault ProjectLedger := do
  (Schema.validate l.json "fix_result.schema.json").mapError .schema
  return l

/-- Repairs the project in a folder, on a result that is given or else on a scan, and checks that
the ledger is as its schema says. -/
def fix (w : Workspace) (root : Path) (setting : Text) (types : List Text) (write : Bool)
    (backups : Option Bool) (a : Option Analysis) : Recorded ProjectFault ProjectRepair := do
  let c ← Recorded.ofExcept id (config w root setting)
  let a ← match a with
    | some a => pure a
    | none => scanFor w c none
  let plan : RepairPlan := { types, write, backups := backups.getD c.backups }
  let r := repair w c.root plan a
  recordAll r.log
  return { r with ledger := r.ledger.bind checkedLedger }

/-- What the repairs of a project would do, file by file, on a result that is given or else on a
scan. -/
def preview (w : Workspace) (root : Path) (setting : Text) (types : List Text)
    (a : Option Analysis) : Recorded ProjectFault (List (Text × List Preview)) := do
  let c ← Recorded.ofExcept id (config w root setting)
  let a ← match a with
    | some a => pure a
    | none => scanFor w c none
  let rows ← (filesOf a.issues).mapM fun file => do
    let issues := Issue.wanted types (a.issuesFor file)
    if issues.isEmpty then return []
    else
      let t ← Recorded.ofExcept .read (w.read (c.root ++ Path.ofText file))
      recordAll (Repair.previewLog scriptEngine file t issues)
      let previews ← Recorded.ofExcept .breakdown
        (Repair.preview scriptGrammar scriptEngine t issues)
      return [(file, previews)]
  return rows.flatten

end Project

end Readiness
