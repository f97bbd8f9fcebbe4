import Readiness.Command.Usage
import Readiness.Disk.Path
import Readiness.Issue.Basic

/-!
# Commands

The four commands and their command lines. A command line whose first word is no command is one
that scans the path that it names, and one without any word scans the folder it stands in.
-/

namespace Readiness.Command

/-- What is asked for. -/
inductive Request where
  | scan (path : Path) (json : Bool) (category : Option Text) (quiet : Bool)
  | fix (path : Path) (preview : Bool) (types : List Text) (backups : Option Bool)
  | report (path : Path) (format : Text) (output : Option Path)
  | validate (file : Path) (schema : Text)

/-- A command line that was understood. -/
structure Invocation where
  verbose : Bool
  request : Request

/-- The name of the program. -/
def program : Text := "prodready"

/-- The version of the program. -/
def version : Text := "0.3.0"

/-- The option that asks how a command is used. -/
def helpFlag : Flag := { spellings := ["-h", "--help"], key := "help", arity := .none, role := .help }

/-- The option for more entries in the log. -/
def verboseFlag : Flag := { spellings := ["-v", "--verbose"], key := "verbose", arity := .none }

/-- The options of a scan. -/
def scanFlags : List Flag := [
  { spellings := ["--format"], key := "format", arity := .one, choices := some ["pretty", "json"] },
  { spellings := ["--category"], key := "category", arity := .one,
    choices := some (Category.all.map (·.name)) },
  { spellings := ["--quiet"], key := "quiet", arity := .none }]

/-- The path of a project, which may be left out. -/
def somePath : Position := { key := "path", arity := .optional }

/-- How a scan is asked for. -/
def scanUsage : Usage where
  program := program ++ " scan"
  flags := [helpFlag] ++ scanFlags ++ [verboseFlag]
  positions := [somePath]

/-- How a repair is asked for. -/
def fixUsage : Usage where
  program := program ++ " fix"
  flags := [
    helpFlag,
    { spellings := ["--preview"], key := "preview", arity := .none },
    { spellings := ["--type"], key := "type", arity := .several,
      choices := some (IssueType.fixable.mergeSort fun a b => decide (a ≤ b)) },
    { spellings := ["--no-backup"], key := "no-backup", arity := .none },
    verboseFlag]
  positions := [somePath]

/-- How a report is asked for. -/
def reportUsage : Usage where
  program := program ++ " report"
  flags := [
    helpFlag,
    { spellings := ["--format"], key := "format", arity := .one,
      choices := some ["html", "json", "markdown"] },
    { spellings := ["--output", "-o"], key := "output", arity := .one },
    verboseFlag]
  positions := [somePath]

/-- How a check of a document is asked for. -/
def validateUsage : Usage where
  program := program ++ " validate"
  flags := [helpFlag, verboseFlag]
  positions := [{ key := "instance", arity := .one }, { key := "schema_name", arity := .one }]

/-- The commands by name. -/
def commands : List (Text × Usage) :=
  [("scan", scanUsage), ("fix", fixUsage), ("report", reportUsage), ("validate", validateUsage)]

/-- How a command is asked for. -/
def mainUsage : Usage where
  program := program
  flags := [
    helpFlag,
    { spellings := ["--version"], key := "version", arity := .none, role := .version },
    verboseFlag]
  positions := [{ key := "command", arity := .command, choices := some (commands.map (·.1)) }]

/-- How a scan is asked for without naming a command. -/
def pathUsage : Usage where
  program := program
  flags := [helpFlag] ++ scanFlags ++ [verboseFlag]
  positions := [{ key := "path", arity := .one }]

/-- Reads the words of a command by its name. -/
def readCommand : Below := fun name words =>
  match commands.lookup name with
  | some u => u.read noneBelow words
  | none => .ok {}

/-- The only word under a key. -/
def wordOf? (m : Matches) (key : Text) : Option Text := (m.last? key).bind List.head?

/-- The path under a key; the folder one stands in if none is given. -/
def pathOf (m : Matches) (key : Text) : Path := Path.ofText ((wordOf? m key).getD ".")

/-- What the words for a command ask for. -/
def requestOf (name : Text) (m : Matches) : Request :=
  if name == "fix" then
    .fix (pathOf m "path") (m.has "preview") ((m.last? "type").getD [])
      (if m.has "no-backup" then some false else none)
  else if name == "report" then
    .report (pathOf m "path") ((wordOf? m "format").getD "html")
      ((wordOf? m "output").map Path.ofText)
  else if name == "validate" then
    .validate (pathOf m "instance") ((wordOf? m "schema_name").getD "")
  else
    .scan (pathOf m "path") (wordOf? m "format" == some "json") (wordOf? m "category")
      (m.has "quiet")

/-- Understands a command line. -/
def Invocation.ofWords (words : List Text) : Except Stop Invocation := do
  let first := (words.find? fun w => !("-" : Text).isPrefixOf w).getD ""
  if !first.isEmpty && (commands.lookup first).isNone then
    let m ← pathUsage.readAll noneBelow words
    return ⟨m.has "verbose", requestOf "scan" m⟩
  else
    let m ← mainUsage.readAll readCommand words
    match wordOf? m "command" with
    | some name => return ⟨m.has "verbose", requestOf name m⟩
    | none =>
      let again ← mainUsage.readAll readCommand ("scan" :: words)
      return ⟨m.has "verbose", requestOf "scan" again⟩

end Readiness.Command
