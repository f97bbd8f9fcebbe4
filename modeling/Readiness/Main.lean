import Readiness.Command.Run
import Readiness.Report.Time
import Std.Time.DateTime.Timestamp

/-!
# The program

Reads the disk around the folder that it is started in, runs the command line on it, writes back the
files that have changed, and prints what the command wrote.
-/

namespace Readiness.Program

/-- What stands in a folder and below it. Folders that no scan enters are not read. -/
partial def loadEntries (folder : List Text) (found : Array IO.FS.DirEntry) :
    IO (List (List Text × Entry)) := do
  let mut entries := []
  for e in found do
    let name : Text := e.fileName
    let names := folder ++ [name]
    let kind := (← e.path.symlinkMetadata).type
    if kind == .symlink then
      let target ← try pure (← IO.FS.realPath e.path).toString catch _ => pure e.fileName
      entries := (names, .link (Path.ofText target)) :: entries
    else if kind == .dir then
      entries := (names, .folder) :: entries
      let skipped := ({ root := ⟨.top, []⟩ : Config }).excluded
      if !skipped.contains name then
        entries := (← loadEntries names (← e.path.readDir)) ++ entries
    else if kind == .file then
      entries := (names, .file (← IO.FS.readBinFile e.path).toList) :: entries
  return entries

/-- A folder, the folders above it, and what stands below it. -/
def loadFolder (place : String) : IO (List (List Text × Entry)) := do
  let dir ← IO.FS.realPath place
  let names := (Path.ofText dir.toString).names
  let above := (List.range names.length).map fun i => (names.take (i + 1), Entry.folder)
  return above ++ (← loadEntries names (← dir.readDir))

/-- The path that a command line asks about. -/
def pathOf? (words : List Text) : Option Path :=
  match Command.Invocation.ofWords words with
  | .ok ⟨_, .scan p ..⟩ => some p
  | .ok ⟨_, .fix p ..⟩ => some p
  | .ok ⟨_, .report p ..⟩ => some p
  | .ok ⟨_, .validate p _⟩ => some p.parent
  | .error _ => none

/-- The folder that a path asks about, if there is one. -/
def folderOf? (p : Path) : IO (Option String) := do
  let isFolder (p : Path) : IO Bool := do
    try
      discard (← IO.FS.realPath p.text.word).readDir
      return true
    catch _ => return false
  if ← isFolder p then return some p.text.word
  if ← isFolder p.parent then return some p.parent.text.word
  return none

/-- Writes the files of a disk that differ from what was there. -/
def writeBack (before after : Disk) : IO Unit := do
  for (names, e) in after.entries do
    match e with
    | .file bytes =>
      let same := match before.entry? names with
        | some (.file old) => old == bytes
        | _ => false
      if !same then
        IO.FS.createDirAll (Path.text ⟨.top, names.dropLast⟩).word
        IO.FS.writeBinFile (Path.text ⟨.top, names⟩).word ⟨bytes.toArray⟩
    | _ => pure ()

end Readiness.Program

open Readiness Readiness.Program

/-- Runs the program. -/
def main (words : List String) : IO UInt32 := do
  let words := Text.ofStrings words
  let here := (Path.ofText (← IO.currentDir).toString).names
  let mut entries := []
  if let some p := pathOf? words then
    if let some folder ← folderOf? p then entries ← loadFolder folder
  if !entries.any fun (names, _) => here.isPrefixOf names && here.length < names.length then
    entries := entries ++ (← loadFolder ".")
  let w : Workspace := ⟨⟨entries⟩, here⟩
  let setting : Text := (← IO.getEnv "PRODREADY_WORKERS").getD ""
  let seconds := (← Std.Time.Timestamp.now).toSecondsSinceUnixEpoch.val.toNat
  let (result, after) := Command.run w setting (Report.minuteText seconds) words
  writeBack w.disk after.disk
  match result with
  | .ok f =>
    (← IO.getStdout).putStr f.out.word
    (← IO.getStderr).putStr f.err.word
    return f.status.code.toUInt32
  | .error f =>
    IO.eprintln f.message.word
    return 1
