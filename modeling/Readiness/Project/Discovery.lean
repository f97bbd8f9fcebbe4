import Readiness.Log
import Readiness.Project.Config
import Readiness.Project.Ignore
import Readiness.Text.Case

/-!
# Discovery

Which files of a folder are looked at. A file counts by the end of its name; files below excluded
folders, ignored files and very large files do not count, and links count only if they are to be
followed, as the files they lead to.
-/

namespace Readiness

/-- A way to find the places of everything below a folder of a disk, in some order. -/
abbrev Disk.Walk := Disk → List Text → List (List Text)

/-- What is looked for in a folder. -/
structure Discovery where
  root : Path
  extensions : List Text
  excluded : List Text
  ignoreFile : Text
  followLinks : Bool := false
  mostBytes : Int

namespace Discovery

/-- What a configuration looks for. -/
def ofConfig (c : Config) : Discovery where
  root := c.root
  extensions := c.extensions
  excluded := c.excluded
  ignoreFile := c.ignoreFile
  mostBytes := c.mostBytes

/-- The part of the program that entries about discovery come from. -/
def logSource : Text := "core.discover"

/-- What becomes of one place: a file that counts, by its names from the top, and an entry about a
file that does not. -/
def examine (d : Discovery) (disk : Disk) (patterns : List Text) (root rel : List Text) :
    Option (List Text) × Log :=
  let names := root ++ rel
  let path := Text.join "/" rel
  if disk.isLink names && !d.followLinks then (none, [])
  else
    match disk.find? names with
    | some (.file bytes) =>
      if !(d.extensions.map Text.lower).contains (Text.lower (Path.suffixOf (rel.getLast?.getD ""))) then
        (none, [])
      else if rel.dropLast.any d.excluded.contains then (none, [])
      else if isIgnored patterns path then
        (none, [⟨.debug, logSource, path ++ ": ignored by " ++ d.ignoreFile⟩])
      else if d.mostBytes < bytes.length then
        (none, [⟨.warning, logSource,
          path ++ ": skipped, larger than " ++ toString d.mostBytes ++ " bytes"⟩])
      else (some (disk.plain names), [])
    | _ => (none, [])

/-- The files that count among the places that a walk finds, each once and in the order of their
names, with entries about those that were left out. -/
def filesBy (walk : Disk.Walk) (w : Workspace) (d : Discovery) :
    Recorded ReadFault (List Path) := do
  if !w.isThere d.root then return []
  let patterns ← readIgnorePatterns w (d.root ++ Path.ofText d.ignoreFile)
  match w.disk.place (w.names d.root) with
  | .error _ => return []
  | .ok root =>
    let found := (walk w.disk root).map fun names =>
      d.examine w.disk patterns root (names.drop root.length)
    recordAll (found.flatMap (·.2))
    let places := (found.filterMap (·.1)).mergeSort Path.namesLe
    return places.eraseDups.map fun names => ⟨.top, names⟩

/-- The files that count in a folder. -/
def files (w : Workspace) (d : Discovery) : Recorded ReadFault (List Path) :=
  d.filesBy Disk.below w

end Discovery

end Readiness
