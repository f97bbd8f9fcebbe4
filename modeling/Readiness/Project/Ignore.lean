import Readiness.Disk.Basic
import Readiness.Text.Blank
import Readiness.Text.Glob

/-!
# What is ignored

A file of patterns, one a line, says which files of a project are left alone. A pattern is a glob
for the whole path or for its last name, or it names a folder; a slash before it means nothing.
-/

namespace Readiness

/-- The patterns of an ignore file: its lines without blanks around them, empty ones and comments
left out. -/
def ignorePatterns (t : Text) : List Text :=
  (t.lines.map Text.trim).filter fun l => !l.isEmpty && l.head? != some '#'

/-- The patterns of the ignore file at a path; none if it is not there. -/
def readIgnorePatterns (w : Workspace) (p : Path) : Except ReadFault (List Text) :=
  match w.read p with
  | .ok t => .ok (ignorePatterns t)
  | .error (.access f) => if f.reason = .missing then .ok [] else .error (.access f)
  | .error f => .error f

/-- Whether a pattern matches a path. -/
def ignores (path : Text) (pattern : Text) : Bool :=
  let pattern := pattern.dropWhile (· == CodePoint.char '/')
  let name := (Text.splitBy (· == '/') path).getLast?.getD []
  let glob := Glob.ofText pattern
  let folder := Text.dropEndWhile (· == '/') pattern
  glob.accepts path || glob.accepts name ||
    (!folder.isEmpty && (path == folder || (folder ++ "/").isPrefixOf path))

/-- Whether one of the patterns matches a path. -/
def isIgnored (patterns : List Text) (path : Text) : Bool := patterns.any (ignores path)

end Readiness
