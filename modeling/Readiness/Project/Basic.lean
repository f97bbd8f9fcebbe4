import Readiness.Context.File
import Readiness.Json.Read
import Readiness.Project.Discovery
import Readiness.Report
import Readiness.Scan
import Readiness.Schema.Bundled

/-!
# Projects

A project is a folder with a configuration. Here stand what can go wrong with one, and what its
package file says about it.
-/

namespace Readiness

/-- Why something about a project could not be done. -/
inductive ProjectFault where
  | rootMissing (root : Path)
  | rootNotFolder (root : Path)
  | config (fault : ConfigFault)
  | read (fault : ReadFault)
  | access (fault : AccessFault)
  | category (fault : UnknownCategory)
  | breakdown (b : Breakdown)
  | schema (fault : Schema.Rejected)
  | json (fault : Json.ReadError) (text : Text)
  | format (fault : Report.UnknownFormat)
  | noSubject

/-- The words of a fault. -/
def ProjectFault.message : ProjectFault → Text
  | .rootMissing root => "root does not exist: " ++ root.text
  | .rootNotFolder root => "root is not a directory: " ++ root.text
  | .config f => f.message
  | .read f => f.message
  | .access f => f.message
  | .category f => f.message
  | .breakdown b => b.message
  | .schema f => f.message
  | .json f t => f.message t
  | .format f => f.message
  | .noSubject => "build_report needs a root or an analysis"

namespace Project

/-- The configuration of the project in a folder. -/
def config (w : Workspace) (root : Path) (setting : Text) : Except ProjectFault Config := do
  let root := w.resolve root
  if !w.isThere root then throw (.rootMissing root)
  if !w.isFolder root then throw (.rootNotFolder root)
  (Config.load w root setting).mapError .config

/-- The document that a text writes. One that stands too deep in itself ends the reading, and is no
fault of the text. -/
def document (t : Text) : Except ProjectFault Json :=
  match Json.read t with
  | .ok v => .ok v
  | .error ⟨.nesting array, _⟩ => .error (.breakdown (.nesting array))
  | .error e => .error (.json e t)

/-- The fields of the package file of a project: nothing if there is no such file, and no fields if
it cannot be read. -/
def package (w : Workspace) (root : Path) : Recorded ProjectFault (Option (List (Text × Json))) := do
  let file := root.child "package.json"
  if !w.isFile file then return none
  let unreadable (why : Text) : Recorded ProjectFault (Option (List (Text × Json))) := do
    record .warning "core.context" (file.text ++ ": unreadable package.json: " ++ why)
    return some []
  match w.read file with
  | .error f => unreadable f.message
  | .ok t =>
    match document t with
    | .error (.breakdown b) => throw (.breakdown b)
    | .error f => unreadable f.message
    | .ok (.obj fields) => return some fields
    | .ok _ => return some []

/-- The names of the packages that package fields depend on, each once. -/
def dependenciesOf (fields : List (Text × Json)) : List Text :=
  let section? (key : Text) : List Text := match fields.lookup key with
    | some (.obj packages) => packages.map (·.1)
    | _ => []
  (section? "dependencies" ++ section? "devDependencies").eraseDups

/-- What the package file of a project says about it. -/
def context (w : Workspace) (root : Path) : Recorded ProjectFault Context := do
  match ← package w root with
  | none => return {}
  | some fields =>
    let dependencies := dependenciesOf fields
    return { projectType := "node", framework := Context.frameworkOf dependencies, dependencies }

/-- Writes a text to a file. A text that cannot be encoded leaves the file empty, and the second part
of the result says so. -/
def writeText (w : Workspace) (p : Path) (t : Text) :
    Except AccessFault (Workspace × Option Breakdown) := do
  match Text.encodingFault? t with
  | some fault => return (← w.write p [], some (.unencodable fault))
  | none => return (← w.write p t, none)

/-- Checks the document in a file against a bundled schema. -/
def validateFile (w : Workspace) (file : Path) (schema : Text) : Except ProjectFault Unit := do
  let t ← (w.read file).mapError .read
  (Schema.validate (← document t) schema).mapError .schema

end Project

end Readiness
