import Readiness.Disk.Basic
import Readiness.Yaml.Value

/-!
# Configuration

How a project is scanned and repaired. A file in the root of the project may say so, then a setting
of the surroundings, and what the caller asks for counts most.
-/

namespace Readiness

/-- How a project is scanned and repaired. -/
structure Config where
  root : Path
  /-- The ends of the names of the files that are looked at. -/
  extensions : List Text := [".js", ".jsx", ".mjs", ".cjs", ".ts", ".tsx"]
  /-- The folders that are not entered. -/
  excluded : List Text :=
    ["node_modules", ".git", "dist", "build", "coverage", ".next", ".nuxt"]
  /-- The file with the patterns of what is ignored. -/
  ignoreFile : Text := ".prodreadyignore"
  /-- Files with more bytes are skipped. -/
  mostBytes : Int := 2000000
  /-- How many files are worked on at a time, or zero for as many as seem fit. -/
  workers : Int := 0
  /-- The functions that catch what their argument throws. -/
  wrappers : List Text := []
  /-- Whether a file is kept under another name before it is changed. -/
  backups : Bool := true

/-- Why there is no configuration. -/
inductive ConfigFault where
  | unreadable (fault : ReadFault)
  | yaml (file : Path) (fault : Yaml.Fault)
  | notMapping (file : Path)
  | unknownKeys (file : Path) (keys : List Text)
  /-- A key that is no text, by its kind. -/
  | oddKey (kind : Text)
  /-- Keys of two kinds that cannot be put in order. -/
  | mixedKeys (a b : Text)
  | notStrings (file : Path) (key : Text)
  | badWorkers (file : Path)
  | badBackups (file : Path)
  | badSetting (given : Text)

namespace ConfigFault

/-- The words of a fault. -/
def message : ConfigFault → Text
  | .unreadable f => f.message
  | .yaml file .malformed => file.text ++ ": invalid YAML"
  | .yaml _ f => f.message
  | .notMapping file => file.text ++ ": top level must be a mapping"
  | .unknownKeys file keys => file.text ++ ": unknown key(s): " ++ Text.join ", " keys
  | .oddKey kind => "sequence item 0: expected str instance, " ++ kind ++ " found"
  | .mixedKeys a b =>
    "'<' not supported between instances of " ++ quoted a ++ " and " ++ quoted b
  | .notStrings file key => file.text ++ ": '" ++ key ++ "' must be a list of strings"
  | .badWorkers file => file.text ++ ": 'workers' must be a non-negative integer"
  | .badBackups file => file.text ++ ": 'backups' must be true or false"
  | .badSetting given => "PRODREADY_WORKERS must be an integer, got " ++ quoted given

/-- Whether the fault is one of what the configuration says, and not of how it can be read. -/
def isConfiguration : ConfigFault → Bool
  | .unreadable _ => false
  | .yaml _ .malformed => true
  | .yaml _ _ => false
  | .oddKey _ => false
  | .mixedKeys _ _ => false
  | _ => true

end ConfigFault

namespace Config

/-- The names of the file with the configuration; the first that is there counts. -/
def fileNames : List Text := [".prodready.yml", ".prodready.yaml"]

/-- The keys of the file. -/
def keys : List Text := ["exclude", "extensions", "wrappers", "workers", "backups"]

/-- The file with the configuration of a project. -/
def file? (w : Workspace) (root : Path) : Option Path :=
  (fileNames.map root.child).find? w.isFile

/-- The kind of a key, as messages name it. -/
def kindName : Yaml.Value → Text
  | .null => "NoneType"
  | .bool _ => "bool"
  | .whole _ => "int"
  | .float _ => "float"
  | .text _ => "str"
  | .day .. => "datetime.date"
  | .moment _ => "datetime.datetime"
  | .bytes _ => "bytes"
  | .sequence _ => "list"
  | .mapping _ => "dict"
  | .set _ => "set"

/-- The keys, if all of them are texts. -/
def texts? (values : List Yaml.Value) : Option (List Text) :=
  values.mapM fun v => match v with
    | .text s => some s
    | _ => none

/-- The least of some numbers among the keys. -/
def leastNumber? : List Yaml.Value → Option (Yaml.Value × Float)
  | [] => none
  | v :: more =>
    match v.number?, leastNumber? more with
    | some x, some (w, y) => if y < x then some (w, y) else some (v, x)
    | some x, none => some (v, x)
    | none, other => other

/-- The complaint about unknown keys. Keys that are no texts cannot be named, so the least of them
is complained about instead, or the fact that there is none. -/
def complaint (file : Path) (unknown : List Yaml.Value) : ConfigFault :=
  match texts? unknown with
  | some keys => .unknownKeys file (keys.mergeSort fun a b => decide (a ≤ b))
  | none =>
    match unknown with
    | [v] => .oddKey (kindName v)
    | vs =>
      if vs.all fun v => v.number?.isSome then
        .oddKey (((leastNumber? vs).map fun (v, _) => kindName v).getD "object")
      else
        match vs with
        | a :: b :: _ => if kindName a == kindName b then .oddKey (kindName a)
          else .mixedKeys (kindName b) (kindName a)
        | _ => .oddKey "object"

/-- The texts of a key: a list of them, or a single one. -/
def strings (file : Path) (key : Text) : Yaml.Value → Except ConfigFault (List Text)
  | .text s => .ok [s]
  | .sequence items =>
    match texts? items with
    | some l => .ok l
    | none => .error (.notStrings file key)
  | _ => .error (.notStrings file key)

/-- An extension with the dot before it. -/
def withDot (s : Text) : Text := if ("." : Text).isPrefixOf s then s else "." ++ s

/-- What the pairs of the file say about a configuration. -/
def apply (c : Config) (file : Path) (pairs : List (Yaml.Value × Yaml.Value)) :
    Except ConfigFault Config := do
  let named := pairs.filterMap fun (k, v) => match k with
    | .text s => some (s, v)
    | _ => none
  let setting? (key : Text) : Option Yaml.Value := named.lookup key
  let unknown := (pairs.map (·.1)).filter fun k => match k with
    | .text s => !keys.contains s
    | _ => true
  if !unknown.isEmpty then throw (complaint file unknown)
  let c ← match setting? "exclude" with
    | none => pure c
    | some v => do
      let folders ← strings file "exclude" v
      pure { c with excluded := (c.excluded ++ folders).eraseDups }
  let c ← match setting? "extensions" with
    | none => pure c
    | some v => do pure { c with extensions := (← strings file "extensions" v).map withDot }
  let c ← match setting? "wrappers" with
    | none => pure c
    | some v => do pure { c with wrappers := ← strings file "wrappers" v }
  let c ← match setting? "workers" with
    | none => pure c
    | some (.whole n) => if n < 0 then throw (.badWorkers file) else pure { c with workers := n }
    | some _ => throw (.badWorkers file)
  match setting? "backups" with
  | none => pure c
  | some (.bool b) => pure { c with backups := b }
  | some _ => throw (.badBackups file)

/-- What the file of the project says about a configuration. -/
def withFile (w : Workspace) (c : Config) : Except ConfigFault Config :=
  match file? w c.root with
  | none => .ok c
  | some file => do
    let t ← (w.read file).mapError .unreadable
    match ← (Yaml.Value.read t).mapError (.yaml file) with
    | .null => .ok c
    | .mapping pairs => c.apply file pairs
    | _ => .error (.notMapping file)

/-- What the setting of the surroundings says about a configuration; nothing if it is empty. -/
def withSetting (c : Config) (setting : Text) : Except ConfigFault Config :=
  if setting.isEmpty then .ok c
  else
    match Text.whole setting with
    | .ok n => .ok { c with workers := max 0 n }
    | .error _ => .error (.badSetting setting)

/-- The configuration of a project: its file counts, and then the setting. -/
def load (w : Workspace) (root : Path) (setting : Text) : Except ConfigFault Config := do
  let c ← withFile w { root }
  c.withSetting setting

/-- The excluded folders in order. -/
def sortedExcluded (c : Config) : List Text := c.excluded.mergeSort fun a b => decide (a ≤ b)

end Config

end Readiness
