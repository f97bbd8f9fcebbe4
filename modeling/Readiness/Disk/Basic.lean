import Readiness.Disk.Path
import Readiness.Text.Quoted
import Readiness.Text.Utf8

/-!
# The disk

The files, folders and links that a project lives among, as a value. What the library does to a
disk is a function from disks to disks, so a step is described by the disk before and the disk
after.

Files hold bytes. Names are looked up from the top, and links are followed on the way; only so many
of them that a ring of links ends in a fault.
-/

namespace Readiness

/-- What stands at a place of the disk. -/
inductive Entry where
  | file (bytes : List UInt8)
  | folder
  | link (target : Path)

/-- A disk: what stands where, by the names from the top. The top itself is a folder. -/
structure Disk where
  entries : List (List Text × Entry)

/-- Why a place cannot be used. -/
inductive AccessReason where
  | missing
  | occupied
  | notFolder
  | isFolder
  | tooManyLinks
deriving DecidableEq

/-- The words of a reason. -/
def AccessReason.text : AccessReason → Text
  | .missing => "[Errno 2] No such file or directory"
  | .occupied => "[Errno 17] File exists"
  | .notFolder => "[Errno 20] Not a directory"
  | .isFolder => "[Errno 21] Is a directory"
  | .tooManyLinks => "[Errno 40] Too many levels of symbolic links"

/-- A place that cannot be used: the path that was given, and why. -/
structure AccessFault where
  reason : AccessReason
  path : Path

/-- The words of a fault. -/
def AccessFault.message (f : AccessFault) : Text := f.reason.text ++ ": " ++ quoted f.path.text

/-- Why a file cannot be copied. -/
inductive CopyFault where
  | access (fault : AccessFault)
  /-- Both paths lead to one file; `within` if the second one was made up of a folder and a name. -/
  | sameFile (source target : Path) (within : Bool)

/-- The words of a fault. -/
def CopyFault.message : CopyFault → Text
  | .access f => f.message
  | .sameFile source target within =>
    "PosixPath(" ++ quoted source.text ++ ") and " ++
      (if within then quoted target.text else "PosixPath(" ++ quoted target.text ++ ")") ++
      " are the same file"

/-- Why a file cannot be read as a text. -/
inductive ReadFault where
  | access (fault : AccessFault)
  | decoding (fault : DecodingFault)

/-- The words of a fault. -/
def ReadFault.message : ReadFault → Text
  | .access f => f.message
  | .decoding f => f.message

namespace Disk

/-- An empty disk. -/
def empty : Disk := ⟨[]⟩

/-- What stands at a place, links not followed. -/
def entry? (d : Disk) (names : List Text) : Option Entry :=
  if names.isEmpty then some .folder else d.entries.lookup names

/-- The disk with something put at a place. -/
def set (d : Disk) (names : List Text) (e : Entry) : Disk :=
  ⟨d.entries.filter (·.1 != names) ++ [(names, e)]⟩

/-- The disk without a place and all below it. -/
def remove (d : Disk) (names : List Text) : Disk :=
  ⟨d.entries.filter fun (n, _) => !names.isPrefixOf n⟩

/-- How many links are followed on the way to one place. -/
def mostLinks : Nat := 40

/-- How the name at the end of a way is taken. -/
inductive Ending where
  /-- A link there is not followed. -/
  | asNamed
  /-- A link there is followed. -/
  | followed
  /-- A link there is followed, and there may be nothing. -/
  | fresh
deriving DecidableEq

/-- How far a way goes without following a link. -/
inductive Stretch where
  | arrived (place : List Text)
  /-- A link to follow: the folder it stands in, where it leads to, and the names behind it. -/
  | link (folder : List Text) (target : Path) (more : List Text)

/-- Goes by names from a folder up to their end or to the first link that is to be followed. -/
def walk (d : Disk) (ending : Ending) (folder : List Text) :
    List Text → Except AccessReason Stretch
  | [] => .ok (.arrived folder)
  | name :: more =>
    if name == ".." then walk d ending folder.dropLast more
    else
      let next := folder ++ [name]
      match d.entry? next with
      | none => if more.isEmpty && ending == .fresh then .ok (.arrived next) else .error .missing
      | some .folder => walk d ending next more
      | some (.file _) => if more.isEmpty then .ok (.arrived next) else .error .notFolder
      | some (.link target) =>
        if more.isEmpty && ending == .asNamed then .ok (.arrived next)
        else .ok (.link folder target more)

/-- Goes by names from a folder, links followed; `links` counts those that may still be. -/
def goBy (d : Disk) (ending : Ending) (links : Nat) (folder names : List Text) :
    Except AccessReason (List Text) :=
  match d.walk ending folder names with
  | .error r => .error r
  | .ok (.arrived place) => .ok place
  | .ok (.link folder target more) =>
    match links with
    | 0 => .error .tooManyLinks
    | links + 1 =>
      goBy d ending links (if target.anchor = .here then folder else []) (target.names ++ more)

/-- The place at the end of the names, links followed. -/
def place (d : Disk) (names : List Text) : Except AccessReason (List Text) :=
  d.goBy .followed mostLinks [] names

/-- The place at the end of the names, with the last name not followed. -/
def ownPlace (d : Disk) (names : List Text) : Except AccessReason (List Text) :=
  d.goBy .asNamed mostLinks [] names

/-- The place at the end of the names, links followed, where a file is or may be made. -/
def freshPlace (d : Disk) (names : List Text) : Except AccessReason (List Text) :=
  d.goBy .fresh mostLinks [] names

/-- What stands at the end of the names, links followed. -/
def find? (d : Disk) (names : List Text) : Option Entry :=
  match d.place names with
  | .ok p => d.entry? p
  | .error _ => none

/-- Whether something stands there. -/
def isThere (d : Disk) (names : List Text) : Bool := (d.find? names).isSome

/-- Whether a file stands there. -/
def isFile (d : Disk) (names : List Text) : Bool :=
  match d.find? names with
  | some (.file _) => true
  | _ => false

/-- Whether a folder stands there. -/
def isFolder (d : Disk) (names : List Text) : Bool :=
  match d.find? names with
  | some .folder => true
  | _ => false

/-- Whether a link stands there. -/
def isLink (d : Disk) (names : List Text) : Bool :=
  match d.ownPlace names with
  | .ok p => match d.entry? p with
    | some (.link _) => true
    | _ => false
  | .error _ => false

/-- Turns enough for every way: the names to go by, and those of every link that may be
followed. -/
def turns (d : Disk) (names : List Text) : Nat :=
  let longest := d.entries.foldl (fun n (_, e) => match e with
    | .link target => max n target.names.length
    | _ => n) 0
  names.length + (mostLinks + 1) * (longest + 1) + 1

/-- The names from the top that lead to the same place without links and double dots. What is
missing is taken at its word. -/
def plainBy (d : Disk) : Nat → List Text → List Text → List Text
  | 0, folder, more => folder ++ more
  | _, folder, [] => folder
  | fuel + 1, folder, name :: more =>
    if name == ".." then plainBy d fuel folder.dropLast more
    else
      match d.entry? (folder ++ [name]) with
      | some (.link target) =>
        plainBy d fuel (if target.anchor = .here then folder else []) (target.names ++ more)
      | _ => plainBy d fuel (folder ++ [name]) more

/-- The names from the top that lead to the same place without links and double dots. -/
def plain (d : Disk) (names : List Text) : List Text := plainBy d (d.turns names) [] names

/-- The bytes of the file at the end of the names. -/
def bytes (d : Disk) (names : List Text) : Except AccessReason (List UInt8) := do
  match d.entry? (← d.place names) with
  | some (.file b) => .ok b
  | some _ => .error .isFolder
  | none => .error .missing

/-- Writes a file, through links. A file that is not there yet is made in its folder. -/
def write (d : Disk) (names : List Text) (bytes : List UInt8) : Except AccessReason Disk := do
  let place ← d.freshPlace names
  match d.entry? place with
  | some .folder => .error .isFolder
  | _ => .ok (d.set place (.file bytes))

/-- Makes a folder and the folders above it that are missing. What is there already must be
folders. -/
def makeFolders (d : Disk) (names : List Text) : Except AccessReason Disk :=
  (List.range names.length).foldlM (fun d i =>
    let folder := names.take (i + 1)
    match d.place folder with
    | .ok p =>
      match d.entry? p with
      | some .folder => .ok d
      | _ => .error (if i + 1 = names.length then .occupied else .notFolder)
    | .error .missing =>
      match d.place folder.dropLast, folder.getLast? with
      | .ok above, some name =>
        if (d.entry? (above ++ [name])).isSome then .error .occupied
        else .ok (d.set (above ++ [name]) .folder)
      | _, _ => .error .missing
    | .error r => .error r) d

/-- The names of what stands in a folder, in order. -/
def namesIn (d : Disk) (folder : List Text) : List Text :=
  let inside := d.entries.filterMap fun (n, _) =>
    if folder.isPrefixOf n && n.length = folder.length + 1 then n.getLast? else none
  inside.mergeSort fun a b => decide (a ≤ b)

/-- The places of everything below a folder, a folder before what it holds; links are named and
not entered. -/
def below (d : Disk) (folder : List Text) : List (List Text) :=
  let inside := d.entries.filterMap fun (n, _) =>
    if folder.isPrefixOf n && folder.length < n.length then some n else none
  inside.mergeSort Path.namesLe

end Disk

/-- A disk and the folder that paths start from. -/
structure Workspace where
  disk : Disk
  /-- The names from the top of the folder that relative paths start from. -/
  here : List Text

namespace Workspace

/-- The names from the top that a path stands for. -/
def names (w : Workspace) (p : Path) : List Text :=
  match p.anchor with
  | .here => w.here ++ p.names
  | _ => p.names

/-- The path from the top to the same place without links and double dots. -/
def resolve (w : Workspace) (p : Path) : Path := ⟨.top, w.disk.plain (w.names p)⟩

/-- Whether something stands there. -/
def isThere (w : Workspace) (p : Path) : Bool := w.disk.isThere (w.names p)

/-- Whether a file stands there. -/
def isFile (w : Workspace) (p : Path) : Bool := w.disk.isFile (w.names p)

/-- Whether a folder stands there. -/
def isFolder (w : Workspace) (p : Path) : Bool := w.disk.isFolder (w.names p)

/-- The bytes of a file. -/
def bytes (w : Workspace) (p : Path) : Except AccessFault (List UInt8) :=
  (w.disk.bytes (w.names p)).mapError (⟨·, p⟩)

/-- The text of a file, with line feeds at the ends of its lines. -/
def read (w : Workspace) (p : Path) : Except ReadFault Text := do
  let bytes ← (w.bytes p).mapError .access
  let text ← (Text.ofUtf8 bytes).mapError .decoding
  return text.withLineFeeds

/-- Writes a text into a file. -/
def write (w : Workspace) (p : Path) (t : Text) : Except AccessFault Workspace := do
  let disk ← (w.disk.write (w.names p) t.utf8).mapError (⟨·, p⟩)
  return { w with disk }

/-- Whether two paths lead to one place, where something stands. -/
def isSame (w : Workspace) (p q : Path) : Bool :=
  match w.disk.place (w.names p), w.disk.place (w.names q) with
  | .ok a, .ok b => a == b
  | _, _ => false

/-- Copies a file. If a folder stands at the target, the copy goes into it. -/
def copy (w : Workspace) (source target : Path) : Except CopyFault Workspace := do
  let within := w.isFolder target
  let target := if within then target.child source.name else target
  if w.isSame source target then throw (.sameFile source target within)
  let bytes ← (w.bytes source).mapError .access
  let disk ← (w.disk.write (w.names target) bytes).mapError fun r => .access ⟨r, target⟩
  return { w with disk }

/-- Makes a folder and the folders above it that are missing. -/
def makeFolders (w : Workspace) (p : Path) : Except AccessFault Workspace := do
  let disk ← (w.disk.makeFolders (w.names p)).mapError (⟨·, p⟩)
  return { w with disk }

end Workspace

end Readiness
