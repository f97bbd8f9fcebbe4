import Readiness.Proofs.CountedFiles
import Readiness.Proofs.ScanComposition
import Readiness.Proofs.ScanOutcome

/-!
# Files that do not count do not matter

What a scan reads besides the files that count are the package file, the ignore file and the
configuration. So it cannot tell apart two projects that agree on these and on the files that
count, whatever else lies in their folders and in whatever order these are walked.
-/

namespace Readiness

/-! ## Results made one by one -/

theorem find?_congr_mem {α : Type} {p q : α → Bool} {l : List α} (h : ∀ a ∈ l, p a = q a) :
    l.find? p = l.find? q := by
  induction l with
  | nil => rfl
  | cons a l ih =>
      rw [List.find?_cons, List.find?_cons, h a List.mem_cons_self,
        ih fun b hb => h b (List.mem_cons_of_mem a hb)]

theorem mapM_congr_mem {ε α β : Type} {f g : α → Except ε β} {l : List α}
    (h : ∀ a ∈ l, f a = g a) : l.mapM f = l.mapM g := by
  induction l with
  | nil => rfl
  | cons a l ih =>
      rw [List.mapM_cons, List.mapM_cons, h a List.mem_cons_self,
        ih fun b hb => h b (List.mem_cons_of_mem a hb)]

theorem map_of_mapM {ε α β γ : Type} {f : α → Except ε β} {key : β → γ} {name : α → γ}
    (each : ∀ a b, f a = .ok b → key b = name a) {l : List α} {bs : List β}
    (h : l.mapM f = .ok bs) : bs.map key = l.map name := by
  induction l generalizing bs with
  | nil =>
      rw [List.mapM_nil] at h
      cases h
      rfl
  | cons a l ih =>
      rw [List.mapM_cons] at h
      obtain ⟨b, hb, h⟩ := exists_of_bind_ok h
      obtain ⟨more, hmore, h⟩ := exists_of_bind_ok h
      cases h
      rw [List.map_cons, List.map_cons, each a b hb, ih hmore]

namespace Project

/-- A folder that a project may be in: the disk is a tree, and the path is that of the folder, without
links. -/
structure Rooted (w : Workspace) (root : Path) : Prop where
  tree : w.disk.IsTree
  top : root.anchor = .top
  folder : w.disk.entry? root.names = some .folder

/-- Under a path there are files of the same text in both workspaces, or there is the same fault. -/
structure SameFile (w w' : Workspace) (p : Path) : Prop where
  isFile : w.isFile p = w'.isFile p
  read : w.read p = w'.read p

/-- The project is the same in both workspaces, up to files that do not count. -/
structure Alike (c : Config) (w w' : Workspace) : Prop where
  package : SameFile w w' (c.root.child "package.json")
  settings : ∀ name ∈ Config.fileNames, SameFile w w' (c.root.child name)
  ignore : w.read (c.root ++ Path.ofText c.ignoreFile) = w'.read (c.root ++ Path.ofText c.ignoreFile)
  counted : ∀ patterns,
    readIgnorePatterns w (c.root ++ Path.ofText c.ignoreFile) = .ok patterns → ∀ rel bytes,
      (Discovery.ofConfig c).Counts w.disk patterns rel bytes ↔
        (Discovery.ofConfig c).Counts w'.disk patterns rel bytes

theorem read_of_entry {w : Workspace} (tree : w.disk.IsTree) {names : List Text}
    {bytes : List UInt8} (entry : w.disk.entry? names = some (.file bytes)) (inside : names ≠ []) :
    w.read ⟨.top, names⟩ = (do
      let t ← (Text.ofUtf8 bytes).mapError ReadFault.decoding
      return t.withLineFeeds) := by
  have hplace : w.disk.place (w.names ⟨.top, names⟩) = .ok names :=
    tree.place_of_entry (Disk.mem_entries entry inside) entry nofun
  have hbytes : w.bytes ⟨.top, names⟩ = .ok bytes :=
    Workspace.bytes_ok.mpr (Disk.bytes_ok.mpr ⟨names, hplace, entry⟩)
  rw [Workspace.read, hbytes]
  rfl

theorem analyse_files {w : Workspace} {c : Config} {category : Option Category}
    {paths : List Path} {a : Analysis} (h : analyse w c category paths = .ok a) :
    a.files = paths.map (fileName c.root) := by
  rw [analyse] at h
  obtain ⟨context, -, h⟩ := exists_of_bind_ok h
  obtain ⟨sources, hsources, h⟩ := exists_of_bind_ok h
  obtain ⟨issues, -, h⟩ := exists_of_bind_ok h
  cases h
  exact map_of_mapM (fun path source hload => file_of_load (Recorded.yields_of_outcome hload))
    hsources

namespace Alike

variable {c : Config} {w w' : Workspace} (alike : Alike c w w')

include alike

theorem config_load (setting : Text) :
    Config.load w c.root setting = Config.load w' c.root setting := by
  have hfile : Config.file? w c.root = Config.file? w' c.root := by
    rw [Config.file?, Config.file?]
    refine find?_congr_mem fun path hpath => ?_
    obtain ⟨name, hname, rfl⟩ := List.mem_map.mp hpath
    exact (alike.settings name hname).isFile
  have hwith : Config.withFile w { root := c.root } = Config.withFile w' { root := c.root } := by
    rw [Config.withFile, Config.withFile]
    dsimp only
    rw [hfile]
    cases hsome : Config.file? w' c.root with
    | none => rfl
    | some file =>
        obtain ⟨name, hname, rfl⟩ := List.mem_map.mp (List.mem_of_find?_eq_some hsome)
        dsimp only
        rw [(alike.settings name hname).read]
  rw [Config.load, Config.load, hwith]

theorem context_eq : context w c.root = context w' c.root := by
  have hpackage : Project.package w c.root = Project.package w' c.root := by
    rw [Project.package, Project.package, alike.package.isFile, alike.package.read]
  rw [context, context, hpackage]

theorem analyse_eq {category : Option Category} {paths : List Path}
    (reads : ∀ path ∈ paths, w.read path = w'.read path) :
    analyse w c category paths = analyse w' c category paths := by
  have hloads : (paths.mapM fun path => (load w c.root path).outcome.1) =
      paths.mapM fun path => (load w' c.root path).outcome.1 :=
    mapM_congr_mem fun path hpath => by rw [load, load, reads path hpath]
  rw [analyse, analyse, alike.context_eq, hloads]

end Alike

/-- Files that do not count have no part in a scan. Two projects that agree on the package file, on
the configuration, on the ignore file and on the files that count have the same configuration and
the same result, in whatever order their folders are walked; and the result lists the files that
count, each once and in the order of their names. -/
theorem scanBy_inert {walk walk' : Disk.Walk} (full : walk.IsFull) (full' : walk'.IsFull)
    {w w' : Workspace} {c : Config} (rooted : Rooted w c.root) (rooted' : Rooted w' c.root)
    (alike : Alike c w w') (category : Option Category) :
    (∀ setting, Config.load w c.root setting = Config.load w' c.root setting) ∧
    (scanBy walk w c category).outcome.1 = (scanBy walk' w' c category).outcome.1 ∧
    ∀ a, (scanBy walk w c category).outcome.1 = .ok a → ∃ patterns, ∃ rels : List (List Text),
      readIgnorePatterns w (c.root ++ Path.ofText c.ignoreFile) = .ok patterns ∧
      a.files = rels.map (Text.join "/") ∧ rels.Pairwise (· < ·) ∧
      ∀ rel, rel ∈ rels ↔ ∃ bytes, (Discovery.ofConfig c).Counts w.disk patterns rel bytes := by
  have hpatterns : readIgnorePatterns w (c.root ++ Path.ofText c.ignoreFile) =
      readIgnorePatterns w' (c.root ++ Path.ofText c.ignoreFile) := by
    rw [readIgnorePatterns, readIgnorePatterns, alike.ignore]
  refine ⟨alike.config_load, ?_⟩
  rw [scanBy_outcome, scanBy_outcome]
  obtain ⟨tree, top, folder⟩ := rooted
  obtain ⟨tree', -, folder'⟩ := rooted'
  cases hread : readIgnorePatterns w (c.root ++ Path.ofText c.ignoreFile) with
  | error fault =>
      have hread' := hpatterns.symm.trans hread
      rw [Discovery.filesBy_unread (d := Discovery.ofConfig c) tree top folder hread,
        Discovery.filesBy_unread (d := Discovery.ofConfig c) tree' top folder' hread']
      exact ⟨rfl, nofun⟩
  | ok patterns =>
      have hread' := hpatterns.symm.trans hread
      obtain ⟨rels, hfiles, hascending, hmem⟩ :=
        Discovery.filesBy_outcome (d := Discovery.ofConfig c) tree top folder rfl full hread
      obtain ⟨rels', hfiles', hascending', hmem'⟩ :=
        Discovery.filesBy_outcome (d := Discovery.ofConfig c) tree' top folder' rfl full' hread'
      -- the same files count, so both walks end in the same list
      obtain rfl : rels = rels' := eq_of_ascending hascending hascending' fun rel => by
        rw [hmem, hmem']
        exact exists_congr fun bytes => alike.counted patterns hread rel bytes
      rw [hfiles, hfiles']
      constructor
      · refine alike.analyse_eq fun path hpath => ?_
        obtain ⟨rel, hrel, rfl⟩ := List.mem_map.mp hpath
        obtain ⟨bytes, counts⟩ := (hmem rel).mp hrel
        have counts' := (alike.counted patterns hread rel bytes).mp counts
        have hne : c.root.names ++ rel ≠ [] := List.append_ne_nil_of_right_ne_nil _ counts.inside
        exact (read_of_entry tree counts.entry hne).trans
          (read_of_entry tree' counts'.entry hne).symm
      · intro a scanned
        refine ⟨patterns, rels, rfl, ?_, hascending, hmem⟩
        rw [analyse_files scanned, List.map_map]
        refine List.map_congr_left fun rel _ => ?_
        exact congrArg (Text.join "/") List.drop_left

/-! The project of two files, with files beside them that do not count: one in an excluded folder, a
link and a text. -/
namespace Crowded

def workspace : Workspace where
  disk := ⟨[
    (["p"], .folder),
    (["p", "node_modules"], .folder),
    (["p", "node_modules", "a.js"], .file (Text.utf8 "x")),
    (["p", "b.js"], .file (Text.utf8 Routed.login)),
    (["p", "c.js"], .link ⟨.here, ["a.js"]⟩),
    (["p", "a.js"], .file (Text.utf8 Routed.query)),
    (["p", "c.txt"], .file [])]⟩
  here := []

/-- Comes by everything in the order that no one expects. -/
def walk : Disk.Walk := fun d folder => (d.below folder).reverse

theorem walk_isFull : walk.IsFull := fun _ _ _ => List.mem_reverse

theorem rooted : Rooted workspace Routed.config.root :=
  ⟨Disk.isTree_of_parts (by decide) (by decide), rfl, rfl⟩

theorem alike : Alike Routed.config Routed.workspace workspace where
  package := ⟨rfl, rfl⟩
  settings := by
    intro name hname
    rcases List.mem_pair.mp hname with rfl | rfl
    · exact ⟨rfl, rfl⟩
    · exact ⟨rfl, rfl⟩
  ignore := rfl
  counted := by
    intro patterns _ rel bytes
    constructor
    · intro counts
      have hmem := Disk.mem_entries counts.entry (List.cons_ne_nil _ _)
      simp only [Routed.workspace, List.mem_cons, List.not_mem_nil, or_false] at hmem
      rcases hmem with heq | heq | heq
      · cases heq
      · cases heq
        exact { counts with entry := rfl }
      · cases heq
        exact { counts with entry := rfl }
    · intro counts
      have hmem := Disk.mem_entries counts.entry (List.cons_ne_nil _ _)
      simp only [workspace, List.mem_cons, List.not_mem_nil, or_false] at hmem
      rcases hmem with heq | heq | heq | heq | heq | heq | heq
      · cases heq
      · cases heq
      · cases heq
        exact absurd (counts.folders "node_modules" (by decide)) (by decide)
      · cases heq
        exact { counts with entry := rfl }
      · cases heq
      · cases heq
        exact { counts with entry := rfl }
      · cases heq
        exact absurd counts.extension (by decide +kernel)

end Crowded

theorem scanBy_inert_sample :
    (scanBy Disk.below Routed.workspace Routed.config none).outcome.1 =
      (scanBy Crowded.walk Crowded.workspace Routed.config none).outcome.1 ∧
    ∃ a, (scanBy Crowded.walk Crowded.workspace Routed.config none).outcome.1 = .ok a := by
  obtain ⟨a, hscan, -⟩ := Routed.scanned
  have hsame := (scanBy_inert Disk.below_isFull Crowded.walk_isFull ⟨Routed.tree, rfl, rfl⟩
    Crowded.rooted Crowded.alike none).2.1
  exact ⟨hsame, a, hsame ▸ hscan⟩

end Project

end Readiness
