import Readiness.Proofs.DiscoveredFiles
import Readiness.Proofs.TextOrder

/-!
# The files that count

A file counts by its ending, by the folders it lies in, by the patterns of the ignore file and by its
size, and it has to be a file and no link. `Counts` says all of this of one file, in terms of what
stands on the disk. Discovery finds exactly the files that count, one by one and in the order of
their names, in whatever order and however often a walk comes by them: a list without repetitions
that is in order is known from its members.
-/

namespace Readiness

/-- A walk comes by everything below a folder and nothing else. -/
def Disk.Walk.IsFull (walk : Disk.Walk) : Prop :=
  ∀ (d : Disk) (folder names : List Text), names ∈ walk d folder ↔ names ∈ d.below folder

theorem Disk.below_isFull : Disk.Walk.IsFull Disk.below := fun _ _ _ => Iff.rfl

/-! ## Lists in order -/

theorem eraseDups_sublist {α : Type} [BEq α] [LawfulBEq α] :
    ∀ l : List α, l.eraseDups.Sublist l
  | [] => List.Sublist.slnil
  | a :: l => by
      rw [List.eraseDups_cons]
      exact ((eraseDups_sublist (l.filter fun b => !b == a)).trans List.filter_sublist).cons_cons a
termination_by l => l.length
decreasing_by exact Nat.lt_succ_of_le (List.length_filter_le _ l)

theorem eq_of_ascending {l m : List (List Text)} (hl : l.Pairwise (· < ·))
    (hm : m.Pairwise (· < ·)) (same : ∀ names, names ∈ l ↔ names ∈ m) : l = m := by
  have hne : ∀ {a b : List Text}, a < b → a ≠ b := fun hab heq =>
    List.lt_irrefl _ (heq ▸ hab)
  have hperm : l.Perm m :=
    (List.perm_ext_iff_of_nodup (hl.imp hne) (hm.imp hne)).mpr same
  exact hperm.eq_of_pairwise (fun a b _ _ hab hba => absurd hba (List.lt_asymm hab)) hl hm

theorem lt_of_append_lt {root a b : List Text} (h : root ++ a < root ++ b) : a < b := by
  induction root with
  | nil => exact h
  | cons name root ih =>
      rw [List.cons_append, List.cons_append, List.cons_lt_cons_iff] at h
      exact ih (h.resolve_left (List.lt_irrefl name)).2

namespace Discovery

/-- A file that counts, by its names below the root and its bytes. -/
structure Counts (d : Discovery) (disk : Disk) (patterns rel : List Text) (bytes : List UInt8) :
    Prop where
  entry : disk.entry? (d.root.names ++ rel) = some (.file bytes)
  inside : rel ≠ []
  extension : Text.lower (Path.suffixOf (rel.getLast?.getD "")) ∈ d.extensions.map Text.lower
  folders : ∀ name ∈ rel.dropLast, name ∉ d.excluded
  kept : isIgnored patterns (Text.join "/" rel) = false
  small : bytes.length ≤ d.mostBytes

/-- Of what a walk comes by, the files that count are taken, as they are named. -/
theorem examine_iff {d : Discovery} {disk : Disk} (tree : disk.IsTree)
    (own : d.followLinks = false) {patterns rel names : List Text}
    (mem : d.root.names ++ rel ∈ disk.below d.root.names) :
    (d.examine disk patterns d.root.names rel).1 = some names ↔
      names = d.root.names ++ rel ∧ ∃ bytes, d.Counts disk patterns rel bytes := by
  obtain ⟨-, hlength, e, hmem⟩ := Disk.mem_below.mp mem
  have hinside : rel ≠ [] := by
    rintro rfl
    rw [List.append_nil] at hlength
    exact Nat.lt_irrefl _ hlength
  have hplain {bytes : List UInt8}
      (hentry : disk.entry? (d.root.names ++ rel) = some (.file bytes)) :
      disk.plain (d.root.names ++ rel) = d.root.names ++ rel :=
    tree.plain_eq hmem fun target hlink => by
      rw [hentry] at hlink
      cases hlink
  rw [examine_eq_some own]
  constructor
  · rintro ⟨hlink, bytes, hfind, hextension, hfolders, hkept, hsmall, rfl⟩
    have hentry := (tree.find?_eq_file_iff hmem).mp ⟨hlink, hfind⟩
    exact ⟨hplain hentry, bytes, hentry, hinside, hextension, hfolders, hkept, hsmall⟩
  · rintro ⟨rfl, bytes, counts⟩
    obtain ⟨hlink, hfind⟩ := (tree.find?_eq_file_iff hmem).mpr counts.entry
    exact ⟨hlink, bytes, hfind, counts.extension, counts.folders, counts.kept, counts.small,
      hplain counts.entry⟩

/-- The places of the files that count among those that a walk comes by, in order. -/
def placesBy (d : Discovery) (walk : Disk.Walk) (disk : Disk) (patterns : List Text) :
    List (List Text) :=
  let found := (walk disk d.root.names).map fun names =>
    d.examine disk patterns d.root.names (names.drop d.root.names.length)
  ((found.filterMap (·.1)).mergeSort Path.namesLe).eraseDups

theorem placesBy_ascending (d : Discovery) (walk : Disk.Walk) (disk : Disk)
    (patterns : List Text) : (d.placesBy walk disk patterns).Pairwise (· < ·) := by
  have hsorted : (d.placesBy walk disk patterns).Pairwise fun a b => Path.namesLe a b = true :=
    (List.pairwise_mergeSort Path.namesLe_trans Path.namesLe_total _).sublist (eraseDups_sublist _)
  refine (hsorted.and (Project.nodup_eraseDups _)).imp fun ⟨hle, hne⟩ => ?_
  exact (List.le_iff_lt_or_eq.mp (Path.namesLe_iff.mp hle)).resolve_right hne

variable {d : Discovery} {walk : Disk.Walk} {w : Workspace} {patterns : List Text}

theorem mem_placesBy {disk : Disk} (tree : disk.IsTree) (own : d.followLinks = false)
    (full : walk.IsFull) {names : List Text} :
    names ∈ d.placesBy walk disk patterns ↔
      ∃ rel, names = d.root.names ++ rel ∧ ∃ bytes, d.Counts disk patterns rel bytes := by
  rw [placesBy, List.mem_eraseDups, List.mem_mergeSort, List.mem_filterMap]
  constructor
  · rintro ⟨_, hfound, hsome⟩
    obtain ⟨n, hn, rfl⟩ := List.mem_map.mp hfound
    have hbelow := (full _ _ _).mp hn
    have happend : d.root.names ++ n.drop d.root.names.length = n :=
      List.prefix_iff_eq_append.mp (Disk.mem_below.mp hbelow).1
    exact ⟨_, (examine_iff tree own (by rwa [happend])).mp hsome⟩
  · rintro ⟨rel, rfl, bytes, counts⟩
    have hne : d.root.names ++ rel ≠ [] := List.append_ne_nil_of_right_ne_nil _ counts.inside
    have hbelow : d.root.names ++ rel ∈ disk.below d.root.names := by
      refine Disk.mem_below.mpr ⟨List.prefix_append _ _, ?_, _, Disk.mem_entries counts.entry hne⟩
      rw [List.length_append]
      exact Nat.lt_add_of_pos_right (List.length_pos_iff.mpr counts.inside)
    refine ⟨_, List.mem_map_of_mem ((full _ _ _).mpr hbelow), ?_⟩
    rw [List.drop_left]
    exact (examine_iff tree own hbelow).mpr ⟨rfl, bytes, counts⟩

section

variable (tree : w.disk.IsTree) (top : d.root.anchor = .top)
  (folder : w.disk.entry? d.root.names = some .folder)

include tree top folder

theorem place_root : w.disk.place (w.names d.root) = .ok d.root.names := by
  have hnames : w.names d.root = d.root.names := by rw [Workspace.names, top]
  rw [hnames]
  exact tree.place_of_folder folder

theorem isThere_root : w.isThere d.root = true := by
  rw [Workspace.isThere, Disk.isThere, Disk.find?, place_root tree top folder]
  dsimp only
  rw [folder]
  rfl

/-- Below a root that is a folder, a walk finds the files that count, each once and in the order of
their names. -/
theorem filesBy_outcome (own : d.followLinks = false) (full : walk.IsFull)
    (read : readIgnorePatterns w (d.root ++ Path.ofText d.ignoreFile) = .ok patterns) :
    ∃ rels : List (List Text),
      (d.filesBy walk w).outcome.1 = .ok (rels.map fun rel => ⟨.top, d.root.names ++ rel⟩) ∧
      rels.Pairwise (· < ·) ∧ ∀ rel, rel ∈ rels ↔ ∃ bytes, d.Counts w.disk patterns rel bytes := by
  have houtcome : (d.filesBy walk w).outcome.1 =
      .ok ((d.placesBy walk w.disk patterns).map fun names => ⟨.top, names⟩) := by
    rw [filesBy, isThere_root tree top folder, read, place_root tree top folder, Bool.not_true,
      if_neg Bool.false_ne_true]
    rfl
  have hdrop : ∀ names ∈ d.placesBy walk w.disk patterns,
      d.root.names ++ names.drop d.root.names.length = names := by
    intro names hnames
    obtain ⟨rel, rfl, -⟩ := (mem_placesBy tree own full).mp hnames
    rw [List.drop_left]
  refine ⟨(d.placesBy walk w.disk patterns).map (List.drop d.root.names.length), ?_, ?_, ?_⟩
  · rw [houtcome, List.map_map]
    exact congrArg Except.ok (List.map_congr_left fun names hnames =>
      congrArg (Path.mk .top) (hdrop names hnames).symm)
  · refine List.pairwise_map.mpr ((d.placesBy_ascending walk w.disk patterns).imp_of_mem ?_)
    intro a b ha hb hab
    rw [← hdrop a ha, ← hdrop b hb] at hab
    exact lt_of_append_lt hab
  · intro rel
    rw [List.mem_map]
    constructor
    · rintro ⟨names, hnames, rfl⟩
      obtain ⟨rel, rfl, hcounts⟩ := (mem_placesBy tree own full).mp hnames
      rwa [List.drop_left]
    · intro hcounts
      exact ⟨_, (mem_placesBy tree own full).mpr ⟨rel, rfl, hcounts⟩, List.drop_left⟩

/-- What a walk finds if the files that count are known, in order. -/
theorem filesBy_of_counts (own : d.followLinks = false) (full : walk.IsFull)
    (read : readIgnorePatterns w (d.root ++ Path.ofText d.ignoreFile) = .ok patterns)
    {rels : List (List Text)} (ascending : rels.Pairwise (· < ·))
    (known : ∀ rel, (∃ bytes, d.Counts w.disk patterns rel bytes) ↔ rel ∈ rels) :
    (d.filesBy walk w).outcome.1 = .ok (rels.map fun rel => ⟨.top, d.root.names ++ rel⟩) := by
  obtain ⟨rels', hfiles, hascending, hmem⟩ := filesBy_outcome tree top folder own full read
  obtain rfl : rels' = rels := eq_of_ascending hascending ascending fun rel => by
    rw [hmem, known]
  exact hfiles

theorem filesBy_unread {fault : ReadFault}
    (read : readIgnorePatterns w (d.root ++ Path.ofText d.ignoreFile) = .error fault) :
    (d.filesBy walk w).outcome.1 = .error fault := by
  rw [filesBy, isThere_root tree top folder, read, Bool.not_true, if_neg Bool.false_ne_true]
  rfl

end

end Discovery

end Readiness
