import Readiness.Project.Scan
import Readiness.Proofs.PlainDisk
import Readiness.Proofs.ScriptRepair
import Readiness.Proofs.TextLines

/-!
# The files of a project and their names

A project knows its files by their names below its root, with slashes between the
parts. Two files have two names, but that is no fact about lists of texts: it
takes a disk on which no name holds a slash, and files that stand where their
names say. On a disk that is a tree all files that are looked at do. A place is listed
below the root only if there are folders all the way down to it, links are
not looked at, and so resolving its names changes nothing.
-/

namespace Readiness

/-! ## Computations that record -/

namespace Recorded

variable {ε ε' α β : Type}

/-- A computation comes to a result, after some record and with some. -/
def Yields (m : Recorded ε α) (a : α) : Prop :=
  ∃ log log' : Log, StateT.run (ExceptT.run m) log = (.ok a, log')

theorem yields_of_outcome {m : Recorded ε α} {a : α} (h : m.outcome.1 = .ok a) : m.Yields a :=
  ⟨[], m.outcome.2, Prod.ext h rfl⟩

theorem run_bind_ok {m : Recorded ε α} {f : α → Recorded ε β} {b : β} {log log' : Log}
    (h : StateT.run (ExceptT.run (m >>= f)) log = (.ok b, log')) :
    ∃ a between, StateT.run (ExceptT.run m) log = (.ok a, between) ∧
      StateT.run (ExceptT.run (f a)) between = (.ok b, log') := by
  rw [ExceptT.run_bind, StateT.run_bind] at h
  cases hm : StateT.run (ExceptT.run m) log with
  | mk result between =>
      rw [hm] at h
      cases result with
      | error e => cases h
      | ok a => exact ⟨a, between, rfl, h⟩

theorem yields_bind {m : Recorded ε α} {f : α → Recorded ε β} {b : β}
    (h : Yields (m >>= f) b) : ∃ a, Yields m a ∧ Yields (f a) b := by
  obtain ⟨log, log', hrun⟩ := h
  obtain ⟨a, between, hm, hf⟩ := run_bind_ok hrun
  exact ⟨a, ⟨log, between, hm⟩, between, log', hf⟩

/-- The first step of a computation starts with nothing recorded, as the whole does. -/
theorem outcome_bind {m : Recorded ε α} {f : α → Recorded ε β} {b : β}
    (h : (m >>= f).outcome.1 = .ok b) : ∃ a, m.outcome.1 = .ok a ∧ Yields (f a) b := by
  have hrun : StateT.run (ExceptT.run (m >>= f)) [] = (.ok b, (m >>= f).outcome.2) := Prod.ext h rfl
  obtain ⟨a, between, hm, hf⟩ := run_bind_ok hrun
  exact ⟨a, congrArg Prod.fst hm, between, _, hf⟩

theorem yields_pure {a b : α} (h : Yields (pure a : Recorded ε α) b) : a = b := by
  obtain ⟨log, log', hrun⟩ := h
  cases hrun
  rfl

theorem yields_ofExcept {fault : ε' → ε} {r : Except ε' α} {a : α}
    (h : Yields (ofExcept fault r) a) : r = .ok a := by
  obtain ⟨log, log', hrun⟩ := h
  cases r with
  | error e => cases hrun
  | ok b =>
      cases hrun
      rfl

theorem outcome_adapt (fault : ε' → ε) (m : Recorded ε' α) :
    (outcome (ExceptT.adapt fault m : Recorded ε α)).1 = m.outcome.1.mapError fault := rfl

theorem yields_mapM {f : α → Recorded ε β} {l : List α} {bs : List β} (h : Yields (l.mapM f) bs) :
    List.Forall₂ (fun a b => (f a).Yields b) l bs := by
  induction l generalizing bs with
  | nil =>
      rw [List.mapM_nil] at h
      cases yields_pure h
      exact .nil
  | cons a l ih =>
      rw [List.mapM_cons] at h
      obtain ⟨b, hb, h⟩ := yields_bind h
      obtain ⟨more, hmore, h⟩ := yields_bind h
      cases yields_pure h
      exact .cons hb (ih hmore)

end Recorded

/-! ## Disks that are trees -/

namespace Disk

/-- A disk as there are any: what stands on it stands in folders, and the parts of its name are
names. -/
structure IsTree (d : Disk) : Prop where
  named : ∀ e ∈ d.entries, ∀ name ∈ e.1, name ≠ ".." ∧ CodePoint.char '/' ∉ name
  folders : ∀ e ∈ d.entries, ∀ above, above <+: e.1 → above ≠ e.1 → d.entry? above = some .folder

/-- Whether a folder stands at a place, links not followed. -/
def holdsFolder (d : Disk) (names : List Text) : Bool :=
  match d.entry? names with
  | some .folder => true
  | _ => false

theorem entry?_of_holdsFolder {d : Disk} {names : List Text} (h : d.holdsFolder names = true) :
    d.entry? names = some .folder := by
  rw [holdsFolder] at h
  split at h
  · assumption
  · cases h

/-- A disk is a tree if every name on it is checked part by part. -/
theorem isTree_of_parts {d : Disk}
    (named : ∀ e ∈ d.entries, ∀ name ∈ e.1, name ≠ ".." ∧ CodePoint.char '/' ∉ name)
    (folders : ∀ e ∈ d.entries, ∀ n < e.1.length, d.holdsFolder (e.1.take n) = true) :
    d.IsTree where
  named := named
  folders := by
    intro e he above habove hne
    have hlength : above.length < e.1.length :=
      habove.length_le.lt_of_ne fun hsame => hne (habove.eq_of_length hsame)
    rw [List.prefix_iff_eq_take.mp habove]
    exact entry?_of_holdsFolder (folders e he above.length hlength)

theorem mem_entries {d : Disk} {names : List Text} {e : Entry} (h : d.entry? names = some e)
    (nonempty : names ≠ []) : (names, e) ∈ d.entries := by
  rw [Disk.entry?, if_neg (fun hnil => nonempty (List.isEmpty_iff.mp hnil))] at h
  obtain ⟨before, behind, hsplit, -⟩ := List.lookup_eq_some_iff.mp h
  rw [hsplit]
  exact List.mem_append_right before List.mem_cons_self

theorem entry?_of_mem {d : Disk} {names : List Text} {e : Entry} (h : (names, e) ∈ d.entries) :
    ∃ e', d.entry? names = some e' := by
  rw [Disk.entry?]
  split
  · exact ⟨_, rfl⟩
  · refine Option.ne_none_iff_exists'.mp fun hnone => ?_
    have hne := List.lookup_eq_none_iff.mp hnone _ h
    rw [bne_self_eq_false] at hne
    exact Bool.false_ne_true hne

theorem mem_below {d : Disk} {folder names : List Text} :
    names ∈ d.below folder ↔
      folder <+: names ∧ folder.length < names.length ∧ ∃ e, (names, e) ∈ d.entries := by
  rw [below, List.mem_mergeSort, List.mem_filterMap]
  constructor
  · rintro ⟨⟨n, e⟩, hmem, hif⟩
    dsimp only at hif
    split at hif
    · next hbelow =>
        cases hif
        rw [Bool.and_eq_true, List.isPrefixOf_iff_prefix, decide_eq_true_iff] at hbelow
        exact ⟨hbelow.1, hbelow.2, e, hmem⟩
    · cases hif
  · rintro ⟨hinside, hlength, e, hmem⟩
    refine ⟨(names, e), hmem, ?_⟩
    dsimp only
    rw [if_pos]
    rw [Bool.and_eq_true, List.isPrefixOf_iff_prefix, decide_eq_true_iff]
    exact ⟨hinside, hlength⟩

namespace IsTree

variable {d : Disk} (tree : d.IsTree)

include tree

theorem step {folder : List Text} {name : Text} {more : List Text} {e : Entry}
    (mem : (folder ++ name :: more, e) ∈ d.entries) :
    (name == "..") = false ∧ (more ≠ [] → d.entry? (folder ++ [name]) = some .folder) ∧
      ((folder ++ [name]) ++ more, e) ∈ d.entries := by
  have happend : folder ++ name :: more = (folder ++ [name]) ++ more := by
    rw [List.append_assoc]
    rfl
  refine ⟨beq_eq_false_iff_ne.mpr (tree.named _ mem name ?_).1, ?_, ?_⟩
  · exact List.mem_append_right folder List.mem_cons_self
  · intro hmore
    rw [happend] at mem
    refine tree.folders _ mem _ (List.prefix_append _ _) fun hsame => hmore ?_
    exact List.self_eq_append_right.mp hsame
  · rwa [← happend]

theorem standing {names : List Text} {e : Entry} (mem : (names, e) ∈ d.entries) :
    d.Standing names.dropLast ∧ GoesDown names := by
  refine ⟨fun {above} habove => ?_, fun name hname => (tree.named _ mem name hname).1⟩
  rcases List.eq_nil_or_concat names with rfl | ⟨folder, name, rfl⟩
  · rw [List.prefix_nil.mp habove]
    rfl
  · rw [List.concat_eq_append] at habove mem
    refine tree.folders _ mem above (habove.trans (List.dropLast_prefix _)) fun hsame => ?_
    have hlength := habove.length_le
    rw [hsame, List.dropLast_concat, List.length_append] at hlength
    exact Nat.not_succ_le_self _ hlength

theorem ownPlace_of_entry {names : List Text} {e e' : Entry} (hmem : (names, e) ∈ d.entries)
    (hentry : d.entry? names = some e') : d.ownPlace names = .ok names := by
  obtain ⟨hstanding, hdown⟩ := tree.standing hmem
  rw [ownPlace, mostLinks, goBy, walk_end hstanding hdown hentry (.inl rfl)]

theorem isLink_of_entry {names : List Text} {e : Entry} {target : Path}
    (hmem : (names, e) ∈ d.entries) (hlink : d.entry? names = some (.link target)) :
    d.isLink names = true := by
  rw [isLink, tree.ownPlace_of_entry hmem hlink]
  dsimp only
  rw [hlink]

theorem place_of_entry {names : List Text} {e e' : Entry} (hmem : (names, e) ∈ d.entries)
    (hentry : d.entry? names = some e') (hlink : ∀ target, e' ≠ .link target) :
    d.place names = .ok names := by
  obtain ⟨hstanding, hdown⟩ := tree.standing hmem
  exact place_end hstanding hdown hentry hlink

theorem isLink_eq_false {names : List Text} {e e' : Entry} (hmem : (names, e) ∈ d.entries)
    (hentry : d.entry? names = some e') (hlink : ∀ target, e' ≠ .link target) :
    d.isLink names = false := by
  rw [isLink, tree.ownPlace_of_entry hmem hentry]
  dsimp only
  rw [hentry]
  cases e' with
  | link target => exact absurd rfl (hlink target)
  | file _ => rfl
  | folder => rfl

theorem place_of_folder {names : List Text} (hfolder : d.entry? names = some .folder) :
    d.place names = .ok names := by
  cases names with
  | nil => rw [place, mostLinks, goBy, walk]
  | cons name more =>
      exact tree.place_of_entry (mem_entries hfolder (List.cons_ne_nil name more)) hfolder
        fun target h => by cases h

theorem plainBy_eq {more : List Text} : ∀ {fuel : Nat} {folder : List Text} {e : Entry},
    (folder ++ more, e) ∈ d.entries →
    (∀ target, d.entry? (folder ++ more) ≠ some (.link target)) →
    d.plainBy fuel folder more = folder ++ more := by
  induction more with
  | nil =>
      intro fuel folder e _ _
      cases fuel <;> simp only [plainBy, List.append_nil]
  | cons name more ih =>
      intro fuel folder e hmem hlink
      cases fuel with
      | zero => rw [plainBy]
      | succ fuel =>
          obtain ⟨hname, hfolder, hmem⟩ := tree.step hmem
          have happend : folder ++ name :: more = (folder ++ [name]) ++ more := by
            rw [List.append_assoc]
            rfl
          rw [happend] at hlink ⊢
          rw [plainBy, hname, if_neg Bool.false_ne_true]
          split
          · next target hentry =>
              cases more with
              | nil =>
                  rw [List.append_nil] at hlink
                  exact absurd hentry (hlink target)
              | cons next more =>
                  rw [hfolder (List.cons_ne_nil next more)] at hentry
                  cases hentry
          · exact ih hmem hlink

theorem plain_eq {names : List Text} {e : Entry} (hmem : (names, e) ∈ d.entries)
    (hlink : ∀ target, d.entry? names ≠ some (.link target)) : d.plain names = names := by
  have hplain : d.plainBy (d.turns names) [] names = [] ++ names := tree.plainBy_eq hmem hlink
  exact hplain

/-- What is found under a name that is no link stands under that name. -/
theorem find?_eq_file_iff {names : List Text} {e : Entry} {bytes : List UInt8}
    (hmem : (names, e) ∈ d.entries) :
    d.isLink names = false ∧ d.find? names = some (.file bytes) ↔
      d.entry? names = some (.file bytes) := by
  obtain ⟨e', hentry⟩ := entry?_of_mem hmem
  by_cases hlink : ∃ target, e' = .link target
  · obtain ⟨target, rfl⟩ := hlink
    rw [tree.isLink_of_entry hmem hentry, hentry]
    constructor
    · rintro ⟨h, -⟩
      cases h
    · intro h
      cases h
  · rw [not_exists] at hlink
    rw [tree.isLink_eq_false hmem hentry hlink, Disk.find?, tree.place_of_entry hmem hentry hlink]
    exact and_iff_right rfl

end IsTree

end Disk

/-! ## Names with slashes between their parts -/

namespace Text

theorem splitBy_slashes {l : List Text} (nonempty : l ≠ [])
    (h : ∀ t ∈ l, CodePoint.char '/' ∉ t) : splitBy (· == '/') (join "/" l) = l :=
  splitBy_join nonempty h

theorem join_inj {l l' : List Text} (hl : l ≠ []) (hl' : l' ≠ [])
    (h : ∀ t ∈ l, CodePoint.char '/' ∉ t) (h' : ∀ t ∈ l', CodePoint.char '/' ∉ t)
    (same : join "/" l = join "/" l') : l = l' := by
  rw [← splitBy_slashes hl h, same, splitBy_slashes hl' h']

end Text

namespace Discovery

theorem fst_ite_none {α β : Type} {c : Prop} [Decidable c] {b : β} {x : Option α × β} {a : α} :
    (if c then (none, b) else x).1 = some a ↔ ¬ c ∧ x.1 = some a := by
  by_cases h : c
  · rw [if_pos h]
    exact ⟨fun hnone => (by cases hnone), fun hx => absurd h hx.1⟩
  · rw [if_neg h]
    exact ⟨fun hx => ⟨h, hx⟩, And.right⟩

/-- Taken are the files that are no links and stand four tests: the ending, the folders on the way,
the patterns and the size. -/
theorem examine_eq_some {d : Discovery} {disk : Disk} (own : d.followLinks = false)
    {patterns root rel names : List Text} :
    (d.examine disk patterns root rel).1 = some names ↔
      disk.isLink (root ++ rel) = false ∧ ∃ bytes, disk.find? (root ++ rel) = some (.file bytes) ∧
        Text.lower (Path.suffixOf (rel.getLast?.getD "")) ∈ d.extensions.map Text.lower ∧
        (∀ name ∈ rel.dropLast, name ∉ d.excluded) ∧
        isIgnored patterns (Text.join "/" rel) = false ∧ bytes.length ≤ d.mostBytes ∧
        disk.plain (root ++ rel) = names := by
  rw [examine, own, Bool.not_false, Bool.and_true, fst_ite_none, Bool.not_eq_true]
  refine and_congr_right fun _ => ?_
  split
  · next bytes hfind =>
      simp only [fst_ite_none, hfind, Option.some.injEq, Entry.file.injEq, exists_eq_left',
        Bool.not_eq_true', Bool.not_eq_false, Bool.not_eq_true, List.contains_iff_mem,
        List.any_eq_false, Int.not_lt]
  · next hother =>
      constructor
      · intro h
        cases h
      · rintro ⟨bytes, hfind, -⟩
        exact absurd hfind (hother bytes)

end Discovery

namespace Project

/-- The name of a file below the root of its project. -/
def fileName (root path : Path) : Text := Text.join "/" (path.names.drop root.names.length)

theorem nodup_eraseDups {α : Type} [BEq α] [LawfulBEq α] : ∀ l : List α, l.eraseDups.Nodup
  | [] => List.nodup_nil
  | a :: l => by
      rw [List.eraseDups_cons, List.nodup_cons]
      constructor
      · rw [List.mem_eraseDups, List.mem_filter, beq_self_eq_true]
        exact fun h => absurd h.2 Bool.false_ne_true
      · exact nodup_eraseDups (l.filter fun b => !b == a)
termination_by l => l.length
decreasing_by exact Nat.lt_succ_of_le (List.length_filter_le _ l)

/-- The files that are looked at stand below the root, and each is looked at once. -/
theorem files_of_tree {w : Workspace} {c : Config} {paths : List Path} (tree : w.disk.IsTree)
    (top : c.root.anchor = .top) (folder : w.disk.entry? c.root.names = some .folder)
    (files : Recorded.Yields ((Discovery.ofConfig c).files w) paths) :
    paths.Nodup ∧ ∀ path ∈ paths, path.anchor = .top ∧ path.names ∈ w.disk.below c.root.names := by
  have hplace : w.disk.place (w.names c.root) = .ok c.root.names := by
    have hnames : w.names c.root = c.root.names := by rw [Workspace.names, top]
    rw [hnames]
    exact tree.place_of_folder folder
  rw [Discovery.files, Discovery.filesBy] at files
  split at files
  · cases Recorded.yields_pure files
    exact ⟨List.nodup_nil, fun path hpath => absurd hpath List.not_mem_nil⟩
  · obtain ⟨patterns, -, files⟩ := Recorded.yields_bind files
    have hroot : w.disk.place (w.names (Discovery.ofConfig c).root) = .ok c.root.names := hplace
    rw [hroot] at files
    obtain ⟨-, -, files⟩ := Recorded.yields_bind files
    cases Recorded.yields_pure files
    constructor
    · refine List.Pairwise.map (R := (· ≠ ·)) _ ?_ (nodup_eraseDups _)
      exact fun names names' hne hsame => hne (congrArg Path.names hsame)
    · intro path hpath
      obtain ⟨names, hnames, rfl⟩ := List.mem_map.mp hpath
      refine ⟨rfl, ?_⟩
      obtain ⟨found, hfound, hsome⟩ := List.mem_filterMap.mp
        (List.mem_mergeSort.mp (List.mem_eraseDups.mp hnames))
      obtain ⟨below, hbelow, rfl⟩ := List.mem_map.mp hfound
      obtain ⟨hlink, bytes, hfind, -, -, -, -, rfl⟩ := (Discovery.examine_eq_some rfl).mp hsome
      obtain ⟨hinside, -, e, hentry⟩ := Disk.mem_below.mp hbelow
      rw [List.prefix_iff_eq_append.mp hinside] at hlink hfind ⊢
      have hfile := (tree.find?_eq_file_iff hentry).mp ⟨hlink, hfind⟩
      rw [tree.plain_eq hentry fun target htarget => ?_]
      · exact hbelow
      · rw [hfile] at htarget
        cases htarget

/-- Files that stand below the root have different names in the project. -/
theorem fileName_inj {w : Workspace} {root : Path} (tree : w.disk.IsTree) {p q : Path}
    (hp : p.anchor = .top ∧ p.names ∈ w.disk.below root.names)
    (hq : q.anchor = .top ∧ q.names ∈ w.disk.below root.names)
    (same : fileName root p = fileName root q) : p = q := by
  have hparts : ∀ {path : Path}, path.names ∈ w.disk.below root.names →
      path.names.drop root.names.length ≠ [] ∧
        ∀ t ∈ path.names.drop root.names.length, CodePoint.char '/' ∉ t := by
    intro path hpath
    obtain ⟨-, hlength, e, hentry⟩ := Disk.mem_below.mp hpath
    constructor
    · rw [Ne, List.drop_eq_nil_iff]
      omega
    · intro t ht
      exact (tree.named _ hentry t (List.mem_of_mem_drop ht)).2
  obtain ⟨hpne, hpslash⟩ := hparts hp.2
  obtain ⟨hqne, hqslash⟩ := hparts hq.2
  have hdrop := Text.join_inj hpne hqne hpslash hqslash same
  have hnames : p.names = q.names := by
    rw [← List.prefix_iff_eq_append.mp (Disk.mem_below.mp hp.2).1,
      ← List.prefix_iff_eq_append.mp (Disk.mem_below.mp hq.2).1, hdrop]
  obtain ⟨anchor, names⟩ := p
  obtain ⟨anchor', names'⟩ := q
  cases hp.1
  cases hq.1
  cases hnames
  rfl

end Project

end Readiness
