import Readiness.Proofs.DiscoveredFiles
import Readiness.Proofs.RepairLedger
import Readiness.Proofs.SavedFile
import Readiness.Proofs.TextOrder

/-!
# What the repair of one file accounts for

A repair goes from file to file, and what it does to the disk for one of them must
not matter to the next. `Repairable` is what is asked of a disk for that, and
`Accounts` is what is promised in return, of the ledger and of the disk
afterwards. For one file both come together here: its repair accounts for it,
every other file is read as before, and the disk is still one on which the others
can be repaired.
-/

namespace Readiness

namespace Project

open Repair

/-! ## Issues by their files -/

theorem mem_filesOf {issues : List Issue} {f : Text} :
    f ∈ filesOf issues ↔ ∃ i ∈ issues, i.file = f := by
  rw [filesOf, List.mem_mergeSort, List.mem_eraseDups, List.mem_map]

theorem nodup_filesOf (issues : List Issue) : (filesOf issues).Nodup :=
  (List.mergeSort_perm _ _).nodup_iff.mpr (nodup_eraseDups _)

theorem filesOf_ascending (issues : List Issue) : (filesOf issues).Pairwise (· < ·) := by
  have hle : (filesOf issues).Pairwise fun a b => decide (a ≤ b) = true :=
    List.pairwise_mergeSort Text.le_trans_decide Text.le_total_decide _
  exact hle.imp₂ (fun a b hab hne => Std.lt_of_le_of_ne (of_decide_eq_true hab) hne)
    (nodup_filesOf issues)

/-- Issues taken file by file are all the issues. -/
theorem flatMap_file_perm {files : List Text} (nodup : files.Nodup) : ∀ {issues : List Issue},
    (∀ i ∈ issues, i.file ∈ files) →
      (files.flatMap fun f => issues.filter (·.file == f)).Perm issues := by
  induction files with
  | nil =>
      intro issues h
      rw [List.eq_nil_iff_forall_not_mem.mpr fun i hi => List.not_mem_nil (h i hi)]
      exact .nil
  | cons f more ih =>
      intro issues h
      obtain ⟨hf, hmore⟩ := List.nodup_cons.mp nodup
      have hothers : (more.flatMap fun g => issues.filter (·.file == g)) =
          more.flatMap fun g => (issues.filter fun i => !(i.file == f)).filter (·.file == g) := by
        refine List.flatMap_congr fun g hg => ?_
        rw [List.filter_filter]
        refine List.filter_congr fun i _ => ?_
        by_cases hig : i.file = g
        · have hne : (i.file == f) = false := beq_eq_false_iff_ne.mpr (hig ▸ fun h => hf (h ▸ hg))
          rw [hne, Bool.not_false, Bool.and_true]
        · rw [beq_eq_false_iff_ne.mpr hig, Bool.false_and]
      have hfiles : ∀ i ∈ issues.filter fun i => !(i.file == f), i.file ∈ more := by
        intro i hi
        obtain ⟨hi, hne⟩ := List.mem_filter.mp hi
        rw [Bool.not_eq_true', beq_eq_false_iff_ne] at hne
        exact (List.mem_cons.mp (h i hi)).resolve_left hne
      rw [List.flatMap_cons, hothers]
      exact ((ih hmore hfiles).append_left _).trans (List.filter_append_perm _ _)

/-- The issues of one file in the order of their entries: that in which they are repaired, or, if the
file cannot be read, that in which they are listed. -/
def entryOrder (w : Workspace) (root : Path) (issues : List Issue) (file : Text) : List Issue :=
  let own := issues.filter (·.file == file)
  match w.read (root ++ Path.ofText file) with
  | .error _ => own
  | .ok _ => processingOrder own

theorem entryOrder_perm (w : Workspace) (root : Path) {issues : List Issue} :
    ((filesOf issues).flatMap (entryOrder w root issues)).Perm issues := by
  have hown : ∀ f, (entryOrder w root issues f).Perm (issues.filter (·.file == f)) := by
    intro f
    rw [entryOrder]
    split
    · rfl
    · exact List.mergeSort_perm _ _
  exact (List.Perm.flatMap_left _ fun f _ => hown f).trans
    (flatMap_file_perm (nodup_filesOf issues) fun i hi => mem_filesOf.mpr ⟨i, hi, rfl⟩)

/-! ## What is asked of a disk, and what is promised -/

/-- A disk on which the files of a project can be repaired and nothing stands in the way: there are
no links, every file has a place of its own, and what is to be written can be. -/
structure Repairable (w : Workspace) (root : Path) (scope : RepairScope)
    (e : Text → Nat → Engine Script) (issues : List Issue) (files : List Text) : Prop where
  plain : w.disk.IsPlain
  here : w.disk.entry? w.here = some .folder
  down : ∀ f ∈ files, Disk.GoesDown (placeOf w root f)
  apart : ∀ f ∈ files, ∀ g ∈ files, placeOf w root f = placeOf w root g → f = g
  /-- Lines end in line feeds. -/
  lineFeeds : ∀ f ∈ files, ∀ b, w.bytes (root ++ Path.ofText f) = .ok b → returnByte ∉ b
  /-- Where a file is kept there is no folder, -/
  clear : scope.backups = true → ∀ f ∈ files, w.disk.entry? (keptAt w root f) ≠ some .folder
  /-- and no file of the project, there or below. -/
  beside : scope.backups = true →
    ∀ f ∈ files, ∀ g ∈ files, ¬ keptAt w root f <+: placeOf w root g
  /-- The parser answers, -/
  answers : ∀ f ∈ files, ∀ t, w.read (root ++ Path.ofText f) = .ok t →
    ∃ parsed, scriptGrammar.read t = .ok parsed
  /-- and what comes of a file can be written. -/
  encodes : ∀ f ∈ files, ∀ t r, w.read (root ++ Path.ofText f) = .ok t →
    Repair.repairInTurns scriptGrammar (e f) f t (issues.filter (·.file == f)) = .ok r →
      Text.encodingFault? r.text = none

/-- A file has another text after a repair. -/
def Changed (w : Workspace) (root : Path) (l : ProjectLedger) (f : Text) : Prop :=
  ∃ t, (f, t) ∈ l.files ∧ w.read (root ++ Path.ofText f) ≠ .ok t

/-- What a ledger tells about the repair of files. -/
structure Tallies (w : Workspace) (root : Path) (e : Text → Nat → Engine Script)
    (issues : List Issue) (files : List Text) (l : ProjectLedger) : Prop where
  /-- Each issue has an entry, file by file. -/
  entries : l.entries.map (·.issueId) = (files.flatMap (entryOrder w root issues)).map (·.id)
  /-- Each file that can be read has a text, -/
  texts : l.files.map (·.1) = files.filter fun f => (w.read (root ++ Path.ofText f)).isOk
  /-- which is what the repair of its issues makes of what is read. -/
  repaired : ∀ f t, (f, t) ∈ l.files → ∃ t₀ r, w.read (root ++ Path.ofText f) = .ok t₀ ∧
    Repair.repairInTurns scriptGrammar (e f) f t₀ (issues.filter (·.file == f)) = .ok r ∧
    t = r.text

/-- What a ledger and the disk after a repair have to do with each other. -/
structure Accounts (w : Workspace) (root : Path) (scope : RepairScope)
    (e : Text → Nat → Engine Script) (issues : List Issue) (files : List Text)
    (l : ProjectLedger) (d : Disk) : Prop extends Tallies w root e issues files l where
  /-- A file that has a text holds it. -/
  holds : ∀ f t, (f, t) ∈ l.files → d.entry? (placeOf w root f) = some (.file t.utf8)
  /-- The old file is kept if its text has changed. -/
  kept : scope.backups = true → ∀ f, Changed w root l f →
    d.entry? (keptAt w root f) = w.disk.entry? (placeOf w root f)
  /-- All else is as it was. -/
  frame : ∀ names, (∀ f, Changed w root l f →
      names ≠ placeOf w root f ∧ (scope.backups = true → names ≠ keptAt w root f)) →
    d.entry? names = w.disk.entry? names

section Run

variable {w : Workspace} {root : Path} {scope : RepairScope} {e : Text → Nat → Engine Script}
  {issues : List Issue} {files : List Text}

theorem Repairable.stands (able : Repairable w root scope e issues files) {f t : Text}
    (mem : f ∈ files) (read : w.read (root ++ Path.ofText f) = .ok t) :
    ∃ folder name, Stands w (root ++ Path.ofText f) t folder name :=
  stands_of_read able.plain able.here (able.down f mem) (able.lineFeeds f mem) read

theorem Tallies.read_of_mem {l : ProjectLedger} (tallies : Tallies w root e issues files l)
    {f t : Text} (mem : (f, t) ∈ l.files) :
    f ∈ files ∧ ∃ t₀, w.read (root ++ Path.ofText f) = .ok t₀ := by
  have hf : f ∈ l.files.map (·.1) := List.mem_map_of_mem mem
  rw [tallies.texts] at hf
  obtain ⟨t₀, -, hread, -⟩ := tallies.repaired f t mem
  exact ⟨(List.mem_filter.mp hf).1, t₀, hread⟩

theorem Tallies.read_of_changed {l : ProjectLedger} (tallies : Tallies w root e issues files l)
    {f : Text} (changed : Changed w root l f) :
    f ∈ files ∧ ∃ t₀, w.read (root ++ Path.ofText f) = .ok t₀ := by
  obtain ⟨t, mem, -⟩ := changed
  exact tallies.read_of_mem mem

theorem Repairable.kept_inj (able : Repairable w root scope e issues files) {f g t u : Text}
    (hf : f ∈ files) (hg : g ∈ files) (hfread : w.read (root ++ Path.ofText f) = .ok t)
    (hgread : w.read (root ++ Path.ofText g) = .ok u)
    (same : keptAt w root f = keptAt w root g) : f = g := by
  obtain ⟨folder, name, hstands⟩ := able.stands hf hfread
  obtain ⟨folder', name', hstands'⟩ := able.stands hg hgread
  rw [keptAt, keptAt, hstands.kept, hstands'.kept] at same
  obtain ⟨rfl, hname⟩ := List.append_inj' same rfl
  have hname := List.append_cancel_right (List.cons.inj hname).1
  refine able.apart f hf g hg ?_
  rw [placeOf, placeOf, hstands.place, hstands'.place, hname]

/-! ## One file after the other -/

section One

variable {f t : Text} {r : Repaired}

theorem tallies_read (read : w.read (root ++ Path.ofText f) = .ok t)
    (repaired : Repair.repairInTurns scriptGrammar (e f) f t (issues.filter (·.file == f)) = .ok r) :
    Tallies w root e issues [f] ⟨r.ledger, [(f, r.text)]⟩ := by
  constructor
  case entries =>
    rw [map_issueId_of_repairInTurns repaired, List.flatMap_singleton, entryOrder, read]
  case texts =>
    rw [List.filter_singleton, read]
    rfl
  case repaired =>
    intro g u hu
    cases List.mem_singleton.mp hu
    exact ⟨t, r, read, repaired, rfl⟩

theorem accounts_unread {fault : ReadFault}
    (unread : w.read (root ++ Path.ofText f) = .error fault) :
    Accounts w root scope e issues [f]
      ⟨(issues.filter (·.file == f)).map (LedgerEntry.failed ·.id fault.message), []⟩ w.disk := by
  constructor
  case toTallies =>
    constructor
    case entries =>
      rw [List.flatMap_singleton, entryOrder, unread, List.map_map]
      rfl
    case texts =>
      rw [List.filter_singleton, unread]
      rfl
    case repaired => exact fun g u hu => absurd hu List.not_mem_nil
  case holds => exact fun g u hu => absurd hu List.not_mem_nil
  case kept =>
    rintro - g ⟨u, hu, -⟩
    exact absurd hu List.not_mem_nil
  case frame => exact fun _ _ => rfl

theorem accounts_settled (able : Repairable w root scope e issues files) (mem : f ∈ files)
    (read : w.read (root ++ Path.ofText f) = .ok t)
    (repaired : Repair.repairInTurns scriptGrammar (e f) f t (issues.filter (·.file == f)) = .ok r)
    (same : r.text = t) :
    Accounts w root scope e issues [f] ⟨r.ledger, [(f, r.text)]⟩ w.disk := by
  obtain ⟨folder, name, hstands⟩ := able.stands mem read
  have hunchanged : ∀ g, ¬ Changed w root ⟨r.ledger, [(f, r.text)]⟩ g := by
    rintro g ⟨u, hu, hne⟩
    cases List.mem_singleton.mp hu
    exact hne (same ▸ read)
  constructor
  case toTallies => exact tallies_read read repaired
  case holds =>
    intro g u hu
    cases List.mem_singleton.mp hu
    rw [placeOf, hstands.place, hstands.file, same]
  case kept => exact fun _ g hg => absurd hg (hunchanged g)
  case frame => exact fun _ _ => rfl

theorem accounts_saved (able : Repairable w root scope e issues files) (mem : f ∈ files)
    (read : w.read (root ++ Path.ofText f) = .ok t)
    (repaired : Repair.repairInTurns scriptGrammar (e f) f t (issues.filter (·.file == f)) = .ok r)
    (changed : r.text ≠ t) :
    ∃ d, save w (root ++ Path.ofText f) r.text scope.backups = .ok (⟨d, w.here⟩, none) ∧
      Accounts w root scope e issues [f] ⟨r.ledger, [(f, r.text)]⟩ d := by
  obtain ⟨folder, name, hstands⟩ := able.stands mem read
  have hclear : scope.backups = true →
      w.disk.entry? (folder ++ [name ++ ".bak"]) ≠ some .folder := fun hbackups =>
    hstands.kept ▸ able.clear hbackups f mem
  have hchanged : Changed w root ⟨r.ledger, [(f, r.text)]⟩ f :=
    ⟨r.text, List.mem_singleton_self _, fun h => changed (Except.ok.inj (h.symm.trans read))⟩
  refine ⟨_, hstands.save able.plain r.text scope.backups
    (able.encodes f mem t r read repaired) hclear, ?_⟩
  constructor
  case toTallies => exact tallies_read read repaired
  case holds =>
    intro g u hu
    cases List.mem_singleton.mp hu
    rw [placeOf, hstands.place]
    exact Disk.entry?_overwrite_place (List.concat_ne_nil _ _)
  case kept =>
    rintro hbackups g ⟨u, hu, -⟩
    cases List.mem_singleton.mp hu
    rw [keptAt, placeOf, hstands.kept, hstands.place, hstands.file, hbackups]
    exact Disk.entry?_overwrite_kept (List.concat_ne_nil _ _) kept_ne
  case frame =>
    intro names hnames
    obtain ⟨hplace, hkept⟩ := hnames f hchanged
    rw [placeOf, hstands.place] at hplace
    rw [keptAt, hstands.kept] at hkept
    exact Disk.entry?_overwrite_other hplace hkept

end One

theorem Repairable.repaired (able : Repairable w root scope e issues files) {f t : Text}
    (mem : f ∈ files) (read : w.read (root ++ Path.ofText f) = .ok t) :
    ∃ r, Repair.repairInTurns scriptGrammar (e f) f t (issues.filter (·.file == f)) = .ok r := by
  obtain ⟨parsed, hparsed⟩ := able.answers f mem t read
  cases parsed with
  | error reason => exact ⟨_, repairInTurns_unparsed hparsed _ _ _⟩
  | ok tree => exact ⟨_, repairInTurns_parsed hparsed _ _ _⟩

/-- The repair of one file comes to something that accounts for it, and so does a repair that
writes nothing. -/
theorem accounts_file (able : Repairable w root scope e issues files) (written : scope.write = true)
    {f : Text} (mem : f ∈ files) :
    ∃ entries text d,
      (repairFileInTurns w root scope (e f) f (issues.filter (·.file == f))).outcome =
        .ok (entries, text) ∧
      (repairFileInTurns w root scope (e f) f (issues.filter (·.file == f))).workspace =
        ⟨d, w.here⟩ ∧
      (repairFileInTurns w root { scope with write := false } (e f) f
        (issues.filter (·.file == f))).outcome = .ok (entries, text) ∧
      Accounts w root scope e issues [f] ⟨entries, (text.map ((f, ·))).toList⟩ d := by
  cases hread : w.read (root ++ Path.ofText f) with
  | error fault =>
      obtain ⟨houtcome, hworkspace⟩ := repairFileInTurns_unread hread
      exact ⟨_, _, w.disk, houtcome, hworkspace, (repairFileInTurns_unread hread).1,
        accounts_unread hread⟩
  | ok t =>
      obtain ⟨r, hrepaired⟩ := able.repaired mem hread
      have hdry : (repairFileInTurns w root { scope with write := false } (e f) f
          (issues.filter (·.file == f))).outcome = .ok (r.ledger, some r.text) :=
        (repairFileInTurns_settled hread hrepaired rfl).1
      by_cases hsame : r.text = t
      · have hsettled : (scope.write && r.text != t) = false := by
          rw [hsame, bne_self_eq_false, Bool.and_false]
        obtain ⟨houtcome, hworkspace⟩ := repairFileInTurns_settled hread hrepaired hsettled
        exact ⟨_, _, w.disk, houtcome, hworkspace, hdry,
          accounts_settled able mem hread hrepaired hsame⟩
      · have hwrites : (scope.write && r.text != t) = true := by
          rw [written, Bool.true_and]
          exact bne_iff_ne.mpr hsame
        obtain ⟨d, hsaved, haccounts⟩ := accounts_saved able mem hread hrepaired hsame
        obtain ⟨houtcome, hworkspace⟩ := repairFileInTurns_saved hread hrepaired hwrites hsaved
        exact ⟨_, _, d, houtcome, hworkspace, hdry, haccounts⟩

/-! ### What is left for the files that are still to come -/

section Next

variable {f : Text} {l : ProjectLedger} {d : Disk}
  (able : Repairable w root scope e issues files) (mem : f ∈ files)
  (acc : Accounts w root scope e issues [f] l d)

include able mem acc

/-- After the repair of one file a place holds what it held, or one of the files that were
written. -/
theorem Accounts.entry_cases (names : List Text) :
    d.entry? names = w.disk.entry? names ∨
    (names = placeOf w root f ∧
      ∃ old new, w.disk.entry? names = some (.file old) ∧ d.entry? names = some (.file new)) ∨
    (scope.backups = true ∧ names = keptAt w root f ∧ ∃ old, d.entry? names = some (.file old)) := by
  by_cases hchanged : Changed w root l f
  · obtain ⟨t, ht, -⟩ := id hchanged
    obtain ⟨-, t₀, hread⟩ := acc.read_of_mem ht
    obtain ⟨folder, name, hstands⟩ := able.stands mem hread
    have hfile : w.disk.entry? (placeOf w root f) = some (.file t₀.utf8) := by
      rw [placeOf, hstands.place, hstands.file]
    by_cases hplace : names = placeOf w root f
    · rw [hplace]
      exact .inr (.inl ⟨rfl, _, _, hfile, acc.holds f t ht⟩)
    · by_cases hkept : scope.backups = true ∧ names = keptAt w root f
      · rw [hkept.2]
        exact .inr (.inr ⟨hkept.1, rfl, _, (acc.kept hkept.1 f hchanged).trans hfile⟩)
      · left
        refine acc.frame names fun g hg => ?_
        obtain rfl := List.mem_singleton.mp (acc.read_of_changed hg).1
        exact ⟨hplace, fun hbackups h => hkept ⟨hbackups, h⟩⟩
  · left
    refine acc.frame names fun g hg => ?_
    obtain rfl := List.mem_singleton.mp (acc.read_of_changed hg).1
    exact absurd hg hchanged

/-- The other files are as they were, -/
theorem Accounts.entry_eq {g : Text} (hg : g ∈ files) (other : g ≠ f) :
    d.entry? (placeOf w root g) = w.disk.entry? (placeOf w root g) := by
  rcases acc.entry_cases able mem (placeOf w root g) with hsame | ⟨hplace, -⟩ | ⟨hbackups, h, -⟩
  · exact hsame
  · exact absurd (able.apart g hg f mem hplace) other
  · exact absurd (h ▸ List.prefix_refl _) (able.beside hbackups f mem g hg)

/-- and the ways to them lead there still. -/
theorem Accounts.bytes_eq {g : Text} (hg : g ∈ files) (other : g ≠ f) :
    Workspace.bytes ⟨d, w.here⟩ (root ++ Path.ofText g) = w.bytes (root ++ Path.ofText g) := by
  have hway : ∀ above, above <+: placeOf w root g → Disk.Alike w.disk d above := by
    intro above habove
    rcases acc.entry_cases able mem above with hsame | ⟨-, old, new, hold, hnew⟩ | ⟨hbackups, h, -⟩
    · exact .inl hsame
    · exact .inr ⟨old, new, hold, hnew⟩
    · exact absurd (h ▸ habove) (able.beside hbackups f mem g hg)
  have hbytes := Disk.bytes_congr able.plain (able.down g hg) hway
    (acc.entry_eq able mem hg other)
  rw [Workspace.bytes, Workspace.bytes]
  exact congrArg (Except.mapError _) hbytes

theorem Accounts.read_eq {g : Text} (hg : g ∈ files) (other : g ≠ f) :
    Workspace.read ⟨d, w.here⟩ (root ++ Path.ofText g) = w.read (root ++ Path.ofText g) :=
  read_congr (acc.bytes_eq able mem hg other)

/-- The other files can still be repaired. -/
theorem Repairable.after {more : List Text} (sub : ∀ g ∈ more, g ∈ files ∧ g ≠ f) :
    Repairable ⟨d, w.here⟩ root scope e issues more where
  plain := by
    intro names target hlink
    rcases acc.entry_cases able mem names with hsame | ⟨-, _, _, -, hnew⟩ | ⟨-, -, _, hnew⟩
    · exact able.plain names target (hsame ▸ hlink)
    · rw [hnew] at hlink
      cases hlink
    · rw [hnew] at hlink
      cases hlink
  here := by
    have hhere := able.here
    rcases acc.entry_cases able mem w.here with hsame | ⟨-, _, _, hold, -⟩ | ⟨hbackups, h, -⟩
    · exact hsame.trans hhere
    · rw [hold] at hhere
      cases hhere
    · exact absurd (h ▸ hhere) (able.clear hbackups f mem)
  down := fun g hg => able.down g (sub g hg).1
  apart := fun g hg h hh => able.apart g (sub g hg).1 h (sub h hh).1
  lineFeeds := by
    intro g hg b hb
    rw [acc.bytes_eq able mem (sub g hg).1 (sub g hg).2] at hb
    exact able.lineFeeds g (sub g hg).1 b hb
  clear := by
    intro hbackups g hg hfolder
    rcases acc.entry_cases able mem (keptAt w root g) with hsame | ⟨-, _, _, -, hnew⟩ | ⟨-, -, _, hnew⟩
    · exact able.clear hbackups g (sub g hg).1 (hsame ▸ hfolder)
    · exact absurd (hnew.symm.trans hfolder) nofun
    · exact absurd (hnew.symm.trans hfolder) nofun
  beside := fun hbackups g hg h hh => able.beside hbackups g (sub g hg).1 h (sub h hh).1
  answers := by
    intro g hg t ht
    rw [acc.read_eq able mem (sub g hg).1 (sub g hg).2] at ht
    exact able.answers g (sub g hg).1 t ht
  encodes := by
    intro g hg t r ht
    rw [acc.read_eq able mem (sub g hg).1 (sub g hg).2] at ht
    exact able.encodes g (sub g hg).1 t r ht

end Next

end Run

end Project

end Readiness
