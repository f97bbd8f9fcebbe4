import Readiness.Proofs.FileAccount

/-!
# What the repair of a project leaves behind

The accounts of the files, one after the other, are the account of the project:
what was done for one file is not undone for another, and what is found out about a
file does not depend on those before it. The second is why a repair that writes nothing
comes to the same ledger.

The entries of a file come in the order in which its issues are repaired, also if
its text does not parse. The one exception is a file that cannot be read, whose
entries come as its issues are listed.
-/

namespace Readiness

namespace Project

open Repair

/-! ## Repairs that write nothing -/

/-- What is not to be written is left alone, whatever happens. -/
theorem repairFileInTurns_unwritten {scope : RepairScope} (unwritten : scope.write = false)
    (w : Workspace) (root : Path) (e : Nat → Engine Script) (file : Text) (issues : List Issue) :
    (repairFileInTurns w root scope e file issues).workspace = w := by
  rw [repairFileInTurns]
  dsimp only
  split
  · rfl
  · split
    · rfl
    · rw [unwritten, Bool.false_and, if_neg Bool.false_ne_true]

theorem repairFilesInTurns_unwritten {scope : RepairScope} (unwritten : scope.write = false)
    (w : Workspace) (root : Path) (e : Text → Nat → Engine Script) (issues : List Issue)
    (files : List Text) : (repairFilesInTurns w root scope e issues files).workspace = w := by
  induction files with
  | nil => rfl
  | cons file more ih =>
      have hfile := repairFileInTurns_unwritten unwritten w root (e file) file
        (issues.filter (·.file == file))
      rw [repairFilesInTurns]
      dsimp only
      split
      · exact hfile
      · dsimp only
        rw [hfile]
        exact ih

/-- A repair that writes nothing finds out no more about the disk than what it reads. -/
theorem repairFilesInTurns_congr {scope : RepairScope} (unwritten : scope.write = false)
    {w w' : Workspace} {root : Path} {e : Text → Nat → Engine Script} {issues : List Issue}
    {files : List Text}
    (reads : ∀ f ∈ files, w'.read (root ++ Path.ofText f) = w.read (root ++ Path.ofText f)) :
    (repairFilesInTurns w' root scope e issues files).ledger =
      (repairFilesInTurns w root scope e issues files).ledger := by
  induction files with
  | nil => rfl
  | cons file more ih =>
      obtain ⟨hread, hreads⟩ := List.forall_mem_cons.mp reads
      have hfile : ∀ own, (repairFileInTurns w' root scope (e file) file own).outcome =
          (repairFileInTurns w root scope (e file) file own).outcome := by
        intro own
        rw [repairFileInTurns, repairFileInTurns, hread, unwritten]
        dsimp only
        split
        · rfl
        · split
          · rfl
          · rfl
      rw [repairFilesInTurns, repairFilesInTurns]
      simp only [hfile, repairFileInTurns_unwritten unwritten]
      split
      · rfl
      · simp only [ih hreads]

/-! ## All files -/

section Run

variable {w : Workspace} {root : Path} {scope : RepairScope} {e : Text → Nat → Engine Script}
  {issues : List Issue} {files : List Text}

theorem accounts_nil : Accounts w root scope e issues [] ⟨[], []⟩ w.disk where
  entries := rfl
  texts := rfl
  repaired _ _ h := absurd h List.not_mem_nil
  holds _ _ h := absurd h List.not_mem_nil
  kept _ _ h := by
    obtain ⟨t, ht, -⟩ := h
    exact absurd ht List.not_mem_nil
  frame _ _ := rfl

theorem changed_append {entries : List LedgerEntry} {l l' : ProjectLedger} {g : Text} :
    Changed w root ⟨entries, l.files ++ l'.files⟩ g ↔
      Changed w root l g ∨ Changed w root l' g := by
  simp only [Changed, List.mem_append, or_and_right, exists_or]

/-- What has changed since a file was read does not depend on when it was read, if it was read the
same. -/
theorem Tallies.changed_iff {w' : Workspace} {l : ProjectLedger}
    (tallies : Tallies w' root e issues files l)
    (reads : ∀ f ∈ files, w'.read (root ++ Path.ofText f) = w.read (root ++ Path.ofText f))
    {g : Text} : Changed w root l g ↔ Changed w' root l g :=
  exists_congr fun _ => and_congr_right fun ht => by rw [reads g (tallies.read_of_mem ht).1]

theorem Tallies.append {w' : Workspace} {done more : List Text} {l l' : ProjectLedger}
    (first : Tallies w root e issues done l) (rest : Tallies w' root e issues more l')
    (reads : ∀ f ∈ more, w'.read (root ++ Path.ofText f) = w.read (root ++ Path.ofText f)) :
    Tallies w root e issues (done ++ more) ⟨l.entries ++ l'.entries, l.files ++ l'.files⟩ := by
  constructor
  case entries =>
    have horder : more.flatMap (entryOrder w' root issues) =
        more.flatMap (entryOrder w root issues) :=
      List.flatMap_congr fun g hg => by rw [entryOrder, entryOrder, reads g hg]
    rw [List.map_append, first.entries, rest.entries, horder, List.flatMap_append, List.map_append]
  case texts =>
    have hreadable : (more.filter fun g => (w'.read (root ++ Path.ofText g)).isOk) =
        more.filter fun g => (w.read (root ++ Path.ofText g)).isOk :=
      List.filter_congr fun g hg => by rw [reads g hg]
    rw [List.map_append, first.texts, rest.texts, hreadable, List.filter_append]
  case repaired =>
    intro g t ht
    rcases List.mem_append.mp ht with ht | ht
    · exact first.repaired g t ht
    · have hrepaired := rest.repaired g t ht
      rwa [reads g (rest.read_of_mem ht).1] at hrepaired

section Cons

variable {f : Text} {more : List Text} {l l' : ProjectLedger} {d d' : Disk}
  (able : Repairable w root scope e issues (f :: more)) (fresh : f ∉ more)
  (acc : Accounts w root scope e issues [f] l d)
  (rest : Accounts ⟨d, w.here⟩ root scope e issues more l' d')

include able fresh

include rest in
/-- What was written for the first file is not written over, -/
theorem Accounts.place_rest : d'.entry? (placeOf w root f) = d.entry? (placeOf w root f) := by
  refine rest.frame _ fun g hg => ?_
  have hgmore := (rest.read_of_changed hg).1
  have hgmem := List.mem_cons_of_mem f hgmore
  refine ⟨fun heq => ?_, fun hbackups heq => ?_⟩
  · exact fresh (able.apart f List.mem_cons_self g hgmem heq ▸ hgmore)
  · exact able.beside hbackups g hgmem f List.mem_cons_self (heq ▸ List.prefix_refl _)

include acc

theorem Accounts.reads_rest : ∀ g ∈ more,
    Workspace.read ⟨d, w.here⟩ (root ++ Path.ofText g) = w.read (root ++ Path.ofText g) :=
  fun _ hg => acc.read_eq able List.mem_cons_self (List.mem_cons_of_mem f hg)
    fun heq => fresh (heq ▸ hg)

include rest

/-- and what was kept of it stays. -/
theorem Accounts.kept_rest (backups : scope.backups = true) (changed : Changed w root l f) :
    d'.entry? (keptAt w root f) = d.entry? (keptAt w root f) := by
  obtain ⟨-, t, hread⟩ := acc.read_of_changed changed
  refine rest.frame _ fun g hg => ?_
  obtain ⟨hgmore, u, hgread⟩ := rest.read_of_changed hg
  rw [acc.reads_rest able fresh g hgmore] at hgread
  have hgmem := List.mem_cons_of_mem f hgmore
  refine ⟨fun heq => ?_, fun _ heq => ?_⟩
  · exact able.beside backups f List.mem_cons_self g hgmem (heq ▸ List.prefix_refl _)
  · exact fresh (able.kept_inj List.mem_cons_self hgmem hread hgread heq ▸ hgmore)

theorem Accounts.cons :
    Accounts w root scope e issues (f :: more) ⟨l.entries ++ l'.entries, l.files ++ l'.files⟩ d' := by
  have hreads := acc.reads_rest able fresh
  constructor
  case toTallies => exact acc.toTallies.append rest.toTallies hreads
  case holds =>
    intro g t ht
    rcases List.mem_append.mp ht with ht | ht
    · obtain rfl := List.mem_singleton.mp (acc.read_of_mem ht).1
      exact (rest.place_rest able fresh).trans (acc.holds g t ht)
    · exact rest.holds g t ht
  case kept =>
    intro hbackups g hg
    rcases changed_append.mp hg with hfirst | hlater
    · obtain rfl := List.mem_singleton.mp (acc.read_of_changed hfirst).1
      exact (acc.kept_rest able fresh rest hbackups hfirst).trans (acc.kept hbackups g hfirst)
    · have hrest := (rest.changed_iff hreads).mp hlater
      have hgmore := (rest.read_of_changed hrest).1
      have hplace := acc.entry_eq able List.mem_cons_self (List.mem_cons_of_mem f hgmore)
        fun heq => fresh (heq ▸ hgmore)
      exact (rest.kept hbackups g hrest).trans hplace
  case frame =>
    intro names hnames
    have hrest := rest.frame names fun g hg =>
      hnames g (changed_append.mpr (.inr ((rest.changed_iff hreads).mpr hg)))
    exact hrest.trans (acc.frame names fun g hg => hnames g (changed_append.mpr (.inl hg)))

end Cons

/-- The repair of files that can be repaired accounts for all of them, and a repair that writes
nothing comes to the same ledger. -/
theorem accounts_files (written : scope.write = true) : ∀ {w : Workspace}, files.Nodup →
    Repairable w root scope e issues files →
    ∃ l d, (repairFilesInTurns w root scope e issues files).ledger = .ok l ∧
      (repairFilesInTurns w root scope e issues files).workspace = ⟨d, w.here⟩ ∧
      (repairFilesInTurns w root { scope with write := false } e issues files).ledger = .ok l ∧
      Accounts w root scope e issues files l d := by
  induction files with
  | nil => exact fun {w} _ _ => ⟨_, w.disk, rfl, rfl, rfl, accounts_nil⟩
  | cons f more ih =>
      intro w nodup able
      obtain ⟨fresh, nodup⟩ := List.nodup_cons.mp nodup
      have hf : f ∈ f :: more := List.mem_cons_self
      have hother : ∀ g ∈ more, g ∈ f :: more ∧ g ≠ f := fun g hg =>
        ⟨List.mem_cons_of_mem f hg, fun heq => fresh (heq ▸ hg)⟩
      obtain ⟨entries, text, d, houtcome, hworkspace, hdry, hacc⟩ := accounts_file able written hf
      obtain ⟨l, d', hledger, hlast, hdryrest, hrest⟩ := ih nodup (able.after hf hacc hother)
      have hdrymore : (repairFilesInTurns ⟨d, w.here⟩ root { scope with write := false } e issues
          more).ledger =
          (repairFilesInTurns w root { scope with write := false } e issues more).ledger :=
        repairFilesInTurns_congr rfl fun g hg =>
          hacc.read_eq able hf (hother g hg).1 (hother g hg).2
      refine ⟨_, d', ?_, ?_, ?_, hacc.cons able fresh hrest⟩
      · rw [repairFilesInTurns]
        simp only [houtcome, hworkspace, hledger]
        rfl
      · rw [repairFilesInTurns]
        simp only [houtcome, hworkspace]
        exact hlast
      · rw [repairFilesInTurns]
        simp only [hdry, repairFileInTurns_unwritten, ← hdrymore, hdryrest]
        rfl

theorem Accounts.not_kept {l : ProjectLedger} {d : Disk}
    (able : Repairable w root scope e issues files)
    (acc : Accounts w root scope e issues files l d) (backups : scope.backups = true) {f t : Text}
    (mem : f ∈ files) (read : w.read (root ++ Path.ofText f) = .ok t)
    (unchanged : ¬ Changed w root l f) :
    d.entry? (keptAt w root f) = w.disk.entry? (keptAt w root f) := by
  refine acc.frame _ fun g hg => ?_
  obtain ⟨hgmem, u₀, hgread⟩ := acc.read_of_changed hg
  refine ⟨fun heq => ?_, fun _ heq => ?_⟩
  · exact able.beside backups f mem g hgmem (heq ▸ List.prefix_refl _)
  · exact unchanged (able.kept_inj mem hgmem read hgread heq ▸ hg)

/-- The repair of a project accounts for every issue and leaves all else alone. There is an entry
for each issue that is wanted, in ascending order of the files; the issues of a file come in the
order in which they are repaired if the file was read, and as they are listed if it was not. A
file that was read holds its text in the ledger, the old one is kept just if that is another, and
every other place is as it was. A repair that writes nothing comes to the same ledger and leaves the
disk alone. -/
theorem repairInTurns_accounts {a : Analysis} (written : scope.write = true)
    (wanted : Issue.wanted scope.types a.issues = issues)
    (able : Repairable w root scope e issues (filesOf issues)) :
    ∃ (l : ProjectLedger) (d : Disk),
      (repairInTurns w root scope e a).ledger = .ok l ∧
      (repairInTurns w root scope e a).workspace = ⟨d, w.here⟩ ∧
      Accounts w root scope e issues (filesOf issues) l d ∧
      ((filesOf issues).flatMap (entryOrder w root issues)).Perm issues ∧
      (filesOf issues).Pairwise (· < ·) ∧
      (scope.backups = true → ∀ f ∈ filesOf issues, ∀ t, w.read (root ++ Path.ofText f) = .ok t →
        ¬ Changed w root l f → d.entry? (keptAt w root f) = w.disk.entry? (keptAt w root f)) ∧
      (repairInTurns w root { scope with write := false } e a).ledger = .ok l ∧
      (repairInTurns w root { scope with write := false } e a).workspace = w := by
  subst wanted
  obtain ⟨l, d, hledger, hworkspace, hdry, hacc⟩ := accounts_files written (nodup_filesOf _) able
  exact ⟨l, d, hledger, hworkspace, hacc, entryOrder_perm w root, filesOf_ascending _,
    fun backups f mem t read => hacc.not_kept able backups mem read, hdry,
    repairFilesInTurns_unwritten rfl w root e _ _⟩

end Run

/-- What is asked of a disk for one file. -/
theorem Repairable.one {w : Workspace} {root : Path} {e : Nat → Engine Script}
    {issues : List Issue} {f : Text} (place kept : List Text) (plain : w.disk.IsPlain)
    (here : w.disk.entry? w.here = some .folder) (hplace : placeOf w root f = place)
    (hkept : keptAt w root f = kept) (down : Disk.GoesDown place)
    (clear : w.disk.entry? kept ≠ some .folder) (named : ∀ name ∈ place, ¬ (".bak" : Text) <:+ name)
    (reads : ∀ t, w.read (root ++ Path.ofText f) = .ok t →
      (∃ parsed, scriptGrammar.read t = .ok parsed) ∧
      ∀ r, Repair.repairInTurns scriptGrammar e f t (issues.filter (·.file == f)) = .ok r →
        Text.encodingFault? r.text = none)
    (lineFeeds : ∀ b, w.bytes (root ++ Path.ofText f) = .ok b → returnByte ∉ b) :
    Repairable w root {} (fun _ => e) issues [f] where
  plain := plain
  here := here
  down := by
    rw [List.forall_mem_singleton, hplace]
    exact down
  apart := by
    intro g hg h hh _
    rw [List.mem_singleton.mp hg, List.mem_singleton.mp hh]
  lineFeeds := List.forall_mem_singleton.mpr lineFeeds
  clear := by
    rw [List.forall_mem_singleton, hkept]
    exact fun _ => clear
  beside := by
    rw [List.forall_mem_singleton, List.forall_mem_singleton, hplace]
    exact fun _ => keptAt_apart w root f named
  answers := List.forall_mem_singleton.mpr fun t ht => (reads t ht).1
  encodes := List.forall_mem_singleton.mpr fun t r ht => (reads t ht).2 r

/-! A project of one file, into which a fixer puts a line in front. -/

namespace Headed

def text : Text := "a"

def headed : Text := "b\na"

def file : Text := "a.js"

def issue : Issue := Repair.Sample.issue "top" 1

def analysis : Analysis := { score := 80, issues := [issue], files := [file], context := {} }

def proposal : Proposal := ⟨[Edit.insert 0 "b\n"], "line put in front"⟩

def fixer : Fixer Script :=
  ⟨"sample", [IssueType.sqlInjection], fun _ => true, fun _ _ => .ok proposal⟩

def engine : Engine Script := Engine.of [fixer]

def root : Path := ⟨.top, ["p"]⟩

def place : List Text := ["p", "a.js"]

def kept : List Text := ["p", "a.js.bak"]

def workspace : Workspace := ⟨⟨[(["p"], .folder), (place, .file (Text.utf8 text))]⟩, []⟩

theorem reads : workspace.read (root ++ Path.ofText file) = .ok text :=
  ok_of_toOption (by decide)

theorem files : filesOf [issue] = [file] := List.mergeSort_singleton _

theorem plain_text : Script.isPlain text = true := by decide +kernel

theorem repaired : ∃ r, Repair.repairInTurns scriptGrammar (fun _ => engine) file text [issue] =
    .ok r ∧ r.text = headed := by
  have hplain : Script.isPlain headed = true := by decide +kernel
  have happly : Edit.apply text proposal.edits = .ok headed := by
    rw [Edit.apply, proposal, Edit.sorted, List.mergeSort_singleton]
    decide
  have hattempt : attempt scriptGrammar engine text issue =
      ⟨issue, text, .applied proposal.edits headed proposal.explanation⟩ :=
    attempt_of_proposal (f := fixer) rfl (read_of_isPlain plain_text) rfl
      (accept_of_isPlain happly hplain)
  have hattempts : attempts scriptGrammar (fun _ => engine) text [issue] =
      [attempt scriptGrammar engine text issue] := attempts_singleton (List.mergeSort_singleton _)
  have hrepaired := repairInTurns_parsed (read_of_isPlain plain_text) (fun _ => engine) file [issue]
  rw [hattempts, hattempt] at hrepaired
  exact ⟨_, hrepaired, rfl⟩

theorem able : Repairable workspace root {} (fun _ _ => engine) [issue] (filesOf [issue]) := by
  have hbytes : workspace.bytes (root ++ Path.ofText file) = .ok text.utf8 :=
    ok_of_toOption (by decide)
  rw [files]
  refine Repairable.one place kept ?_ rfl (by decide)
    (by decide) (by unfold Disk.GoesDown; decide) nofun (by decide) ?_ ?_
  · exact Disk.isPlain_of_entries (by simp [workspace])
  · intro t ht
    cases ht.symm.trans reads
    refine ⟨⟨_, read_of_isPlain plain_text⟩, fun r hr => ?_⟩
    obtain ⟨r', hr', htext⟩ := repaired
    cases hr.symm.trans hr'
    rw [htext]
    rfl
  · intro b hb
    cases hb.symm.trans hbytes
    decide

theorem files_of_accounts {l : ProjectLedger} {d : Disk}
    (h : Accounts workspace root {} (fun _ _ => engine) [issue] (filesOf [issue]) l d) :
    l.files = [(file, headed)] := by
  have htexts := h.texts
  rw [files, List.filter_singleton, reads] at htexts
  obtain ⟨⟨f, t⟩, more, hfiles, rfl, hmore⟩ := List.map_eq_cons_iff.mp htexts
  rw [List.map_eq_nil_iff.mp hmore] at hfiles
  have hmem : (file, t) ∈ l.files := hfiles ▸ List.mem_singleton_self _
  obtain ⟨t₀, r, hread, hrepaired, rfl⟩ := h.repaired file t hmem
  obtain ⟨r', hr', htext⟩ := repaired
  cases hread.symm.trans reads
  cases hrepaired.symm.trans hr'
  rw [hfiles, htext]

end Headed

theorem repairInTurns_accounts_sample : ∃ l d,
    (repairInTurns Headed.workspace Headed.root {} (fun _ _ => Headed.engine)
      Headed.analysis).ledger = .ok l ∧
    (repairInTurns Headed.workspace Headed.root {} (fun _ _ => Headed.engine)
      Headed.analysis).workspace = ⟨d, []⟩ ∧
    l.files = [(Headed.file, Headed.headed)] ∧
    d.entry? (keptAt Headed.workspace Headed.root Headed.file) =
      some (.file Headed.text.utf8) := by
  have hwanted : Issue.wanted [] Headed.analysis.issues = [Headed.issue] := rfl
  obtain ⟨l, d, hledger, hworkspace, hacc, -⟩ := repairInTurns_accounts rfl hwanted Headed.able
  have hfiles := Headed.files_of_accounts hacc
  have hchanged : Changed Headed.workspace Headed.root l Headed.file := by
    refine ⟨_, hfiles ▸ List.mem_singleton_self _, fun h => ?_⟩
    cases Headed.reads.symm.trans h
  refine ⟨l, d, hledger, hworkspace, hfiles, ?_⟩
  rw [hacc.kept rfl Headed.file hchanged]
  rfl

/-! Two issues of a file that is gone by the time of the repair, or holds a byte by then that no text
is encoded with. -/

namespace Unread

def top : Issue := Repair.Sample.issue "top" 1

def bottom : Issue := Repair.Sample.issue "bottom" 2

def analysis : Analysis :=
  { score := 60, issues := [top, bottom], files := [Headed.file], context := {} }

def gone : Workspace := ⟨⟨[(["p"], .folder)]⟩, []⟩

def spoiled : Workspace := ⟨⟨[(["p"], .folder), (Headed.place, .file [0xff])]⟩, []⟩

def listedIds : List Text := ["top", "bottom"]

def orderedIds : List Text := ["bottom", "top"]

theorem unread : ∀ w ∈ [gone, spoiled],
    ∃ fault, w.read (Headed.root ++ Path.ofText Headed.file) = .error fault := by
  rw [List.forall_mem_cons, List.forall_mem_singleton]
  exact ⟨⟨_, rfl⟩, ⟨_, rfl⟩⟩

theorem lineFeeds : ∀ w ∈ [gone, spoiled], ∀ b,
    w.bytes (Headed.root ++ Path.ofText Headed.file) = .ok b → returnByte ∉ b := by
  have hgone : ∃ fault, gone.bytes (Headed.root ++ Path.ofText Headed.file) = .error fault :=
    ⟨_, rfl⟩
  have hspoiled : spoiled.bytes (Headed.root ++ Path.ofText Headed.file) = .ok [0xff] := rfl
  rw [List.forall_mem_cons, List.forall_mem_singleton]
  refine ⟨fun b hb => ?_, fun b hb => ?_⟩
  · obtain ⟨fault, hgone⟩ := hgone
    cases hb.symm.trans hgone
  · cases hb.symm.trans hspoiled
    decide

theorem files : filesOf [top, bottom] = [Headed.file] := List.mergeSort_singleton _

theorem able : ∀ w ∈ [gone, spoiled], Repairable w Headed.root {} (fun _ _ => scriptEngine)
    [top, bottom] (filesOf [top, bottom]) := by
  have hone : ∀ w ∈ [gone, spoiled], w.disk.IsPlain → w.disk.entry? w.here = some .folder →
      placeOf w Headed.root Headed.file = Headed.place →
      keptAt w Headed.root Headed.file = Headed.kept →
      w.disk.entry? Headed.kept ≠ some .folder →
      Repairable w Headed.root {} (fun _ _ => scriptEngine) [top, bottom]
        (filesOf [top, bottom]) := by
    intro w hw plain here hplace hkept clear
    rw [files]
    refine Repairable.one Headed.place Headed.kept plain here hplace hkept
      (by unfold Disk.GoesDown; decide) clear (by decide) (fun t ht => ?_) (lineFeeds w hw)
    obtain ⟨fault, hunread⟩ := unread w hw
    cases ht.symm.trans hunread
  have hgone : gone.disk.IsPlain := Disk.isPlain_of_entries (by simp [gone])
  have hspoiled : spoiled.disk.IsPlain := Disk.isPlain_of_entries (by simp [spoiled])
  rw [List.forall_mem_cons, List.forall_mem_singleton]
  constructor
  · exact hone gone (by simp) hgone rfl (by decide) (by decide) fun h => by cases h
  · exact hone spoiled (by simp) hspoiled rfl (by decide) (by decide) fun h => by cases h

/-- The entries come as the issues are listed, and that is not the order of repairs. -/
def AsListed (w : Workspace) : Prop :=
  ∃ l, Repairable w Headed.root {} (fun _ _ => scriptEngine) analysis.issues
      (filesOf analysis.issues) ∧
    (repairInTurns w Headed.root {} (fun _ _ => scriptEngine) analysis).ledger = .ok l ∧
    l.entries.map (·.issueId) = listedIds ∧
    (processingOrder (analysis.issuesFor Headed.file)).map (·.id) = orderedIds

theorem asListed : ∀ w ∈ [gone, spoiled], AsListed w := by
  intro w hw
  have hwritten : ({} : RepairScope).write = true := rfl
  have hable := able w hw
  obtain ⟨l, d, hledger, -, -, hacc⟩ := accounts_files hwritten (nodup_filesOf _) hable
  obtain ⟨fault, hunread⟩ := unread w hw
  refine ⟨l, hable, hledger, ?_, ?_⟩
  · rw [hacc.entries, files, List.flatMap_singleton, entryOrder, hunread]
    rfl
  · change (processingOrder [top, bottom]).map _ = _
    rw [processingOrder, StableSort.mergeSort_pair]
    decide

end Unread

/-- The entries of a file that cannot be read do not come in the order of repairs, be the file gone
or not a text. -/
theorem unread_as_listed : Unread.AsListed Unread.gone ∧ Unread.AsListed Unread.spoiled :=
  ⟨Unread.asListed _ (by simp), Unread.asListed _ (by simp)⟩

end Project

end Readiness
