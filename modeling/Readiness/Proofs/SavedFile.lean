import Readiness.Proofs.PlainDisk
import Readiness.Proofs.WrittenBytes

/-!
# A file that is saved on a disk without links

On such a disk the repair of a file does one of three things. It leaves the disk alone
because the file cannot be read, or because there is nothing to write, or it puts a
text where the file stands and, if it is asked to, what stood there beside it. Nothing
else on the disk is touched, and nothing can go wrong on the way if no folder stands where the
old file is kept and the text can be encoded.
-/

namespace Readiness

namespace Disk

/-- The disk with a file written over, and its old bytes kept at a second place if `backup` says
so. -/
def overwrite (d : Disk) (place kept : List Text) (old new : List UInt8) (backup : Bool) : Disk :=
  (if backup then d.set kept (.file old) else d).set place (.file new)

section Overwrite

variable {d : Disk} {place kept : List Text} {old new : List UInt8} {backup : Bool}

theorem entry?_overwrite_place (named : place ≠ []) :
    Disk.entry? (d.overwrite place kept old new backup) place = some (.file new) :=
  entry?_set_self named

theorem entry?_overwrite_kept (named : kept ≠ []) (beside : kept ≠ place) :
    Disk.entry? (d.overwrite place kept old new true) kept = some (.file old) := by
  rw [overwrite, entry?_set_other beside]
  exact entry?_set_self named

theorem entry?_overwrite_other {names : List Text} (hplace : names ≠ place)
    (hkept : backup = true → names ≠ kept) :
    Disk.entry? (d.overwrite place kept old new backup) names = d.entry? names := by
  rw [overwrite, entry?_set_other hplace]
  cases backup with
  | false => rfl
  | true => exact entry?_set_other (hkept rfl)

end Overwrite

end Disk

namespace Project

open Repair

/-! ## Places -/

/-- Where a file of a project stands. -/
def placeOf (w : Workspace) (root : Path) (file : Text) : List Text :=
  w.names (root ++ Path.ofText file)

/-- Where a file of a project is kept. -/
def keptAt (w : Workspace) (root : Path) (file : Text) : List Text :=
  w.names (backupOf (root ++ Path.ofText file))

theorem names_backupOf (w : Workspace) {p : Path} (named : p.names ≠ []) :
    ∃ (folder : List Text) (name : Text), w.names p = folder ++ [name] ∧
      w.names (backupOf p) = folder ++ [name ++ ".bak"] := by
  obtain ⟨anchor, names⟩ := p
  obtain ⟨above, name, rfl⟩ := (List.eq_nil_or_concat names).resolve_left named
  rw [List.concat_eq_append, Workspace.names, Workspace.names, backupOf, Path.name,
    List.getLast?_concat, List.dropLast_concat]
  cases anchor with
  | here => exact ⟨w.here ++ above, name, (List.append_assoc ..).symm, (List.append_assoc ..).symm⟩
  | top | doubleTop => exact ⟨above, name, rfl, rfl⟩

/-- Where no name ends like that of a file that is kept, none is in the way. -/
theorem keptAt_apart (w : Workspace) (root : Path) (file : Text) {names : List Text}
    (named : ∀ name ∈ names, ¬ (".bak" : Text) <:+ name) : ¬ keptAt w root file <+: names := by
  intro h
  have hlast : (root ++ Path.ofText file).name ++ ".bak" ∈ keptAt w root file := by
    rw [keptAt, Workspace.names, backupOf]
    split <;> simp only [List.mem_append, List.mem_singleton, or_true]
  exact named _ (h.subset hlast) (List.suffix_append _ _)

theorem kept_ne {folder : List Text} {name : Text} :
    folder ++ [name ++ ".bak"] ≠ folder ++ [name] := by
  intro h
  have hname := (List.cons.inj (List.append_cancel_left h)).1
  have hend : (".bak" : Text) = [] := List.append_right_eq_self.mp hname
  cases hend

theorem kept_goesDown {folder : List Text} {name : Text} (down : Disk.GoesDown (folder ++ [name])) :
    Disk.GoesDown (folder ++ [name ++ ".bak"]) := by
  obtain ⟨hfolder, -⟩ := Disk.goesDown_append.mp down
  refine Disk.goesDown_append.mpr ⟨hfolder, ?_⟩
  intro n hn h
  have hlength := congrArg List.length ((List.mem_singleton.mp hn).symm.trans h)
  rw [List.length_append] at hlength
  have hbak : List.length (".bak" : Text) = 4 := rfl
  have hup : List.length (".." : Text) = 2 := rfl
  omega

/-! ## Files that are read -/

theorem read_ok {w : Workspace} {p : Path} {t : Text} (h : w.read p = .ok t) :
    ∃ b t₀, w.bytes p = .ok b ∧ Text.ofUtf8 b = .ok t₀ ∧ t = t₀.withLineFeeds := by
  cases hbytes : w.bytes p with
  | error f =>
      rw [Workspace.read, hbytes] at h
      cases h
  | ok b =>
      cases htext : Text.ofUtf8 b with
      | error f =>
          have herror : w.read p = .error (.decoding f) := by
            rw [Workspace.read, hbytes]
            change ((Text.ofUtf8 b).mapError ReadFault.decoding >>= _) = _
            rw [htext]
            rfl
          rw [herror] at h
          cases h
      | ok t₀ =>
          rw [read_of_bytes hbytes htext] at h
          cases h
          exact ⟨b, t₀, rfl, htext, rfl⟩

theorem read_congr {w w' : Workspace} {p : Path} (h : w'.bytes p = w.bytes p) :
    w'.read p = w.read p := by
  rw [Workspace.read, Workspace.read, h]

/-- A file with line feeds for line ends, on a disk without links: it stands in a folder, and its
bytes are those of the text that is read. -/
structure Stands (w : Workspace) (p : Path) (t : Text) (folder : List Text) (name : Text) : Prop where
  place : w.names p = folder ++ [name]
  kept : w.names (backupOf p) = folder ++ [name ++ ".bak"]
  folders : w.disk.Standing folder
  down : Disk.GoesDown (folder ++ [name])
  file : w.disk.entry? (folder ++ [name]) = some (.file t.utf8)
  bytes : w.bytes p = .ok t.utf8

theorem stands_of_read {w : Workspace} {p : Path} {t : Text} (plain : w.disk.IsPlain)
    (here : w.disk.entry? w.here = some .folder) (down : Disk.GoesDown (w.names p))
    (lineFeeds : ∀ b, w.bytes p = .ok b → returnByte ∉ b) (read : w.read p = .ok t) :
    ∃ folder name, Stands w p t folder name := by
  obtain ⟨b, t₀, hbytes, htext, rfl⟩ := read_ok read
  obtain ⟨hfile, hfolders⟩ := Disk.bytes_plain plain down (Workspace.bytes_ok.mp hbytes)
  have hb : t₀.withLineFeeds.utf8 = b := by
    rw [Text.utf8_withLineFeeds (Text.isSurrogate_of_ofUtf8 htext), Text.utf8_of_ofUtf8 htext]
    exact lineFeedBytes_eq_self.mpr (lineFeeds b hbytes)
  have hnamed : p.names ≠ [] := by
    -- paths without names are folders
    intro hnil
    obtain ⟨anchor, names⟩ := p
    subst hnil
    cases anchor with
    | here =>
        rw [Workspace.names, List.append_nil, here] at hfile
        cases hfile
    | top | doubleTop => cases hfile
  obtain ⟨folder, name, hplace, hkept⟩ := names_backupOf w hnamed
  rw [hplace, List.dropLast_concat] at hfolders
  rw [hplace] at hfile down
  exact ⟨folder, name, hplace, hkept, hfolders, down, by rw [hb]; exact hfile, by rw [hb]; exact hbytes⟩

/-! ## Saving -/

section Saving

variable {w : Workspace} {p : Path} {t : Text} {folder : List Text} {name : Text}

theorem Stands.writeText (stands : Stands w p t folder name) (plain : w.disk.IsPlain) (u : Text)
    (encodes : Text.encodingFault? u = none) :
    Project.writeText w p u =
      .ok ({ w with disk := w.disk.set (folder ++ [name]) (.file u.utf8) }, none) := by
  have hfree : w.disk.entry? (folder ++ [name]) ≠ some .folder := by
    rw [stands.file]
    exact nofun
  have hwrite := Disk.write_last plain stands.folders stands.down hfree u.utf8
  rw [Project.writeText, encodes]
  dsimp only
  rw [Workspace.write, stands.place, hwrite]
  rfl

theorem Stands.copy (stands : Stands w p t folder name) (plain : w.disk.IsPlain)
    (clear : w.disk.entry? (folder ++ [name ++ ".bak"]) ≠ some .folder) :
    w.copy p (backupOf p) =
      .ok { w with disk := w.disk.set (folder ++ [name ++ ".bak"]) (.file t.utf8) } := by
  have hdown := kept_goesDown stands.down
  have hplace := Disk.place_of_file stands.folders stands.down stands.file
  -- where the file is kept there is nothing, or another file
  have hkept : w.disk.place (folder ++ [name ++ ".bak"]) = .error .missing ∨
      ∃ b, w.disk.place (folder ++ [name ++ ".bak"]) = .ok (folder ++ [name ++ ".bak"]) ∧
        w.disk.entry? (folder ++ [name ++ ".bak"]) = some (.file b) := by
    cases hentry : w.disk.entry? (folder ++ [name ++ ".bak"]) with
    | none => exact .inl (Disk.place_of_none stands.folders hdown hentry)
    | some entry =>
        cases entry with
        | file b => exact .inr ⟨b, Disk.place_of_file stands.folders hdown hentry, rfl⟩
        | folder => exact absurd hentry clear
        | link target => exact absurd hentry (plain _ target)
  have hfolder : w.isFolder (backupOf p) = false := by
    rw [Workspace.isFolder, stands.kept, Disk.isFolder, Disk.find?]
    rcases hkept with hnone | ⟨b, hthere, hfile⟩
    · rw [hnone]
    · rw [hthere]
      dsimp only
      rw [hfile]
  have hsame : w.isSame p (backupOf p) = false := by
    rw [Workspace.isSame, stands.place, stands.kept, hplace]
    rcases hkept with hnone | ⟨b, hthere, -⟩
    · rw [hnone]
    · rw [hthere]
      exact beq_eq_false_iff_ne.mpr kept_ne.symm
  have hwrite := Disk.write_last plain stands.folders hdown clear t.utf8
  rw [Workspace.copy]
  simp only [hfolder, Bool.false_eq_true, if_false, hsame, stands.bytes, stands.kept]
  change ((w.disk.write (folder ++ [name ++ ".bak"]) t.utf8).mapError _ >>= _) = _
  rw [hwrite]
  rfl

/-- A file is kept beside itself and written over. -/
theorem Stands.save (stands : Stands w p t folder name) (plain : w.disk.IsPlain) (u : Text)
    (backup : Bool) (encodes : Text.encodingFault? u = none)
    (clear : backup = true → w.disk.entry? (folder ++ [name ++ ".bak"]) ≠ some .folder) :
    Project.save w p u backup =
      .ok (⟨w.disk.overwrite (folder ++ [name]) (folder ++ [name ++ ".bak"]) t.utf8 u.utf8 backup,
        w.here⟩, none) := by
  cases backup with
  | false =>
      rw [Project.save, if_neg Bool.false_ne_true]
      simp only [pure, Except.pure, bind, Except.bind, stands.writeText plain u encodes]
      rfl
  | true =>
      have hclear := clear rfl
      have hkept : Stands
          { w with disk := w.disk.set (folder ++ [name ++ ".bak"]) (.file t.utf8) } p t folder name := by
        have hfile : Disk.entry? (w.disk.set (folder ++ [name ++ ".bak"]) (.file t.utf8))
            (folder ++ [name]) = some (.file t.utf8) :=
          (Disk.entry?_set_other kept_ne.symm).trans stands.file
        have hfolders : Disk.Standing (w.disk.set (folder ++ [name ++ ".bak"]) (.file t.utf8)) folder :=
          fun habove => Disk.folder_set_file hclear (stands.folders habove)
        refine ⟨stands.place, stands.kept, hfolders, stands.down, hfile, ?_⟩
        refine Workspace.bytes_ok.mpr (Disk.bytes_ok.mpr ⟨folder ++ [name], ?_, hfile⟩)
        exact (congrArg _ stands.place).trans (Disk.place_of_file hfolders stands.down hfile)
      rw [Project.save, if_pos rfl, stands.copy plain hclear]
      simp only [bind, Except.bind, hkept.writeText (plain.set_file _ _) u encodes]
      rfl

end Saving

/-! ## The three outcomes -/

section File

variable {w w' : Workspace} {root : Path} {scope : RepairScope} {e : Nat → Engine Script}
  {file t : Text} {issues : List Issue} {r : Repaired}

theorem repairFileInTurns_unread {f : ReadFault}
    (unread : w.read (root ++ Path.ofText file) = .error f) :
    (repairFileInTurns w root scope e file issues).outcome =
        .ok (issues.map (LedgerEntry.failed ·.id f.message), none) ∧
      (repairFileInTurns w root scope e file issues).workspace = w := by
  simp only [repairFileInTurns, unread, and_self]

theorem repairFileInTurns_settled (read : w.read (root ++ Path.ofText file) = .ok t)
    (repaired : Repair.repairInTurns scriptGrammar e file t issues = .ok r)
    (settled : (scope.write && r.text != t) = false) :
    (repairFileInTurns w root scope e file issues).outcome = .ok (r.ledger, some r.text) ∧
      (repairFileInTurns w root scope e file issues).workspace = w := by
  simp only [repairFileInTurns, read, repaired, settled, Bool.false_eq_true, if_false, and_self]

theorem repairFileInTurns_saved (read : w.read (root ++ Path.ofText file) = .ok t)
    (repaired : Repair.repairInTurns scriptGrammar e file t issues = .ok r)
    (writes : (scope.write && r.text != t) = true)
    (saved : save w (root ++ Path.ofText file) r.text scope.backups = .ok (w', none)) :
    (repairFileInTurns w root scope e file issues).outcome = .ok (r.ledger, some r.text) ∧
      (repairFileInTurns w root scope e file issues).workspace = w' := by
  simp only [repairFileInTurns, read, repaired, writes, if_true, saved, and_self]

end File

end Project

end Readiness
