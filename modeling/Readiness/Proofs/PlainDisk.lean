import Readiness.Proofs.DiskFrame

/-!
# Ways down, and disks without links

A way that only goes down through folders ends where its names say. On a disk of files
and folders, without links, every way down that ends anywhere is one of these. What
it comes to is then settled by what stands along it: by the kinds of the entries in
front of its end, and by the entry at its end. So a file is read the same on two
disks that agree in this, and a new file that is put beside the way changes nothing
about it.
-/

namespace Readiness

namespace Disk

/-! ## Ways down -/

/-- The names of a way that only goes down. -/
def GoesDown (names : List Text) : Prop := ∀ name ∈ names, name ≠ ".."

theorem goesDown_cons {name : Text} {more : List Text} :
    GoesDown (name :: more) ↔ (name == "..") = false ∧ GoesDown more := by
  rw [GoesDown, List.forall_mem_cons, beq_eq_false_iff_ne]
  rfl

theorem goesDown_append {names more : List Text} :
    GoesDown (names ++ more) ↔ GoesDown names ∧ GoesDown more := List.forall_mem_append

theorem walk_of_standing {d : Disk} {ending : Ending} {names more : List Text} :
    ∀ {folder : List Text}, GoesDown names → d.Standing (folder ++ names) →
      d.walk ending folder (names ++ more) = d.walk ending (folder ++ names) more := by
  induction names with
  | nil =>
      intro folder _ _
      rw [List.nil_append, List.append_nil]
  | cons name names ih =>
      intro folder down standing
      obtain ⟨hname, hnames⟩ := goesDown_cons.mp down
      have hsplit : folder ++ name :: names = folder ++ [name] ++ names :=
        List.append_cons folder name names
      rw [hsplit] at standing ⊢
      have hfolder := standing (List.prefix_append (folder ++ [name]) names)
      rw [List.cons_append, walk, hname, if_neg Bool.false_ne_true]
      simp only [hfolder]
      exact ih hnames standing

section Last

variable {d : Disk} {folder : List Text} {name : Text} (standing : d.Standing folder)
  (down : GoesDown (folder ++ [name]))

include standing down

theorem walk_last (ending : Ending) :
    d.walk ending [] (folder ++ [name]) = match d.entry? (folder ++ [name]) with
      | none => if ending = .fresh then .ok (.arrived (folder ++ [name])) else .error .missing
      | some (.link target) =>
        if ending = .asNamed then .ok (.arrived (folder ++ [name]))
        else .ok (.link folder target [])
      | some _ => .ok (.arrived (folder ++ [name])) := by
  obtain ⟨hfolder, hlast⟩ := goesDown_append.mp down
  have hname := (goesDown_cons.mp hlast).1
  rw [walk_of_standing hfolder standing, List.nil_append, walk,
    hname, if_neg Bool.false_ne_true]
  simp only [List.isEmpty_nil, Bool.true_and, beq_iff_eq, if_true]
  cases d.entry? (folder ++ [name]) with
  | none => rfl
  | some entry =>
      cases entry with
      | file bytes => rfl
      | folder => rw [walk]
      | link target => rfl

theorem place_of_file {bytes : List UInt8}
    (file : d.entry? (folder ++ [name]) = some (.file bytes)) :
    d.place (folder ++ [name]) = .ok (folder ++ [name]) := by
  rw [place, mostLinks, goBy, walk_last standing down, file]

theorem place_of_none (missing : d.entry? (folder ++ [name]) = none) :
    d.place (folder ++ [name]) = .error .missing := by
  rw [place, mostLinks, goBy, walk_last standing down, missing]
  rfl

end Last

/-- A way down through folders comes to its end, and stays there if no link is to be followed. -/
theorem walk_end {d : Disk} {ending : Ending} {names : List Text} {e : Entry}
    (standing : d.Standing names.dropLast) (down : GoesDown names)
    (entry : d.entry? names = some e) (ends : ending = .asNamed ∨ ∀ target, e ≠ .link target) :
    d.walk ending [] names = .ok (.arrived names) := by
  rcases List.eq_nil_or_concat names with rfl | ⟨folder, name, rfl⟩
  · rw [walk]
  · rw [List.concat_eq_append] at standing down entry ⊢
    rw [List.dropLast_concat] at standing
    rw [walk_last standing down, entry]
    cases e with
    | file bytes => rfl
    | folder => rfl
    | link target =>
        rcases ends with rfl | hnone
        · rfl
        · exact absurd rfl (hnone target)

theorem place_end {d : Disk} {names : List Text} {e : Entry} (standing : d.Standing names.dropLast)
    (down : GoesDown names) (entry : d.entry? names = some e)
    (stays : ∀ target, e ≠ .link target) : d.place names = .ok names := by
  rw [place, mostLinks, goBy, walk_end standing down entry (.inr stays)]

/-! ## Disks without links -/

/-- There are files and folders on the disk, and no links. -/
def IsPlain (d : Disk) : Prop := ∀ names target, d.entry? names ≠ some (.link target)

theorem isPlain_of_entries {d : Disk} (h : ∀ e ∈ d.entries, ∀ target, e.2 ≠ .link target) :
    d.IsPlain := by
  intro names target hlink
  rw [Disk.entry?] at hlink
  split at hlink
  · cases hlink
  · obtain ⟨before, behind, hsplit, -⟩ := List.lookup_eq_some_iff.mp hlink
    exact h _ (hsplit ▸ List.mem_append_right before List.mem_cons_self) target rfl

theorem IsPlain.set_file {d : Disk} (plain : d.IsPlain) (names : List Text)
    (bytes : List UInt8) : (d.set names (.file bytes)).IsPlain := by
  intro other target hlink
  by_cases hsame : other = names
  · subst hsame
    cases other with
    | nil => cases hlink
    | cons name more =>
        rw [entry?_set_self (List.cons_ne_nil name more)] at hlink
        cases hlink
  · rw [entry?_set_other hsame] at hlink
    exact plain other target hlink

/-- A file that is put where no folder stands leaves every folder. -/
theorem folder_set_file {d : Disk} {names other : List Text} {bytes : List UInt8}
    (free : d.entry? names ≠ some .folder) (folder : d.entry? other = some .folder) :
    Disk.entry? (d.set names (.file bytes)) other = some .folder := by
  rw [entry?_set_other]
  · exact folder
  · rintro rfl
    exact free folder

theorem walk_plain {d : Disk} (plain : d.IsPlain) {ending : Ending} {names : List Text} :
    ∀ {folder : List Text} {s : Stretch}, GoesDown names → d.Standing folder →
      d.walk ending folder names = .ok s →
      s = .arrived (folder ++ names) ∧ d.Standing (folder ++ names).dropLast := by
  induction names with
  | nil =>
      intro folder s _ standing h
      rw [walk] at h
      cases h
      rw [List.append_nil]
      exact ⟨rfl, standing.dropLast⟩
  | cons name more ih =>
      intro folder s down standing h
      obtain ⟨hname, hmore⟩ := goesDown_cons.mp down
      rw [walk, hname, if_neg Bool.false_ne_true] at h
      dsimp only at h
      split at h
      · split at h
        · next hfresh =>
            cases h
            rw [Bool.and_eq_true, List.isEmpty_iff] at hfresh
            rw [hfresh.1, List.dropLast_concat]
            exact ⟨rfl, standing⟩
        · cases h
      · next hfolder =>
          have hrest := ih hmore (standing.child hfolder) h
          rwa [List.append_assoc] at hrest
      · split at h
        · next hend =>
            cases h
            rw [List.isEmpty_iff.mp hend, List.dropLast_concat]
            exact ⟨rfl, standing⟩
        · cases h
      · next target hlink => exact absurd hlink (plain _ target)

theorem goBy_plain {d : Disk} (plain : d.IsPlain) {ending : Ending} {links : Nat}
    {names place : List Text} (down : GoesDown names)
    (h : d.goBy ending links [] names = .ok place) :
    place = names ∧ d.Standing names.dropLast := by
  rw [goBy] at h
  split at h
  · cases h
  · next hwalk =>
      cases h
      obtain ⟨harrived, hstanding⟩ := walk_plain plain down (standing_nil d) hwalk
      cases harrived
      exact ⟨rfl, hstanding⟩
  · next hwalk =>
      obtain ⟨harrived, -⟩ := walk_plain plain down (standing_nil d) hwalk
      cases harrived

/-- A file that is read stands where its names say, in folders. -/
theorem bytes_plain {d : Disk} (plain : d.IsPlain) {names : List Text} {bytes : List UInt8}
    (down : GoesDown names) (h : d.bytes names = .ok bytes) :
    d.entry? names = some (.file bytes) ∧ d.Standing names.dropLast := by
  obtain ⟨place, hplace, hfile⟩ := bytes_ok.mp h
  obtain ⟨rfl, hstanding⟩ := goBy_plain plain down hplace
  exact ⟨hfile, hstanding⟩

/-- In a folder that can be stood in, a file can be put where no folder and no link stands. -/
theorem write_last {d : Disk} (plain : d.IsPlain) {folder : List Text} {name : Text}
    (standing : d.Standing folder) (down : GoesDown (folder ++ [name]))
    (free : d.entry? (folder ++ [name]) ≠ some .folder) (bytes : List UInt8) :
    d.write (folder ++ [name]) bytes = .ok (d.set (folder ++ [name]) (.file bytes)) := by
  have hplace : d.freshPlace (folder ++ [name]) = .ok (folder ++ [name]) := by
    rw [freshPlace, mostLinks, goBy, walk_last standing down]
    cases hentry : d.entry? (folder ++ [name]) with
    | none => rfl
    | some entry =>
        cases entry with
        | file old => rfl
        | folder => exact absurd hentry free
        | link target => exact absurd hentry (plain _ target)
  rw [write, hplace]
  dsimp only [bind, Except.bind]
  split
  · next hfolder => exact absurd hfolder free
  · rfl

/-! ## Disks that agree along a way -/

/-- At this place both disks hold the same, or both hold a file. -/
def Alike (d d' : Disk) (names : List Text) : Prop :=
  d'.entry? names = d.entry? names ∨
    ∃ old new, d.entry? names = some (.file old) ∧ d'.entry? names = some (.file new)

theorem walk_congr {d d' : Disk} {ending : Ending} {names : List Text} :
    ∀ {folder : List Text}, GoesDown names → (∀ above, above <+: names → Alike d d' (folder ++ above)) →
      d'.walk ending folder names = d.walk ending folder names := by
  induction names with
  | nil => intro folder _ _; rfl
  | cons name more ih =>
      intro folder down way
      obtain ⟨hname, hmore⟩ := goesDown_cons.mp down
      have hrest : d'.walk ending (folder ++ [name]) more = d.walk ending (folder ++ [name]) more := by
        refine ih hmore fun above habove => ?_
        rw [← List.append_cons]
        exact way _ ((List.prefix_cons_inj name).mpr habove)
      have hhead := way [name] ((List.prefix_cons_inj name).mpr List.nil_prefix)
      rw [walk, walk, hname, if_neg Bool.false_ne_true, if_neg Bool.false_ne_true]
      rcases hhead with hsame | ⟨old, new, hold, hnew⟩
      · simp only [hsame, hrest]
      · simp only [hold, hnew]

/-- A file is read the same on a disk that holds the same at its place, and the like on the way. -/
theorem bytes_congr {d d' : Disk} (plain : d.IsPlain) {names : List Text} (down : GoesDown names)
    (way : ∀ above, above <+: names → Alike d d' above)
    (same : d'.entry? names = d.entry? names) : d'.bytes names = d.bytes names := by
  have hwalk : d'.walk .followed [] names = d.walk .followed [] names := walk_congr down way
  have hplace : d'.place names = d.place names := by
    rw [place, place, mostLinks, goBy, goBy, hwalk]
    cases h : d.walk .followed [] names with
    | error r => rfl
    | ok s => rw [(walk_plain plain down (standing_nil d) h).1]
  rw [bytes, bytes, hplace]
  cases h : d.place names with
  | error r => rfl
  | ok place =>
      rw [(goBy_plain plain down h).1]
      dsimp only [bind, Except.bind]
      rw [same]

end Disk

end Readiness
