import Readiness.Disk.Basic

/-!
# What writing a file leaves alone

Where a path leads depends on the folders and links of the disk, and not on what
the files hold. `Grown` says of two disks that every way through the first one
is a way through the second: folders and links are as they were, files are still
files, and only where nothing stood there may be a new file. A write takes a
disk to one that has grown so. So a file that is written is found again where it
was, with what was written, and every other file is found where it was, as it was.

A copy is a write to somewhere else: it is refused when both paths lead to one file.
-/

namespace Readiness

namespace Disk

/-! ## Entries -/

theorem lookup_filter_ne {entries : List (List Text × Entry)} {names other : List Text} :
    (entries.filter (·.1 != names)).lookup other =
      if other = names then none else entries.lookup other := by
  induction entries with
  | nil => rw [List.filter_nil, List.lookup_nil, ite_self]
  | cons e entries ih =>
      obtain ⟨n, x⟩ := e
      by_cases hn : n = names
      · subst hn
        rw [List.filter_cons_of_neg (by simp only [bne_self_eq_false, Bool.false_eq_true,
          not_false_eq_true]), ih]
        split
        · rfl
        · next hother => rw [List.lookup_cons, beq_eq_false_iff_ne.mpr hother]
      · have hkept : (n != names) = true := bne_iff_ne.mpr hn
        rw [List.filter_cons, if_pos hkept, List.lookup_cons, ih, List.lookup_cons]
        split
        · next hother => rw [if_neg (fun h => hn ((eq_of_beq hother).symm.trans h))]
        · rfl

theorem entry?_set_self {d : Disk} {names : List Text} {e : Entry} (h : names ≠ []) :
    Disk.entry? (d.set names e) names = some e := by
  rw [Disk.entry?, if_neg (fun hnil => h (List.isEmpty_iff.mp hnil)), set, List.lookup_append,
    lookup_filter_ne, if_pos rfl, Option.none_or, List.lookup_cons_self]

theorem entry?_set_other {d : Disk} {names other : List Text} {e : Entry} (h : other ≠ names) :
    Disk.entry? (d.set names e) other = d.entry? other := by
  have hsingle : ([(names, e)] : List (List Text × Entry)).lookup other = none := by
    rw [List.lookup_cons, beq_eq_false_iff_ne.mpr h, List.lookup_nil]
  rw [Disk.entry?, Disk.entry?, set, List.lookup_append, lookup_filter_ne, if_neg h, hsingle, Option.or_none]

/-! ## Ways -/

/-- Every way through the first disk is one through the second. -/
structure Grown (d d' : Disk) : Prop where
  folder : ∀ {names}, d.entry? names = some .folder → d'.entry? names = some .folder
  link : ∀ {names target}, d.entry? names = some (.link target) →
    d'.entry? names = some (.link target)
  file : ∀ {names bytes}, d.entry? names = some (.file bytes) →
    ∃ bytes', d'.entry? names = some (.file bytes')
  missing : ∀ {names}, d.entry? names = none →
    d'.entry? names = none ∨ ∃ bytes', d'.entry? names = some (.file bytes')

/-- A file that is put where nothing stands, or where a file stands, changes no way. -/
theorem grown_set {d : Disk} {names : List Text} (bytes : List UInt8)
    (h : d.entry? names = none ∨ ∃ old, d.entry? names = some (.file old)) :
    Grown d (d.set names (.file bytes)) := by
  have hnames : names ≠ [] := by
    rintro rfl
    rcases h with h | ⟨old, h⟩ <;> cases h
  constructor
  case folder =>
    intro other hother
    rw [entry?_set_other ?_]
    · exact hother
    · rintro rfl
      rcases h with h | ⟨old, h⟩ <;> rw [hother] at h <;> cases h
  case link =>
    intro other target hother
    rw [entry?_set_other ?_]
    · exact hother
    · rintro rfl
      rcases h with h | ⟨old, h⟩ <;> rw [hother] at h <;> cases h
  case file =>
    intro other old hother
    by_cases hsame : other = names
    · rw [hsame, entry?_set_self hnames]
      exact ⟨bytes, rfl⟩
    · rw [entry?_set_other hsame]
      exact ⟨old, hother⟩
  case missing =>
    intro other hother
    by_cases hsame : other = names
    · rw [hsame, entry?_set_self hnames]
      exact .inr ⟨bytes, rfl⟩
    · rw [entry?_set_other hsame]
      exact .inl hother

theorem walk_grown {d d' : Disk} (grown : Grown d d') {ending : Ending} {names : List Text} :
    ∀ {folder : List Text} {s : Stretch}, d.walk ending folder names = .ok s →
      d'.walk ending folder names = .ok s := by
  induction names with
  | nil => intro folder s h; exact h
  | cons name more ih =>
      intro folder s h
      rw [walk] at h ⊢
      split at h
      · next hup =>
          rw [if_pos hup]
          exact ih h
      · next hup =>
          rw [if_neg hup]
          dsimp only at h ⊢
          split at h
          · next hnone =>
              split at h
              · next hfresh =>
                  rw [Bool.and_eq_true] at hfresh
                  rcases grown.missing hnone with hnone' | ⟨bytes', hfile'⟩
                  · simp only [hnone', hfresh, Bool.and_self, if_true]
                    exact h
                  · simp only [hfile', hfresh, if_true]
                    exact h
              · cases h
          · next hfolder =>
              simp only [grown.folder hfolder]
              exact ih h
          · next bytes hfile =>
              obtain ⟨bytes', hfile'⟩ := grown.file hfile
              simp only [hfile']
              exact h
          · next target hlink =>
              simp only [grown.link hlink]
              exact h

/-- What holds of every stretch holds of the whole way. -/
theorem goBy_of_walk {d d' : Disk} {ending ending' : Ending}
    (h : ∀ {folder names : List Text} {s : Stretch}, d.walk ending folder names = .ok s →
      d'.walk ending' folder names = .ok s) {links : Nat} :
    ∀ {folder names place : List Text}, d.goBy ending links folder names = .ok place →
      d'.goBy ending' links folder names = .ok place := by
  induction links with
  | zero =>
      intro folder names place hgo
      rw [goBy] at hgo ⊢
      split at hgo
      · cases hgo
      · next hwalk =>
          simp only [h hwalk]
          exact hgo
      · cases hgo
  | succ links ih =>
      intro folder names place hgo
      rw [goBy] at hgo ⊢
      split at hgo
      · cases hgo
      · next hwalk =>
          simp only [h hwalk]
          exact hgo
      · next hwalk =>
          simp only [h hwalk]
          exact ih hgo

theorem place_grown {d d' : Disk} (grown : Grown d d') {names place : List Text}
    (h : d.place names = .ok place) : d'.place names = .ok place :=
  goBy_of_walk (walk_grown grown) h

/-! ## Places that may be new -/

theorem walk_fresh_of_followed {d : Disk} {names : List Text} :
    ∀ {folder : List Text} {s : Stretch}, d.walk .followed folder names = .ok s →
      d.walk .fresh folder names = .ok s := by
  induction names with
  | nil => intro folder s h; exact h
  | cons name more ih =>
      intro folder s h
      rw [walk] at h ⊢
      split at h
      · next hup =>
          rw [if_pos hup]
          exact ih h
      · next hup =>
          rw [if_neg hup]
          dsimp only at h ⊢
          split at h
          · next hnone =>
              split at h
              · next hfresh =>
                  rw [Bool.and_eq_true] at hfresh
                  cases hfresh.2
              · cases h
          · exact ih h
          · exact h
          · rw [show (Ending.fresh == .asNamed) = false from rfl]
            exact h

theorem walk_followed_of_fresh {d : Disk} {names : List Text} :
    ∀ {folder : List Text} {s : Stretch}, d.walk .fresh folder names = .ok s →
      d.walk .followed folder names = .ok s ∨
        ∃ place, s = .arrived place ∧ d.entry? place = none := by
  induction names with
  | nil => intro folder s h; exact .inl h
  | cons name more ih =>
      intro folder s h
      rw [walk] at h ⊢
      split at h
      · next hup =>
          rw [if_pos hup]
          exact ih h
      · next hup =>
          rw [if_neg hup]
          dsimp only at h ⊢
          split at h
          · next hnone =>
              split at h
              · cases h
                exact .inr ⟨_, rfl, hnone⟩
              · cases h
          · exact ih h
          · exact .inl h
          · rw [show (Ending.followed == .asNamed) = false from rfl]
            exact .inl h

theorem freshPlace_of_place {d : Disk} {names place : List Text} (h : d.place names = .ok place) :
    d.freshPlace names = .ok place :=
  goBy_of_walk walk_fresh_of_followed h

theorem goBy_followed_of_fresh {d : Disk} {links : Nat} :
    ∀ {folder names place : List Text}, d.goBy .fresh links folder names = .ok place →
      d.goBy .followed links folder names = .ok place ∨ d.entry? place = none := by
  induction links with
  | zero =>
      intro folder names place h
      rw [goBy] at h ⊢
      split at h
      · cases h
      · next hwalk =>
          cases h
          rcases walk_followed_of_fresh hwalk with hwalk | ⟨_, hplace, hnone⟩
          · left
            simp only [hwalk]
          · cases hplace
            exact .inr hnone
      · cases h
  | succ links ih =>
      intro folder names place h
      rw [goBy] at h ⊢
      split at h
      · cases h
      · next hwalk =>
          cases h
          rcases walk_followed_of_fresh hwalk with hwalk | ⟨_, hplace, hnone⟩
          · left
            simp only [hwalk]
          · cases hplace
            exact .inr hnone
      · next hwalk =>
          rcases walk_followed_of_fresh hwalk with hwalk | ⟨_, hplace, -⟩
          · simp only [hwalk]
            exact ih h
          · cases hplace

/-- Where a file may be made, one is already or there is nothing. -/
theorem place_of_freshPlace {d : Disk} {names place : List Text}
    (h : d.freshPlace names = .ok place) :
    d.place names = .ok place ∨ d.entry? place = none :=
  goBy_followed_of_fresh h

/-- A folder that can be stood in: there are folders all the way down to it. -/
def Standing (d : Disk) (folder : List Text) : Prop :=
  ∀ {above : List Text}, above <+: folder → d.entry? above = some .folder

theorem standing_nil (d : Disk) : d.Standing [] := by
  intro above h
  rw [List.prefix_nil.mp h]
  rfl

theorem Standing.child {d : Disk} {folder : List Text} {name : Text} (h : d.Standing folder)
    (entry : d.entry? (folder ++ [name]) = some .folder) : d.Standing (folder ++ [name]) := by
  intro above habove
  rcases List.prefix_concat_iff.mp habove with rfl | hfolder
  · exact entry
  · exact h hfolder

theorem Standing.dropLast {d : Disk} {folder : List Text} (h : d.Standing folder) :
    d.Standing folder.dropLast :=
  fun habove => h (habove.trans (List.dropLast_prefix folder))

/-- A way that follows links comes to one only to go on from the folder it stands in. -/
theorem walk_standing {d : Disk} {ending : Ending} (follows : ending ≠ .asNamed)
    {names : List Text} : ∀ {folder : List Text} {s : Stretch}, d.Standing folder →
      d.walk ending folder names = .ok s →
      (∃ place, s = .arrived place ∧ ∀ target, d.entry? place ≠ some (.link target)) ∨
        ∃ folder' target more, s = .link folder' target more ∧ d.Standing folder' := by
  induction names with
  | nil =>
      intro folder s hfolder h
      rw [walk] at h
      cases h
      refine .inl ⟨folder, rfl, fun target hlink => ?_⟩
      rw [hfolder (List.prefix_refl folder)] at hlink
      cases hlink
  | cons name more ih =>
      intro folder s hfolder h
      rw [walk] at h
      split at h
      · exact ih hfolder.dropLast h
      · dsimp only at h
        split at h
        · next hnone =>
            split at h
            · cases h
              exact .inl ⟨_, rfl, fun target hlink => by rw [hnone] at hlink; cases hlink⟩
            · cases h
        · next hentry => exact ih (hfolder.child hentry) h
        · next bytes hfile =>
            split at h
            · cases h
              exact .inl ⟨_, rfl, fun target hlink => by rw [hfile] at hlink; cases hlink⟩
            · cases h
        · next target hlink =>
            rw [beq_eq_false_iff_ne.mpr follows, Bool.and_false] at h
            cases h
            exact .inr ⟨folder, target, more, rfl, hfolder⟩

theorem goBy_ne_link {d : Disk} {ending : Ending} (follows : ending ≠ .asNamed) {links : Nat} :
    ∀ {folder names place : List Text}, d.Standing folder →
      d.goBy ending links folder names = .ok place →
      ∀ target, d.entry? place ≠ some (.link target) := by
  induction links with
  | zero =>
      intro folder names place hfolder h
      rw [goBy] at h
      split at h
      · cases h
      · next hwalk =>
          cases h
          rcases walk_standing follows hfolder hwalk with ⟨_, hs, hplace⟩ | ⟨_, _, _, hs, -⟩
          · cases hs
            exact hplace
          · cases hs
      · cases h
  | succ links ih =>
      intro folder names place hfolder h
      rw [goBy] at h
      split at h
      · cases h
      · next hwalk =>
          cases h
          rcases walk_standing follows hfolder hwalk with ⟨_, hs, hplace⟩ | ⟨_, _, _, hs, -⟩
          · cases hs
            exact hplace
          · cases hs
      · next hwalk =>
          rcases walk_standing follows hfolder hwalk with ⟨_, hs, -⟩ | ⟨_, _, _, hs, hstanding⟩
          · cases hs
          · cases hs
            refine ih ?_ h
            split
            · exact hstanding
            · exact standing_nil d

theorem entry?_ne_link {d : Disk} {names place : List Text} (h : d.freshPlace names = .ok place)
    (target : Path) : d.entry? place ≠ some (.link target) := by
  have hfollows : Ending.fresh ≠ .asNamed := by decide
  exact goBy_ne_link hfollows (standing_nil d) h target

/-! ## Reading and writing -/

theorem bytes_ok {d : Disk} {names : List Text} {bytes : List UInt8} :
    d.bytes names = .ok bytes ↔
      ∃ place, d.place names = .ok place ∧ d.entry? place = some (.file bytes) := by
  rw [Disk.bytes]
  cases hplace : d.place names with
  | error r =>
      constructor
      · intro h
        cases h
      · rintro ⟨place, hother, -⟩
        cases hother
  | ok place =>
      constructor
      · intro h
        dsimp only [bind, Except.bind] at h
        split at h
        · next hfile =>
            cases h
            exact ⟨place, rfl, hfile⟩
        · cases h
        · cases h
      · rintro ⟨_, ⟨⟩, hfile⟩
        simp only [bind, Except.bind, hfile]

theorem write_ok {d d' : Disk} {names : List Text} {bytes : List UInt8}
    (h : d.write names bytes = .ok d') :
    ∃ place, d.freshPlace names = .ok place ∧ d.entry? place ≠ some .folder ∧
      d' = d.set place (.file bytes) := by
  rw [write] at h
  cases hplace : d.freshPlace names with
  | error r => rw [hplace] at h; cases h
  | ok place =>
      rw [hplace] at h
      dsimp only [bind, Except.bind] at h
      split at h
      · cases h
      · next hnot =>
          cases h
          exact ⟨place, rfl, hnot, rfl⟩

/-- A file that is there can be written, and then it holds what was written. -/
theorem write_of_bytes {d : Disk} {names : List Text} {old : List UInt8}
    (h : d.bytes names = .ok old) (bytes : List UInt8) :
    ∃ d', d.write names bytes = .ok d' ∧ d'.bytes names = .ok bytes := by
  obtain ⟨place, hplace, hfile⟩ := bytes_ok.mp h
  have hfresh := freshPlace_of_place hplace
  have hnames : place ≠ [] := by
    rintro rfl
    cases hfile
  refine ⟨d.set place (.file bytes), ?_, bytes_ok.mpr ⟨place, ?_, entry?_set_self hnames⟩⟩
  · rw [write, hfresh]
    dsimp only [bind, Except.bind]
    rw [hfile]
  · exact place_grown (grown_set bytes (.inr ⟨old, hfile⟩)) hplace

/-- A write to somewhere else leaves a file as it was. -/
theorem bytes_of_write {d d' : Disk} {names other : List Text} {old bytes : List UInt8}
    (h : d.bytes names = .ok old) (written : d.write other bytes = .ok d')
    (elsewhere : ∀ place, d.place names = .ok place → d.place other ≠ .ok place) :
    d'.bytes names = .ok old := by
  obtain ⟨place, hplace, hfile⟩ := bytes_ok.mp h
  obtain ⟨made, hmade, hfolder, rfl⟩ := write_ok written
  have hother : place ≠ made := by
    rintro rfl
    rcases place_of_freshPlace hmade with hsame | hnone
    · exact elsewhere place hplace hsame
    · rw [hfile] at hnone
      cases hnone
  have hgrown : Grown d (d.set made (.file bytes)) := by
    refine grown_set bytes ?_
    cases hentry : d.entry? made with
    | none => exact .inl rfl
    | some e =>
        cases e with
        | file b => exact .inr ⟨b, rfl⟩
        | folder => exact absurd hentry hfolder
        | link target => exact absurd hentry (entry?_ne_link hmade target)
  exact bytes_ok.mpr ⟨place, place_grown hgrown hplace, (entry?_set_other hother).trans hfile⟩

end Disk

namespace Workspace

theorem bytes_ok {w : Workspace} {p : Path} {bytes : List UInt8} :
    w.bytes p = .ok bytes ↔ w.disk.bytes (w.names p) = .ok bytes := by
  rw [Workspace.bytes]
  cases w.disk.bytes (w.names p) with
  | error r => constructor <;> intro h <;> cases h
  | ok b => exact ⟨fun h => by cases h; rfl, fun h => by cases h; rfl⟩

theorem write_of_bytes {w : Workspace} {p : Path} {old : List UInt8} (h : w.bytes p = .ok old)
    (t : Text) : ∃ w', w.write p t = .ok w' ∧ w'.bytes p = .ok t.utf8 := by
  obtain ⟨disk, hwrite, hbytes⟩ := Disk.write_of_bytes (bytes_ok.mp h) t.utf8
  refine ⟨{ w with disk }, ?_, bytes_ok.mpr hbytes⟩
  rw [write, hwrite]
  rfl

theorem place_ne_of_isSame {w : Workspace} {p q : Path} (h : w.isSame p q = false)
    (place : List Text) (hp : w.disk.place (w.names p) = .ok place) :
    w.disk.place (w.names q) ≠ .ok place := by
  intro hq
  rw [isSame, hp, hq] at h
  exact absurd (beq_self_eq_true place) (Bool.eq_false_iff.mp h)

theorem bytes_of_copy {w w' : Workspace} {source target : Path} {old : List UInt8}
    (h : w.bytes source = .ok old) (copied : w.copy source target = .ok w') :
    w'.bytes source = .ok old := by
  have hdisk := bytes_ok.mp h
  rw [copy] at copied
  dsimp only at copied
  generalize (if w.isFolder target = true then target.child source.name else target) = aim
    at copied
  cases hsame : w.isSame source aim with
  | true =>
      simp only [hsame, if_true] at copied
      cases copied
  | false =>
      simp only [hsame, Bool.false_eq_true, if_false, h] at copied
      have hwrites : ((w.disk.write (w.names aim) old).mapError
          (fun r => CopyFault.access ⟨r, aim⟩) >>= fun disk => Except.ok { w with disk }) =
            .ok w' := copied
      cases hwrite : w.disk.write (w.names aim) old with
      | error r =>
          rw [hwrite] at hwrites
          cases hwrites
      | ok disk =>
          rw [hwrite] at hwrites
          cases hwrites
          exact bytes_ok.mpr (Disk.bytes_of_write hdisk hwrite (place_ne_of_isSame hsame))

end Workspace

end Readiness
