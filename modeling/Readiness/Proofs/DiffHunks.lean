import Readiness.Proofs.CommonRuns

/-!
# Hunks account for all lines

The common runs of two lists of lines leave stretches, and the stretches tile both
lists: each starts where the one before it ends, on both sides, and a kept stretch has
the same lines on both. Then most of the kept lines are left out. The hunks that remain
tile no longer, but what lies between two of them, before the first and behind the last
are lines that both lists have. That is what a reader of the hunks needs to
fill them in.
-/

namespace Readiness.Diff

variable {old new : List Text} {o n m o' n' : Nat}

/-! ## Lines that agree -/

/-- The `m` old lines from `o` on are the `m` new lines from `n` on. -/
def Agree (old new : List Text) (o n m : Nat) : Prop := ∀ k < m, old[o + k]? = new[n + k]?

theorem agree_zero (old new : List Text) (o n : Nat) : Agree old new o n 0 :=
  fun k hk => absurd hk (Nat.not_lt_zero k)

theorem Agree.front (h : Agree old new o n m) {k : Nat} (hk : k ≤ m) : Agree old new o n k :=
  fun i hi => h i (Nat.lt_of_lt_of_le hi hk)

theorem Agree.back (h : Agree old new o n m) (k : Nat) :
    Agree old new (o + k) (n + k) (m - k) := by
  intro i hi
  have hshift := h (k + i) (by omega)
  rwa [← Nat.add_assoc, ← Nat.add_assoc] at hshift

theorem Agree.append {k : Nat} (h : Agree old new o n m)
    (hmore : Agree old new (o + m) (n + m) k) : Agree old new o n (m + k) := by
  intro i hi
  by_cases him : i < m
  · exact h i him
  · have hi' := hmore (i - m) (by omega)
    have hshift : o + m + (i - m) = o + i ∧ n + m + (i - m) = n + i := by omega
    rwa [hshift.1, hshift.2] at hi'

theorem Agree.slice_eq (h : Agree old new o n m) : (old.drop o).take m = (new.drop n).take m := by
  refine List.ext_getElem? fun k => ?_
  by_cases hk : k < m
  · rw [List.getElem?_take_of_lt hk, List.getElem?_take_of_lt hk, List.getElem?_drop,
      List.getElem?_drop, h k hk]
  · rw [List.getElem?_eq_none (by rw [List.length_take]; omega),
      List.getElem?_eq_none (by rw [List.length_take]; omega)]

theorem Agree.drop_eq (h : Agree old new o n m) (hends : old.drop (o + m) = new.drop (n + m)) :
    old.drop o = new.drop n := by
  rw [← List.take_append_drop m (old.drop o), ← List.take_append_drop m (new.drop n), h.slice_eq,
    List.drop_drop, List.drop_drop, hends]

/-! ## Numbers of lines -/

theorem map_numbered (lines : List Text) : ∀ seen : Array Text,
    (numbered seen lines).1.map some =
      lines.map fun l => (numbered seen lines).2.findIdx? (· == l) := by
  induction lines with
  | nil => intro seen; rfl
  | cons line more ih =>
      intro seen
      cases hline : seen.findIdx? (· == line) with
      | some i =>
          simp only [numbered, hline, List.map_cons, ih seen, extends_numbered more seen hline]
      | none =>
          have hfound := extends_numbered more (seen.push line) (findIdx?_push_self hline)
          simp only [numbered, hline, List.map_cons, ih (seen.push line), hfound]

theorem number_found (seen : Array Text) {lines : List Text} {i : Nat} (hi : i < lines.length) :
    ∃ l k, lines[i]? = some l ∧ (numbered seen lines).1[i]? = some k ∧
      (numbered seen lines).2.findIdx? (· == l) = some k := by
  have hnumber := congrArg (·[i]?) (map_numbered lines seen)
  have hlength : i < (numbered seen lines).1.length := by rwa [numbered_length]
  simp only [List.getElem?_map, List.getElem?_eq_getElem hi, List.getElem?_eq_getElem hlength,
    Option.map_some, Option.some.injEq] at hnumber
  exact ⟨_, _, List.getElem?_eq_getElem hi, List.getElem?_eq_getElem hlength, hnumber.symm⟩

theorem line_eq_of_number {all : Array Text} {l l' : Text} {k : Nat}
    (h : all.findIdx? (· == l) = some k) (h' : all.findIdx? (· == l') = some k) : l = l' := by
  obtain ⟨hk, hl, -⟩ := Array.findIdx?_eq_some_iff_getElem.mp h
  obtain ⟨_, hl', -⟩ := Array.findIdx?_eq_some_iff_getElem.mp h'
  exact (eq_of_beq hl).symm.trans (eq_of_beq hl')

/-- The two lists of lines, ready to be compared. -/
def sidesOf (old new : List Text) : Sides :=
  let (oldItems, seen) := numbered #[] old
  let (newItems, seen) := numbered seen new
  Sides.of seen.size oldItems.toArray newItems.toArray

/-- Common runs of the numbers are lines that agree. -/
theorem agree_of_common (old new : List Text) {r : Run} (hcommon : (sidesOf old new).Common r)
    (hold : r.old + r.size ≤ old.length) (hnew : r.new + r.size ≤ new.length) :
    Agree old new r.old r.new r.size := by
  intro k hk
  have hold' : r.old + k < old.length := by omega
  have hnew' : r.new + k < new.length := by omega
  obtain ⟨l, a, hl, ha, hfound⟩ := number_found #[] hold'
  obtain ⟨l', b, hl', hb, hfound'⟩ := number_found (numbered #[] old).2 hnew'
  have hitem := hcommon k hk
  simp only [sidesOf, Sides.of, Array.getD_eq_getD_getElem?, List.getElem?_toArray, ha, hb,
    Option.getD_some] at hitem
  subst hitem
  rw [hl, hl', line_eq_of_number (extends_numbered new _ hfound) hfound']

/-! ## Stretches that tile -/

/-- The stretches tile the two lists from offsets `o` and `n` up to `o'` and `n'`, and each kept
one has the same lines on both sides. -/
inductive Tiled (old new : List Text) : Nat → Nat → List Stretch → Nat → Nat → Prop where
  | nil {o n : Nat} : Tiled old new o n [] o n
  | kept {o n m o' n' : Nat} {more : List Stretch} : Agree old new o n m →
      Tiled old new (o + m) (n + m) more o' n' →
      Tiled old new o n (⟨.kept, o, o + m, n, n + m⟩ :: more) o' n'
  | altered {o n k m o' n' : Nat} {more : List Stretch} :
      Tiled old new (o + k) (n + m) more o' n' →
      Tiled old new o n (⟨.altered, o, o + k, n, n + m⟩ :: more) o' n'

theorem Tiled.append {l more : List Stretch} {o₁ n₁ : Nat} (h : Tiled old new o n l o₁ n₁)
    (hmore : Tiled old new o₁ n₁ more o' n') : Tiled old new o n (l ++ more) o' n' := by
  induction h with
  | nil => exact hmore
  | kept hagree _ ih => exact .kept hagree (ih hmore)
  | altered _ ih => exact .altered (ih hmore)

theorem Tiled.le {l : List Stretch} (h : Tiled old new o n l o' n') : o ≤ o' ∧ n ≤ n' := by
  induction h with
  | nil => exact ⟨Nat.le_refl _, Nat.le_refl _⟩
  | kept _ _ ih => omega
  | altered _ ih => omega

theorem tiled_altered {o₁ n₁ : Nat} {more : List Stretch} (ho : o ≤ o₁) (hn : n ≤ n₁)
    (hmore : Tiled old new o₁ n₁ more o' n') :
    Tiled old new o n ((if o < o₁ ∨ n < n₁ then [⟨.altered, o, o₁, n, n₁⟩] else []) ++ more)
      o' n' := by
  obtain ⟨k, rfl⟩ := Nat.exists_eq_add_of_le ho
  obtain ⟨m, rfl⟩ := Nat.exists_eq_add_of_le hn
  split
  · exact .altered hmore
  · next hnone =>
      have hk : k = 0 ∧ m = 0 := by omega
      rw [hk.1, hk.2] at hmore
      exact hmore

theorem Sides.Chain.le {s : Sides} {runs : List Run} {oldLo newLo oldHi newHi : Nat}
    (h : s.Chain oldHi newHi oldLo newLo runs) : oldLo ≤ oldHi ∧ newLo ≤ newHi := by
  induction runs generalizing oldLo newLo with
  | nil => exact h
  | cons r more ih =>
      obtain ⟨hold, hnew, -, hmore⟩ := h
      have := ih hmore
      omega

/-- The stretches that a chain of common runs leaves tile both lists. -/
theorem tiled_stretchesFrom {runs : List Run} : ∀ {o n : Nat},
    (sidesOf old new).Chain old.length new.length o n runs →
    Tiled old new o n (stretchesFrom o n old.length new.length runs) old.length new.length := by
  induction runs with
  | nil =>
      intro o n h
      have hnil : Tiled old new old.length new.length [] old.length new.length := .nil
      have htail := tiled_altered h.1 h.2 hnil
      rwa [List.append_nil] at htail
  | cons r more ih =>
      intro o n h
      obtain ⟨hold, hnew, hcommon, hmore⟩ := h
      have hends := hmore.le
      exact tiled_altered hold hnew
        (.kept (agree_of_common old new hcommon hends.1 hends.2) (ih hmore))

/-! ## Hunks -/

/-- The hunks account for the lists from offsets `o` and `n` on: the lines before each hunk and
behind the last one agree, and each hunk tiles the lines it is for. -/
inductive Hunked (old new : List Text) : Nat → Nat → List (List Stretch) → Prop where
  | done {o n : Nat} : old.drop o = new.drop n → Hunked old new o n []
  | hunk {o n m o' n' : Nat} {h : List Stretch} {more : List (List Stretch)} :
      Agree old new o n m → h ≠ [] → Tiled old new (o + m) (n + m) h o' n' →
      o' ≤ old.length → n' ≤ new.length → Hunked old new o' n' more →
      Hunked old new o n (h :: more)

theorem trail_kept (o n m : Nat) : Stretch.trail ⟨.kept, o, o + m, n, n + m⟩ =
    ⟨.kept, o, o + min m contextLines, n, n + min m contextLines⟩ := by
  rw [Stretch.trail, Nat.add_min_add_left, Nat.add_min_add_left]

theorem lead_kept (o n m : Nat) : Stretch.lead ⟨.kept, o, o + m, n, n + m⟩ =
    ⟨.kept, o + (m - contextLines), o + (m - contextLines) + min m contextLines,
      n + (m - contextLines), n + (m - contextLines) + min m contextLines⟩ := by
  have hparts : ∀ a : Nat, max a (a + m - contextLines) = a + (m - contextLines) ∧
      a + m = a + (m - contextLines) + min m contextLines := by
    intro a
    omega
  rw [Stretch.lead, ← (hparts o).2, ← (hparts n).2]
  dsimp only
  rw [(hparts o).1, (hparts n).1]

/-- A kept stretch cut down to its lead, with lines before it that agree. -/
theorem tiled_lead (h : Agree old new o n m) {more : List Stretch}
    (hmore : Tiled old new (o + m) (n + m) more o' n') :
    Agree old new o n (m - contextLines) ∧
      Tiled old new (o + (m - contextLines)) (n + (m - contextLines))
        (Stretch.lead ⟨.kept, o, o + m, n, n + m⟩ :: more) o' n' := by
  have hparts : ∀ a : Nat, a + m = a + (m - contextLines) + min m contextLines := by
    intro a
    omega
  rw [hparts o, hparts n] at hmore
  rw [lead_kept]
  have hback := (h.back (m - contextLines)).front (k := min m contextLines) (by omega)
  exact ⟨h.front (Nat.sub_le _ _), .kept hback hmore⟩

theorem tiled_trail (h : Agree old new o n m) :
    Tiled old new o n [Stretch.trail ⟨.kept, o, o + m, n, n + m⟩]
      (o + min m contextLines) (n + min m contextLines) := by
  rw [trail_kept]
  exact .kept (h.front (Nat.min_le_left _ _)) .nil

theorem tiled_cutStart {l : List Stretch} (h : Tiled old new o n l o' n') :
    ∃ m, Agree old new o n m ∧ Tiled old new (o + m) (n + m) (trimmed.cutStart l) o' n' := by
  cases h with
  | nil => exact ⟨0, agree_zero old new o n, .nil⟩
  | kept hagree hmore => exact ⟨_, tiled_lead hagree hmore⟩
  | altered hmore => exact ⟨0, agree_zero old new o n, .altered hmore⟩

theorem tiled_cutEnd {l : List Stretch} (h : Tiled old new o n l o' n')
    (hends : old.drop o' = new.drop n') :
    ∃ o₁ n₁, o₁ ≤ o' ∧ n₁ ≤ n' ∧ Tiled old new o n (trimmed.cutEnd l) o₁ n₁ ∧
      old.drop o₁ = new.drop n₁ := by
  induction h with
  | nil => exact ⟨_, _, Nat.le_refl _, Nat.le_refl _, .nil, hends⟩
  | @kept o n m o' n' more hagree hmore ih =>
      cases more with
      | nil =>
          cases hmore
          have hrest := (hagree.back (min m contextLines)).drop_eq
          rw [Nat.add_assoc, Nat.add_assoc, Nat.add_sub_cancel' (Nat.min_le_left _ _)] at hrest
          exact ⟨_, _, by omega, by omega, tiled_trail hagree, hrest hends⟩
      | cons t more =>
          obtain ⟨o₁, n₁, ho, hn, htiled, hdrop⟩ := ih hends
          exact ⟨o₁, n₁, ho, hn, .kept hagree htiled, hdrop⟩
  | altered hmore ih =>
      cases hmore with
      | nil => exact ⟨_, _, Nat.le_refl _, Nat.le_refl _, .altered .nil, hends⟩
      | kept hagree hmore =>
          obtain ⟨o₁, n₁, ho, hn, htiled, hdrop⟩ := ih hends
          exact ⟨o₁, n₁, ho, hn, .altered htiled, hdrop⟩
      | altered hmore =>
          obtain ⟨o₁, n₁, ho, hn, htiled, hdrop⟩ := ih hends
          exact ⟨o₁, n₁, ho, hn, .altered htiled, hdrop⟩

/-- The hunks of stretches that tile the rest, where the group at hand tiles what is in front of them
from where lines agree. -/
theorem hunked_hunksFrom {rest : List Stretch} (ho : o' ≤ old.length) (hn : n' ≤ new.length)
    (hends : old.drop o' = new.drop n') : ∀ {group : List Stretch} {o n m o₁ n₁ : Nat},
    Agree old new o n m → Tiled old new (o + m) (n + m) group.reverse o₁ n₁ →
    Tiled old new o₁ n₁ rest o' n' → Hunked old new o n (hunksFrom group rest) := by
  induction rest with
  | nil =>
      intro group o n m o₁ n₁ hagree hgroup hrest
      cases hrest
      match group with
      | [] =>
        cases hgroup
        exact .done (hagree.drop_eq hends)
      | [s] =>
        rw [hunksFrom]
        split
        · next hkept =>
            cases hgroup with
            | kept hagree' hmore =>
                cases hmore
                rw [Nat.add_assoc, Nat.add_assoc] at hends
                exact .done ((hagree.append hagree').drop_eq hends)
            | altered => cases hkept
        · exact .hunk hagree (List.cons_ne_nil _ _) hgroup ho hn (.done hends)
      | s :: t :: group =>
        have hne : (s :: t :: group).reverse ≠ [] :=
          List.reverse_ne_nil_iff.mpr (List.cons_ne_nil _ _)
        exact .hunk hagree hne hgroup ho hn (.done hends)
  | cons s rest ih =>
      intro group o n m o₁ n₁ hagree hgroup hrest
      have hle := hrest.le
      rw [hunksFrom]
      split
      · next hlong =>
          obtain ⟨hkept, hlong⟩ := hlong
          cases hrest with
          | altered => cases hkept
          | @kept _ _ k _ _ _ hagree' hmore =>
              have hle := hmore.le
              -- behind the trail and in front of the lead, lines that agree are left out
              have hgap : ∀ a : Nat, a + (k - contextLines) =
                  a + min k contextLines + (k - contextLines - min k contextLines) := by
                intro a
                dsimp only at hlong
                omega
              obtain ⟨-, hlead⟩ := tiled_lead hagree' .nil
              rw [hgap, hgap] at hlead
              have hne := List.append_ne_nil_of_right_ne_nil group.reverse
                (List.cons_ne_nil (Stretch.trail ⟨.kept, o₁, o₁ + k, n₁, n₁ + k⟩) [])
              rw [List.reverse_cons]
              refine .hunk hagree hne (hgroup.append (tiled_trail hagree')) (by omega) (by omega)
                (ih ?_ hlead hmore)
              exact (hagree'.back _).front (by omega)
      · have hone : Tiled old new o₁ n₁ [s] s.oldHi s.newHi ∧ Tiled old new s.oldHi s.newHi rest o' n' := by
          cases hrest with
          | kept hagree' hmore => exact ⟨.kept hagree' .nil, hmore⟩
          | altered hmore => exact ⟨.altered .nil, hmore⟩
        refine ih hagree ?_ hone.2
        rw [List.reverse_cons]
        exact hgroup.append hone.1

/-- The hunks of two lists of lines account for both of them. -/
theorem hunked_hunks (old new : List Text) : Hunked old new 0 0 (hunks old new) := by
  have hseeded : (sidesOf old new).Seeded := Sides.seeds_of _ _ _
  have hold : (sidesOf old new).old.size = old.length := numbered_length old #[]
  have hnew : (sidesOf old new).new.size = new.length := numbered_length new _
  have hchain := Sides.chain_runs hseeded
  rw [hold, hnew] at hchain
  obtain ⟨m, hagree, hstart⟩ := tiled_cutStart (tiled_stretchesFrom hchain)
  obtain ⟨o₁, n₁, ho, hn, hend, hends⟩ :=
    tiled_cutEnd hstart (by rw [List.drop_length, List.drop_length])
  exact hunked_hunksFrom ho hn hends hagree .nil hend

end Readiness.Diff
