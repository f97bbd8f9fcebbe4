import Mathlib.Data.List.TakeWhile
import Readiness.Proofs.DiffSame

/-!
# Common runs are common

What the matching of two sequences finds is a list of runs, and each of them has to be
what its name says: the same items on both sides. A row of the table notes the lengths
of the runs that end there, and such a note is good if a common run of that length does
end there. A row grows from the row above it, so good notes give good notes, and the
best run is one of them or was good before. It then grows over equal items only.

The rest is bookkeeping about where runs stand. What is looked for before a run ends
before it, what is looked for behind it starts behind it, so the runs come in a chain
through both sequences, and runs that touch can be made one.
-/

namespace Readiness.Diff

namespace Sides

/-- The two sequences are ready to be compared: where runs may start to grow for an item, they may at
each of its offsets. -/
def Seeded (s : Sides) : Prop :=
  ∀ x, s.seeds.getD x [] = [] ∨ s.seeds.getD x [] = offsetsIn x s.new.toList 0

/-- The items of the run on one side are those on the other. -/
def Common (s : Sides) (r : Run) : Prop :=
  ∀ k < r.size, s.old.getD (r.old + k) 0 = s.new.getD (r.new + k) 0

/-- The run lies in the old sequence from `oldLo` up to `oldHi` and in the new one from `newLo` up to
`newHi`, and it is common. -/
structure Found (s : Sides) (oldLo oldHi newLo newHi : Nat) (r : Run) : Prop where
  common : s.Common r
  oldLo : oldLo ≤ r.old
  oldHi : r.old + r.size ≤ oldHi
  newLo : newLo ≤ r.new
  newHi : r.new + r.size ≤ newHi

/-- A note in the row above offset `i` of the old sequence: there is a common run of the noted length
that ends in that row, at the noted offset of the new sequence. -/
def Noted (s : Sides) (oldLo newLo newHi i : Nat) (note : Nat × Nat) : Prop :=
  ∃ r, s.Found oldLo i newLo newHi r ∧ r.size = note.2 ∧ r.old + note.2 = i ∧
    r.new + note.2 = note.1 + 1

variable {s : Sides} {oldLo oldHi newLo newHi : Nat}

/-! ## Rows -/

theorem le_of_mem_dropWhile {lo j : Nat} {l : List Nat} (sorted : l.Pairwise (· < ·))
    (mem : j ∈ l.dropWhile (· < lo)) : lo ≤ j := by
  induction l with
  | nil => cases mem
  | cons i l ih =>
      obtain ⟨hlater, hsorted⟩ := List.pairwise_cons.mp sorted
      rw [List.dropWhile_cons] at mem
      split at mem
      · exact ih hsorted mem
      · next hi =>
          rw [decide_eq_true_iff, Nat.not_lt] at hi
          rcases List.mem_cons.mp mem with rfl | mem
          · exact hi
          · exact Nat.le_trans hi (Nat.le_of_lt (hlater j mem))

theorem row_facts (h : s.Seeded) {x j : Nat}
    (mem : j ∈ ((s.seeds.getD x []).dropWhile (· < newLo)).takeWhile (· < newHi)) :
    s.new.getD j 0 = x ∧ newLo ≤ j ∧ j < newHi := by
  have hhi := List.mem_takeWhile_imp mem
  have hdrop := (List.takeWhile_prefix _).subset mem
  have hseed := (List.dropWhile_suffix _).subset hdrop
  rw [decide_eq_true_iff] at hhi
  rcases h x with hnone | hall
  · rw [hnone] at hseed
    cases hseed
  · rw [hall] at hseed hdrop
    have hitem := mem_offsetsIn.mp hseed
    rw [Array.getElem?_toList] at hitem
    exact ⟨by rw [Array.getD_eq_getD_getElem?, hitem, Option.getD_some],
      le_of_mem_dropWhile (offsetsIn_sorted x _ 0).1 hdrop, hhi⟩

theorem mem_grow {js : List Nat} {before : List (Nat × Nat)} {note : Nat × Nat}
    (mem : note ∈ grow js before) :
    note.1 ∈ js ∧ (note.2 = 1 ∨ ∃ p ∈ before, p.1 + 1 = note.1 ∧ note.2 = p.2 + 1) := by
  fun_induction grow js before with
  | case1 => cases mem
  | case2 j more ih =>
      rcases List.mem_cons.mp mem with rfl | mem
      · exact ⟨List.mem_cons_self, .inl rfl⟩
      · exact (ih mem).imp_left (List.mem_cons_of_mem j)
  | case3 j more i k before hfar ih =>
      exact (ih mem).imp_right fun h => h.imp_right fun ⟨p, hp, hnext⟩ =>
        ⟨p, List.mem_cons_of_mem _ hp, hnext⟩
  | case4 more i k before hfar ih =>
      rcases List.mem_cons.mp mem with rfl | mem
      · exact ⟨List.mem_cons_self, .inr ⟨(i, k), List.mem_cons_self, rfl, rfl⟩⟩
      · obtain ⟨hmore, hgrown⟩ := ih mem
        exact ⟨List.mem_cons_of_mem _ hmore, hgrown.imp_right fun ⟨p, hp, hp'⟩ =>
          ⟨p, List.mem_cons_of_mem _ hp, hp'⟩⟩
  | case5 j more i k before hfar hnext ih =>
      rcases List.mem_cons.mp mem with rfl | mem
      · exact ⟨List.mem_cons_self, .inl rfl⟩
      · exact (ih mem).imp_left (List.mem_cons_of_mem j)

theorem noted_grow {i : Nat} {js : List Nat} {before : List (Nat × Nat)}
    (hi : oldLo ≤ i) (hjs : ∀ j ∈ js, s.new.getD j 0 = s.old.getD i 0 ∧ newLo ≤ j ∧ j < newHi)
    (hbefore : ∀ p ∈ before, s.Noted oldLo newLo newHi i p) {note : Nat × Nat}
    (mem : note ∈ grow js before) : s.Noted oldLo newLo newHi (i + 1) note := by
  obtain ⟨j, size⟩ := note
  obtain ⟨hj, hgrown⟩ := mem_grow mem
  obtain ⟨hitem, hlo, hhi⟩ := hjs j hj
  rcases hgrown with hone | ⟨p, hp, hnext, hsize⟩
  · dsimp only at hone
    subst hone
    refine ⟨⟨i, j, 1⟩, ⟨fun k hk => ?_, hi, Nat.le_refl _, hlo, hhi⟩, rfl, rfl, rfl⟩
    rw [Nat.lt_one_iff.mp hk]
    exact hitem.symm
  · obtain ⟨r, hfound, hlength, hold, hnew⟩ := hbefore p hp
    dsimp only at hnext hsize
    subst hsize
    have hends : r.old + r.size = i ∧ r.new + r.size = j := by omega
    refine ⟨⟨r.old, r.new, r.size + 1⟩, ⟨fun k hk => ?_, hfound.oldLo, ?_, hfound.newLo, ?_⟩,
      by dsimp only; omega, by dsimp only; omega, by dsimp only; omega⟩
    · rcases Nat.lt_succ_iff_lt_or_eq.mp hk with hk | rfl
      · exact hfound.common k hk
      · dsimp only
        rw [hends.1, hends.2, hitem]
    · dsimp only
      omega
    · dsimp only
      omega

theorem better_eq (i : Nat) (best : Run) (ends : List (Nat × Nat)) :
    better i best ends = best ∨
      ∃ note ∈ ends, better i best ends = ⟨i + 1 - note.2, note.1 + 1 - note.2, note.2⟩ := by
  induction ends generalizing best with
  | nil => exact .inl rfl
  | cons note ends ih =>
      have hstep : better i best (note :: ends) = better i (if best.size < note.2 then
          ⟨i + 1 - note.2, note.1 + 1 - note.2, note.2⟩ else best) ends := rfl
      rw [hstep]
      rcases ih (if best.size < note.2 then
          ⟨i + 1 - note.2, note.1 + 1 - note.2, note.2⟩ else best) with hbest | ⟨later, hlater, hbest⟩
      · rw [hbest]
        split
        · exact .inr ⟨note, List.mem_cons_self, rfl⟩
        · exact .inl rfl
      · exact .inr ⟨later, List.mem_cons_of_mem _ hlater, hbest⟩

theorem Found.better {i : Nat} (hi : i < oldHi) {best : Run}
    (hbest : s.Found oldLo oldHi newLo newHi best) {ends : List (Nat × Nat)}
    (hends : ∀ note ∈ ends, s.Noted oldLo newLo newHi (i + 1) note) :
    s.Found oldLo oldHi newLo newHi (better i best ends) := by
  rcases better_eq i best ends with heq | ⟨note, hnote, heq⟩
  · rwa [heq]
  · obtain ⟨r, hfound, hlength, hold, hnew⟩ := hends note hnote
    have hr : (⟨i + 1 - note.2, note.1 + 1 - note.2, note.2⟩ : Run) = r := by
      rw [← hold, ← hnew, Nat.add_sub_cancel, Nat.add_sub_cancel, ← hlength]
    rw [heq, hr]
    exact ⟨hfound.common, hfound.oldLo, Nat.le_trans hfound.oldHi hi, hfound.newLo, hfound.newHi⟩

theorem Found.longestFrom (h : s.Seeded) {count : Nat} : ∀ {i : Nat} {before : List (Nat × Nat)}
    {best : Run}, oldLo ≤ i → i + count ≤ oldHi →
    (∀ note ∈ before, s.Noted oldLo newLo newHi i note) →
    s.Found oldLo oldHi newLo newHi best →
    s.Found oldLo oldHi newLo newHi (longestFrom s newLo newHi count i before best) := by
  induction count with
  | zero =>
      intro i before best _ _ _ hbest
      exact hbest
  | succ count ih =>
      intro i before best hlo hhi hbefore hbest
      have hends : ∀ note ∈ grow (((s.seeds.getD (s.old.getD i 0) []).dropWhile
          (· < newLo)).takeWhile (· < newHi)) before, s.Noted oldLo newLo newHi (i + 1) note :=
        fun note => noted_grow hlo (fun j hj => row_facts h hj) hbefore
      rw [Diff.longestFrom]
      exact ih (Nat.le_succ_of_le hlo) (by omega) hends (hbest.better (by omega) hends)

/-! ## The longest run -/

theorem Found.growFront {count : Nat} : ∀ {r : Run}, s.Found oldLo oldHi newLo newHi r →
    s.Found oldLo oldHi newLo newHi (growFront s oldLo newLo count r) := by
  induction count with
  | zero => intro r h; exact h
  | succ count ih =>
      intro r h
      rw [Diff.growFront]
      split
      · next hgrow =>
          obtain ⟨hold, hnew, hitem⟩ := hgrow
          have hends : r.old - 1 + (r.size + 1) = r.old + r.size ∧
              r.new - 1 + (r.size + 1) = r.new + r.size := by omega
          refine ih ⟨fun k hk => ?_, Nat.le_pred_of_lt hold, ?_, Nat.le_pred_of_lt hnew, ?_⟩
          · cases k with
            | zero => exact hitem
            | succ k =>
                have hk' := h.common k (Nat.lt_of_succ_lt_succ hk)
                have hshift : r.old - 1 + (k + 1) = r.old + k ∧ r.new - 1 + (k + 1) = r.new + k := by
                  omega
                dsimp only
                rw [hshift.1, hshift.2, hk']
          · rw [hends.1]
            exact h.oldHi
          · rw [hends.2]
            exact h.newHi
      · exact h

theorem Found.growBack {count : Nat} : ∀ {r : Run}, s.Found oldLo oldHi newLo newHi r →
    s.Found oldLo oldHi newLo newHi (growBack s oldHi newHi count r) := by
  induction count with
  | zero => intro r h; exact h
  | succ count ih =>
      intro r h
      rw [Diff.growBack]
      split
      · next hgrow =>
          obtain ⟨hold, hnew, hitem⟩ := hgrow
          refine ih ⟨fun k hk => ?_, h.oldLo, hold, h.newLo, hnew⟩
          rcases Nat.lt_succ_iff_lt_or_eq.mp hk with hk | rfl
          · exact h.common k hk
          · exact hitem
      · exact h

theorem found_longest (h : s.Seeded) (hold : oldLo ≤ oldHi) (hnew : newLo ≤ newHi) :
    s.Found oldLo oldHi newLo newHi (longest s oldLo oldHi newLo newHi) := by
  have hempty : s.Found oldLo oldHi newLo newHi ⟨oldLo, newLo, 0⟩ :=
    ⟨fun k hk => absurd hk (Nat.not_lt_zero k), Nat.le_refl _, hold, Nat.le_refl _, hnew⟩
  exact (hempty.longestFrom h (Nat.le_refl _) (by omega)
    fun note hnote => absurd hnote List.not_mem_nil).growFront.growBack

/-! ## Chains -/

/-- The runs are common and stand one behind the other, from the given offsets on and up to the given
ends. -/
def Chain (s : Sides) (oldHi newHi : Nat) : Nat → Nat → List Run → Prop
  | oldLo, newLo, [] => oldLo ≤ oldHi ∧ newLo ≤ newHi
  | oldLo, newLo, r :: more =>
    oldLo ≤ r.old ∧ newLo ≤ r.new ∧ s.Common r ∧
      s.Chain oldHi newHi (r.old + r.size) (r.new + r.size) more

theorem Chain.append {oldMid newMid : Nat} {behind : List Run}
    (hbehind : s.Chain oldHi newHi oldMid newMid behind) : ∀ {front : List Run} {oldLo newLo : Nat},
    s.Chain oldMid newMid oldLo newLo front → s.Chain oldHi newHi oldLo newLo (front ++ behind) := by
  intro front
  induction front with
  | nil =>
      intro oldLo newLo hfront
      cases behind with
      | nil => exact ⟨Nat.le_trans hfront.1 hbehind.1, Nat.le_trans hfront.2 hbehind.2⟩
      | cons r more =>
          exact ⟨Nat.le_trans hfront.1 hbehind.1, Nat.le_trans hfront.2 hbehind.2.1, hbehind.2.2⟩
  | cons r front ih =>
      intro oldLo newLo hfront
      exact ⟨hfront.1, hfront.2.1, hfront.2.2.1, ih hfront.2.2.2⟩

theorem chain_runsBetween (h : s.Seeded) {levels : Nat} : ∀ {oldLo oldHi newLo newHi : Nat},
    oldLo ≤ oldHi → newLo ≤ newHi →
    s.Chain oldHi newHi oldLo newLo (runsBetween s levels oldLo oldHi newLo newHi) := by
  induction levels with
  | zero => intro oldLo oldHi newLo newHi hold hnew; exact ⟨hold, hnew⟩
  | succ levels ih =>
      intro oldLo oldHi newLo newHi hold hnew
      have hfound := found_longest h hold hnew
      rw [runsBetween]
      generalize longest s oldLo oldHi newLo newHi = r at hfound
      split
      · exact ⟨hold, hnew⟩
      · have hbehind : s.Chain oldHi newHi r.old r.new (r ::
            if r.old + r.size < oldHi ∧ r.new + r.size < newHi then
              runsBetween s levels (r.old + r.size) oldHi (r.new + r.size) newHi else []) := by
          refine ⟨Nat.le_refl _, Nat.le_refl _, hfound.common, ?_⟩
          split
          · exact ih hfound.oldHi hfound.newHi
          · exact ⟨hfound.oldHi, hfound.newHi⟩
        refine hbehind.append ?_
        split
        · exact ih hfound.oldLo hfound.newLo
        · exact ⟨hfound.oldLo, hfound.newLo⟩

theorem Chain.merged : ∀ {runs : List Run} {oldLo newLo : Nat}, s.Chain oldHi newHi oldLo newLo runs →
    s.Chain oldHi newHi oldLo newLo (merged runs) := by
  intro runs
  induction runs with
  | nil => intro oldLo newLo h; exact h
  | cons r more ih =>
      intro oldLo newLo h
      obtain ⟨hold, hnew, hcommon, hmore⟩ := h
      have hmerged := ih hmore
      rw [Diff.merged]
      split
      · next hnil =>
          rw [hnil] at hmerged
          exact ⟨hold, hnew, hcommon, hmerged⟩
      · next q rest hcons =>
          rw [hcons] at hmerged
          split
          · next htouch =>
              obtain ⟨-, -, hnext, hrest⟩ := hmerged
              refine ⟨hold, hnew, fun k hk => ?_, ?_⟩
              · by_cases hk' : k < r.size
                · exact hcommon k hk'
                · have hq := hnext (k - r.size) (by dsimp only at hk; omega)
                  have hshift : q.old + (k - r.size) = r.old + k ∧ q.new + (k - r.size) = r.new + k := by
                    omega
                  rwa [hshift.1, hshift.2] at hq
              · dsimp only
                rw [← Nat.add_assoc, ← Nat.add_assoc, htouch.1, htouch.2]
                exact hrest
          · exact ⟨hold, hnew, hcommon, hmerged⟩

/-- The common runs of two sequences stand one behind the other in both. -/
theorem chain_runs (h : s.Seeded) : s.Chain s.old.size s.new.size 0 0 s.runs :=
  (chain_runsBetween h (Nat.zero_le _) (Nat.zero_le _)).merged

end Sides

end Readiness.Diff
