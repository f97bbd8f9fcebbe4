import Readiness.Repair.Engine

/-!
# Stable sorting, and the order in which issues are repaired

`mergeSort` keeps elements that tie as they were. This file turns that into
the form the engine's theorems ask for: a sorted list is the sorted form of
another one as soon as, for every element, it holds the elements that tie
with it in the same order. Whatever respects ties therefore commutes with
sorting, and leaving out some of the elements does.

The processing order of issues is one such sort. `BottomUp` says what it is
without saying how it is made, and there is only one list it is true of.
-/

namespace Readiness

namespace StableSort

variable {α : Type} {le : α → α → Bool}

/-- Neither of the two has to come before the other. -/
def tied (le : α → α → Bool) (a b : α) : Bool := le a b && le b a

theorem tied_self (total : ∀ a b, le a b || le b a) (a : α) : tied le a a = true := by
  have h := total a a
  rw [Bool.or_self] at h
  rw [tied, h, Bool.and_self]

/-- Sorting keeps elements as they were when none of them has to come before
another. -/
theorem mergeSort_filter_of_tied (trans : ∀ a b c, le a b → le b c → le a c)
    (total : ∀ a b, le a b || le b a) {p : α → Bool}
    (ties : ∀ a b, p a = true → p b = true → le a b = true) (l : List α) :
    (l.mergeSort le).filter p = l.filter p := by
  have any : (l.filter p).Pairwise fun _ _ => True :=
    List.pairwise_of_forall fun _ _ => trivial
  have sorted : (l.filter p).Pairwise fun a b => le a b = true :=
    any.imp_of_mem fun ha hb _ =>
      ties _ _ (List.mem_filter.mp ha).2 (List.mem_filter.mp hb).2
  have sub := (List.sublist_mergeSort trans total sorted List.filter_sublist).filter p
  rw [List.filter_filter] at sub
  simp only [Bool.and_self] at sub
  have perm := (List.mergeSort_perm l le).filter p
  exact (sub.eq_of_length perm.length_eq.symm).symm

theorem filter_tied_mergeSort (trans : ∀ a b c, le a b → le b c → le a c)
    (total : ∀ a b, le a b || le b a) (l : List α) (a : α) :
    (l.mergeSort le).filter (tied le a) = l.filter (tied le a) := by
  refine mergeSort_filter_of_tied trans total ?_ l
  intro b c hb hc
  rw [tied, Bool.and_eq_true] at hb hc
  exact trans b a c hb.2 hc.1

/-- Sorted lists that have each other's heads have heads that tie. -/
theorem tied_heads (total : ∀ a b, le a b || le b a) {a b : α} {l m : List α}
    (hl : (a :: l).Pairwise fun a b => le a b = true)
    (hm : (b :: m).Pairwise fun a b => le a b = true) (ha : a ∈ b :: m) (hb : b ∈ a :: l) :
    tied le a b = true := by
  rcases List.mem_cons.mp ha with rfl | ha
  · exact tied_self total a
  · rcases List.mem_cons.mp hb with rfl | hb
    · exact tied_self total b
    · have hab := List.rel_of_pairwise_cons hl hb
      have hba := List.rel_of_pairwise_cons hm ha
      rw [tied, hab, hba, Bool.and_self]

/-- Two sorted lists that agree on what ties with each element are the same
list: their heads tie with each other, so they head the same ties. -/
theorem eq_of_filter_tied (total : ∀ a b, le a b || le b a) :
    ∀ {l m : List α}, l.Pairwise (fun a b => le a b = true) →
      m.Pairwise (fun a b => le a b = true) →
      (∀ a, l.filter (tied le a) = m.filter (tied le a)) → l = m := by
  intro l
  induction l with
  | nil =>
      intro m _ _ h
      cases m with
      | nil => rfl
      | cons b m =>
          have hb := h b
          rw [List.filter_cons_of_pos (tied_self total b)] at hb
          cases hb
  | cons a l ih =>
      intro m hl hm h
      have ha := h a
      rw [List.filter_cons_of_pos (tied_self total a)] at ha
      cases m with
      | nil => cases ha
      | cons b m =>
          have hmem : a ∈ b :: m := (List.mem_filter.mp (ha ▸ List.mem_cons_self)).1
          have hmem' : b ∈ a :: l := by
            have hb := h b
            rw [List.filter_cons_of_pos (tied_self total b)] at hb
            exact (List.mem_filter.mp (hb ▸ List.mem_cons_self)).1
          have htie := tied_heads total hl hm hmem hmem'
          rw [List.filter_cons_of_pos htie] at ha
          obtain ⟨rfl, -⟩ := List.cons.inj ha
          have hrest : ∀ c, l.filter (tied le c) = m.filter (tied le c) := by
            intro c
            have hc := h c
            by_cases hca : tied le c a = true
            · rw [List.filter_cons_of_pos hca, List.filter_cons_of_pos hca] at hc
              exact (List.cons.inj hc).2
            · rw [List.filter_cons_of_neg hca, List.filter_cons_of_neg hca] at hc
              exact hc
          rw [ih hl.of_cons hm.of_cons hrest]

/-- Leaving out elements before or after sorting comes to the same. -/
theorem mergeSort_filter (trans : ∀ a b c, le a b → le b c → le a c)
    (total : ∀ a b, le a b || le b a) (p : α → Bool) (l : List α) :
    (l.filter p).mergeSort le = (l.mergeSort le).filter p := by
  have comm : ∀ (a : α) (m : List α),
      (m.filter p).filter (tied le a) = (m.filter (tied le a)).filter p := by
    intro a m
    rw [List.filter_filter, List.filter_filter]
    exact List.filter_congr fun x _ => Bool.and_comm _ _
  refine eq_of_filter_tied total (List.pairwise_mergeSort trans total _)
    ((List.pairwise_mergeSort trans total l).filter p) ?_
  intro a
  rw [filter_tied_mergeSort trans total, comm, comm, filter_tied_mergeSort trans total]

theorem mergeSort_pair (le : α → α → Bool) (a b : α) :
    [a, b].mergeSort le = if le a b then [a, b] else [b, a] := by
  rw [List.mergeSort]
  simp [List.MergeSort.Internal.splitInTwo, List.splitAt, List.splitAt.go, List.merge]

end StableSort

namespace Repair

open StableSort

theorem comesFirst_iff {a b : Issue} :
    comesFirst a b = true ↔ b.line < a.line ∨ b.line = a.line ∧ b.orderColumn ≤ a.orderColumn := by
  rw [comesFirst, decide_eq_true_iff]

theorem comesFirst_trans (a b c : Issue) (hab : comesFirst a b) (hbc : comesFirst b c) :
    comesFirst a c := by
  rw [comesFirst_iff] at hab hbc ⊢
  omega

theorem comesFirst_total (a b : Issue) : comesFirst a b || comesFirst b a := by
  rw [Bool.or_eq_true, comesFirst_iff, comesFirst_iff]
  omega

theorem tied_comesFirst {a b : Issue} :
    tied comesFirst a b = decide (b.line = a.line ∧ b.orderColumn = a.orderColumn) := by
  rw [Bool.eq_iff_iff, tied, Bool.and_eq_true, comesFirst_iff, comesFirst_iff,
    decide_eq_true_iff]
  omega

/-- The issues that tie with a given one are those at its place. -/
theorem tied_eq_place (a : Issue) : tied comesFirst a =
    fun i => decide (i.line = a.line ∧ i.column.getD 0 = a.orderColumn) := by
  funext i
  exact tied_comesFirst

/-- The list `ordered` has the issues of `issues` from the bottom of the text up,
on one line from right to left, and those at one place as they were listed. An
issue without a column stands at column zero. -/
structure BottomUp (issues ordered : List Issue) : Prop where
  perm : ordered.Perm issues
  descending : ordered.Pairwise fun a b =>
    b.line < a.line ∨ b.line = a.line ∧ b.column.getD 0 ≤ a.column.getD 0
  stable : ∀ (line : Nat) (column : Int),
    ordered.filter (fun i => i.line = line ∧ i.column.getD 0 = column) =
      issues.filter (fun i => i.line = line ∧ i.column.getD 0 = column)

theorem bottomUp_processingOrder (issues : List Issue) :
    BottomUp issues (processingOrder issues) := by
  refine ⟨List.mergeSort_perm _ _, ?_, ?_⟩
  · exact (List.pairwise_mergeSort comesFirst_trans comesFirst_total issues).imp
      fun h => comesFirst_iff.mp h
  · intro line column
    refine mergeSort_filter_of_tied comesFirst_trans comesFirst_total ?_ issues
    intro a b ha hb
    rw [decide_eq_true_iff] at ha hb
    refine comesFirst_iff.mpr (.inr ⟨hb.1.trans ha.1.symm, ?_⟩)
    exact Int.le_of_eq (hb.2.trans ha.2.symm)

/-- There is one bottom-up order of a list of issues. -/
theorem BottomUp.eq_processingOrder {issues ordered : List Issue}
    (h : BottomUp issues ordered) : ordered = processingOrder issues := by
  refine eq_of_filter_tied comesFirst_total (h.descending.imp fun hab => comesFirst_iff.mpr hab)
    (List.pairwise_mergeSort comesFirst_trans comesFirst_total issues) ?_
  intro a
  rw [processingOrder, filter_tied_mergeSort comesFirst_trans comesFirst_total, tied_eq_place]
  exact h.stable a.line a.orderColumn

end Repair

end Readiness
