import Readiness.Proofs.EditFrame
import Readiness.Proofs.StableSort

/-!
# Edits replace their ranges all at once

What a list of edits does to a text can be said without saying in which order the
edits are made: the slices of the text between the ranges stay, each range gives
way to its replacement, and insertions at one offset come in the order in which
they were listed (`apply_simultaneous`). Two things have to be shown for that. The
check for overlaps looks at neighbours only, and at the end of the last edit only;
but ranges that follow one another stay in order, so neighbours that do not overlap
leave no two edits that do, and the last edit ends last. And the order of the edits
is one that the list decides by itself: sorting is stable, so two lists that hold
the same edits for every range, in the same order, come to one sorted list.
-/

namespace Readiness

namespace Edit

open StableSort

/-! ## The order of the edits -/

theorem comesFirst_iff {a b : Edit} :
    comesFirst a b = true ↔ a.start < b.start ∨ a.start = b.start ∧ a.stop ≤ b.stop := by
  rw [comesFirst, decide_eq_true_iff]

theorem comesFirst_trans (a b c : Edit) (hab : comesFirst a b) (hbc : comesFirst b c) :
    comesFirst a c := by
  rw [comesFirst_iff] at hab hbc ⊢
  omega

theorem comesFirst_total (a b : Edit) : comesFirst a b || comesFirst b a := by
  rw [Bool.or_eq_true, comesFirst_iff, comesFirst_iff]
  omega

theorem tied_eq_range (a : Edit) :
    tied comesFirst a = fun e => decide (e.start = a.start ∧ e.stop = a.stop) := by
  funext e
  rw [Bool.eq_iff_iff, tied, Bool.and_eq_true, comesFirst_iff, comesFirst_iff, decide_eq_true_iff]
  omega

/-- Two lists have the same edits for every range, listed in the same order. -/
def SameRanges (edits listed : List Edit) : Prop :=
  ∀ start stop : Nat, edits.filter (fun e => e.start = start ∧ e.stop = stop) =
    listed.filter (fun e => e.start = start ∧ e.stop = stop)

/-- The list `es` has the edits of `edits` by their starts, at one start by their ends, and those of
one range as they were listed. -/
structure InOrder (edits es : List Edit) : Prop where
  perm : es.Perm edits
  ascending : es.Pairwise fun a b => a.start < b.start ∨ a.start = b.start ∧ a.stop ≤ b.stop
  stable : SameRanges es edits

theorem inOrder_sorted (edits : List Edit) : InOrder edits (sorted edits) := by
  refine ⟨sorted_perm edits, ?_, ?_⟩
  · exact (List.pairwise_mergeSort comesFirst_trans comesFirst_total edits).imp
      fun h => comesFirst_iff.mp h
  · intro start stop
    refine mergeSort_filter_of_tied comesFirst_trans comesFirst_total ?_ edits
    intro a b ha hb
    rw [decide_eq_true_iff] at ha hb
    exact comesFirst_iff.mpr (.inr ⟨ha.1.trans hb.1.symm, Nat.le_of_eq (ha.2.trans hb.2.symm)⟩)

/-- A list has one order. -/
theorem InOrder.eq_sorted {edits es : List Edit} (h : InOrder edits es) : es = sorted edits := by
  refine eq_of_filter_tied comesFirst_total (h.ascending.imp fun hab => comesFirst_iff.mpr hab)
    (List.pairwise_mergeSort comesFirst_trans comesFirst_total edits) ?_
  intro a
  rw [sorted, filter_tied_mergeSort comesFirst_trans comesFirst_total, tied_eq_range]
  exact h.stable a.start a.stop

theorem SameRanges.sorted_eq {edits listed : List Edit} (h : SameRanges edits listed) :
    sorted listed = sorted edits := by
  have sorted_pairwise : ∀ l, (sorted l).Pairwise fun a b => comesFirst a b = true :=
    List.pairwise_mergeSort comesFirst_trans comesFirst_total
  refine eq_of_filter_tied comesFirst_total (sorted_pairwise listed) (sorted_pairwise edits) ?_
  intro a
  rw [sorted, sorted, filter_tied_mergeSort comesFirst_trans comesFirst_total,
    filter_tied_mergeSort comesFirst_trans comesFirst_total, tied_eq_range]
  exact (h a.start a.stop).symm

/-! ## What is refused -/

/-- Some edit of a list starts before an earlier one has ended. -/
def Overlaps (es : List Edit) : Prop := ∃ i j : Fin es.length, i < j ∧ es[j].start < es[i].stop

theorem not_overlaps_iff {es : List Edit} : ¬ Overlaps es ↔ Separated es := by
  rw [Separated, List.pairwise_iff_getElem]
  constructor
  · intro h i j hi hj hij
    exact Nat.not_lt.mp fun hlt => h ⟨⟨i, hi⟩, ⟨j, hj⟩, hij, hlt⟩
  · rintro h ⟨i, j, hij, hlt⟩
    exact absurd (h i j i.isLt j.isLt hij) (Nat.not_le.mpr hlt)

theorem overlap?_of_separated : ∀ {es : List Edit}, Separated es → overlap? es = none := by
  intro es
  induction es with
  | nil => intro _; rfl
  | cons a es ih =>
      intro h
      cases es with
      | nil => rfl
      | cons b more =>
          have hab := List.rel_of_pairwise_cons h List.mem_cons_self
          rw [overlap?, if_neg (Nat.not_lt.mpr hab)]
          exact ih h.of_cons

/-- Nothing is wrong with edits that are separated and end in the text. -/
theorem refusal?_eq_none_iff {es : List Edit} {t : Text} :
    refusal? t.length es = none ↔ Separated es ∧ Within t es := by
  constructor
  · intro h
    refine ⟨?_, within_of_refusal? h⟩
    rw [refusal?] at h
    split at h
    · cases h
    · next hoverlap => exact separated_of_overlap? hoverlap
  · rintro ⟨hsep, hwithin⟩
    rw [refusal?, overlap?_of_separated hsep]
    cases hlast : es.getLast? with
    | none => rfl
    | some e => exact if_neg (Nat.not_lt.mpr (hwithin e (List.mem_of_getLast? hlast)))

theorem apply_error_iff {t : Text} {edits : List Edit} :
    (∃ r, Edit.apply t edits = .error r) ↔
      Overlaps (sorted edits) ∨ ∃ e ∈ edits, t.length < e.stop := by
  have hclear : refusal? t.length (sorted edits) = none ↔
      ¬ (Overlaps (sorted edits) ∨ ∃ e ∈ edits, t.length < e.stop) := by
    rw [refusal?_eq_none_iff, not_or, not_overlaps_iff]
    refine and_congr_right fun _ => ?_
    constructor
    · rintro hwithin ⟨e, he, hlt⟩
      exact absurd (hwithin e ((sorted_perm edits).mem_iff.mpr he)) (Nat.not_le.mpr hlt)
    · intro hnone e he
      exact Nat.not_lt.mp fun hlt => hnone ⟨e, (sorted_perm edits).mem_iff.mp he, hlt⟩
  rw [← not_iff_not, ← hclear]
  constructor
  · intro hnone
    cases hrefusal : refusal? t.length (sorted edits) with
    | none => rfl
    | some r => exact absurd ⟨r, by simp only [Edit.apply, hrefusal]⟩ hnone
  · rintro hrefusal ⟨r, happly⟩
    rw [apply_of_refusal? hrefusal] at happly
    cases happly

/-! ## What comes out -/

/-- The slices of a text from an offset on that the edits leave alone, with the replacements between
them. -/
def woven (t : Text) (offset : Nat) : List Edit → Text
  | [] => t.slice offset t.length
  | e :: more => t.slice offset e.start ++ e.replacement ++ woven t e.stop more

theorem splice_eq_woven {t : Text} : ∀ {es : List Edit} {offset : Nat}, Separated es →
    (∀ e ∈ es, offset ≤ e.start) → splice offset (t.drop offset) es = woven t offset es := by
  intro es
  induction es with
  | nil =>
      intro offset _ _
      rw [splice, woven, Text.slice, List.take_of_length_le (by rw [List.length_drop])]
  | cons e es ih =>
      intro offset hsep hstart
      obtain ⟨hlater, hsep⟩ := List.pairwise_cons.mp hsep
      have hoffset := hstart e List.mem_cons_self
      have hord := e.ordered
      have hrest : (t.drop offset).drop (e.stop - offset) = t.drop e.stop := by
        rw [List.drop_drop]
        congr 1
        omega
      rw [splice, woven, hrest, ih hsep hlater, Text.slice]

theorem getElem?_landing {t u : Text} {edits : List Edit} (h : Edit.apply t edits = .ok u)
    {o : Nat} (ho : o < t.length) (outside : Outside edits o (o + 1)) :
    u[landing edits o]? = t[o]? := by
  have hslice := slice_landing h (Nat.le_succ o) ho outside
  have hone : o + 1 - o = 1 := by omega
  have hfirst : ∀ (v : Text) (i : Nat), v[i]? = (v.slice i (i + 1))[0]? := by
    intro v i
    rw [Text.slice, Nat.add_sub_cancel_left, List.getElem?_take_of_lt Nat.one_pos,
      List.getElem?_drop, Nat.add_zero]
  rw [hone] at hslice
  rw [hfirst, hslice, ← hfirst]

/-- Applied edits replace their ranges all at once. There is one order of the edits, by their ranges
and then as they were listed. They are refused exactly if one of them starts before an earlier one
has ended in that order, or one ends past the text; otherwise what comes out is the slices of the
text that they leave alone with their replacements between them. So each character outside of the
ranges is kept, moved by what the edits before it put in and take out; and lists with the same
edits for each range, in the same order, do the same. -/
theorem apply_simultaneous (t : Text) (edits : List Edit) :
    ∃ es, InOrder edits es ∧ (∀ es', InOrder edits es' → es' = es) ∧
      ((∃ r, Edit.apply t edits = .error r) ↔
        Overlaps es ∨ ∃ e ∈ edits, t.length < e.stop) ∧
      (¬ (Overlaps es ∨ ∃ e ∈ edits, t.length < e.stop) →
        Edit.apply t edits = .ok (woven t 0 es) ∧
        ∀ o < t.length, Outside edits o (o + 1) → (woven t 0 es)[landing edits o]? = t[o]?) ∧
      ∀ listed, SameRanges edits listed → Edit.apply t listed = Edit.apply t edits := by
  refine ⟨sorted edits, inOrder_sorted edits, fun es h => h.eq_sorted, apply_error_iff, ?_, ?_⟩
  · intro haccepted
    cases happly : Edit.apply t edits with
    | error r => exact absurd (apply_error_iff.mp ⟨r, happly⟩) haccepted
    | ok u =>
        obtain ⟨hsep, hsplice⟩ := apply_ok happly
        have hwoven : u = woven t 0 (sorted edits) := by
          rw [hsplice, ← splice_eq_woven hsep fun e _ => Nat.zero_le e.start, List.drop_zero]
        rw [← hwoven]
        exact ⟨rfl, fun o ho outside => getElem?_landing happly ho outside⟩
  · intro listed hsame
    rw [Edit.apply, Edit.apply, hsame.sorted_eq]

end Edit

end Readiness
