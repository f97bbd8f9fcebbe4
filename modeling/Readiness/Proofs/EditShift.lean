import Mathlib.Algebra.BigOperators.Group.List.Basic
import Mathlib.Algebra.GroupWithZero.Nat
import Mathlib.Algebra.Ring.Int.Defs
import Readiness.Edit.Shift
import Readiness.Proofs.EditSplice

/-!
# Edits that apply never move a line off the text

A shift may be negative, and a line is moved by the sum of the shifts of all
edits that end above it. What keeps the sum from reaching past the first line
is that the edits were accepted: accepted edits are separated, separated edits
take out different line feeds, and all of those stand above the line. So no
more of them are taken out than the line has above it.

The argument runs over the edits in the order of their ranges, while shifts are
noted in the order in which the edits were proposed. A sum does not care.
-/

namespace Readiness

/-! ## Line feeds before an offset -/

theorem lineFeeds_append (t u : Text) : lineFeeds (t ++ u) = lineFeeds t + lineFeeds u :=
  List.count_append

theorem lineFeeds_take_add_slice (t : Text) {a b : Nat} (h : a ≤ b) :
    lineFeeds (t.take a) + lineFeeds (t.slice a b) = lineFeeds (t.take b) := by
  rw [Text.slice, ← lineFeeds_append, ← List.take_add, Nat.add_sub_cancel' h]

theorem lineFeeds_take_le (t : Text) {a b : Nat} (h : a ≤ b) :
    lineFeeds (t.take a) ≤ lineFeeds (t.take b) := by
  rw [← lineFeeds_take_add_slice t h]
  exact Nat.le_add_right _ _

namespace LineShift

/-- How many line feeds an edit of a text takes out. -/
def removed (t : Text) (e : Edit) : Nat := lineFeeds (t.slice e.start e.stop)

/-- How many more line feeds an edit of a text puts in than it takes out. -/
def gained (t : Text) (e : Edit) : Int := lineFeeds e.replacement - (removed t e : Int)

/-- Whether an edit of a text moves a line: it ends on a line above. -/
def endsAbove (t : Text) (line : Int) (e : Edit) : Bool :=
  decide (((lineFeeds (t.take e.stop) + 1 : Nat) : Int) < line)

theorem move_nil (line : Int) : move [] line = line := Int.add_zero line

theorem move_cons (s : LineShift) (shifts : List LineShift) (line : Int) :
    move (s :: shifts) line =
      (if (s.afterLine : Int) < line then s.delta else 0) + move shifts line := by
  simp only [move, List.filter_cons, decide_eq_true_eq]
  split
  · rw [List.map_cons, List.foldr_cons]
    omega
  · rw [zero_add]

/-- Edits that leave the number of lines alone have no shift of their own, and
count for nothing in the sum either. -/
theorem move_ofEdits (t : Text) (edits : List Edit) (line : Int) :
    move (ofEdits t edits) line =
      line + ((edits.filter (endsAbove t line)).map (gained t)).sum := by
  induction edits with
  | nil => exact (move_nil line).trans (Int.add_zero line).symm
  | cons e edits ih =>
      rw [ofEdits] at ih ⊢
      have hhead : move ((e :: edits).filterMap (ofEdit? t)) line =
          (if endsAbove t line e then gained t e else 0) +
            move (edits.filterMap (ofEdit? t)) line := by
        by_cases hd : gained t e = 0
        · have hnone : ofEdit? t e = none := if_pos hd
          rw [List.filterMap_cons_none hnone, hd, ite_self, zero_add]
        · have hsome : ofEdit? t e = some ⟨lineFeeds (t.take e.stop) + 1, gained t e⟩ :=
            if_neg hd
          rw [List.filterMap_cons_some hsome, move_cons]
          simp only [endsAbove, decide_eq_true_eq]
      rw [hhead, ih]
      by_cases ha : endsAbove t line e = true
      · rw [if_pos ha, List.filter_cons_of_pos ha, List.map_cons, List.sum_cons]
        omega
      · rw [if_neg ha, List.filter_cons_of_neg ha, zero_add]

/-- Separated edits take out different line feeds. All of them stand before the
last of the edits' ends, and none before the first start. -/
theorem removed_sum_le {t : Text} {bound : Nat} :
    ∀ {es : List Edit} {offset : Nat}, Edit.Separated es → (∀ e ∈ es, offset ≤ e.start) →
      (∀ e ∈ es, lineFeeds (t.take e.stop) ≤ bound) → lineFeeds (t.take offset) ≤ bound →
      lineFeeds (t.take offset) + (es.map (removed t)).sum ≤ bound := by
  intro es
  induction es with
  | nil => intro offset _ _ _ h; exact h
  | cons e es ih =>
      intro offset hsep hfrom hto _
      obtain ⟨hlater, hsep⟩ := List.pairwise_cons.mp hsep
      have hstart : lineFeeds (t.take offset) ≤ lineFeeds (t.take e.start) :=
        lineFeeds_take_le t (hfrom e List.mem_cons_self)
      have hstop : lineFeeds (t.take e.start) + removed t e = lineFeeds (t.take e.stop) :=
        lineFeeds_take_add_slice t e.ordered
      have hrest : lineFeeds (t.take e.stop) + (es.map (removed t)).sum ≤ bound :=
        ih hsep hlater (fun d hd => hto d (List.mem_cons_of_mem _ hd))
          (hto e List.mem_cons_self)
      rw [List.map_cons, List.sum_cons]
      omega

theorem neg_removed_sum_le (t : Text) (es : List Edit) :
    -((es.map (removed t)).sum : Int) ≤ (es.map (gained t)).sum := by
  induction es with
  | nil => simp
  | cons e es ih =>
      rw [List.map_cons, List.map_cons, List.sum_cons, List.sum_cons, gained]
      omega

theorem one_le_move {t u : Text} {edits : List Edit} (h : Edit.apply t edits = .ok u) {line : Int}
    (hline : 1 ≤ line) : 1 ≤ move (ofEdits t edits) line := by
  obtain ⟨hsep, -⟩ := Edit.apply_ok h
  let above := (Edit.sorted edits).filter (endsAbove t line)
  have hperm : above.Perm (edits.filter (endsAbove t line)) :=
    (Edit.sorted_perm edits).filter _
  have hbound : (above.map (removed t)).sum ≤ line.toNat - 1 := by
    have hto : ∀ e ∈ above, lineFeeds (t.take e.stop) ≤ line.toNat - 1 := by
      intro e he
      have ha := (List.mem_filter.mp he).2
      rw [endsAbove, decide_eq_true_iff] at ha
      omega
    have hsum : lineFeeds (t.take 0) + (above.map (removed t)).sum ≤ line.toNat - 1 :=
      removed_sum_le (hsep.filter _) (fun e _ => Nat.zero_le _) hto (Nat.zero_le _)
    omega
  have hgain := neg_removed_sum_le t above
  rw [move_ofEdits, ← (hperm.map (gained t)).sum_eq]
  omega

/-- The line that stands for the file as a whole stays where it is. -/
theorem move_zero (shifts : List LineShift) : move shifts 0 = 0 := by
  have hnone : shifts.filter (fun s => decide ((s.afterLine : Int) < 0)) = [] := by
    rw [List.filter_eq_nil_iff]
    intro s _
    rw [decide_eq_true_iff]
    omega
  rw [move, hnone]
  rfl

end LineShift

end Readiness
