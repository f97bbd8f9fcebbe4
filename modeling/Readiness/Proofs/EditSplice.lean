import Readiness.Edit.Basic

/-!
# Edits that are made one after the other

Edits are made from the last one to the first, each in the text that those
behind it have left. Edits that apply are separated, so what one of them finds
in its range is what stood there from the start, and all of them together come
to one pass over the text from left to right. That pass, `splice`, is what the
theorems about edits are proved of: its recursion is on the edits in the order
of their ranges, and it never looks at a text that was changed before.
-/

namespace Readiness

namespace Edit

/-- None of the edits starts before an earlier one has ended. -/
def Separated (es : List Edit) : Prop := es.Pairwise fun a b => a.stop ≤ b.start

theorem separated_of_overlap? : ∀ {es : List Edit}, overlap? es = none → Separated es := by
  intro es
  induction es with
  | nil => intro _; exact .nil
  | cons a es ih =>
      intro h
      cases es with
      | nil => exact List.pairwise_singleton _ _
      | cons b more =>
          rw [overlap?] at h
          split at h
          · cases h
          · next hab =>
              have hmore := ih h
              refine List.pairwise_cons.mpr ⟨?_, hmore⟩
              intro c hc
              have hb := b.ordered
              rcases List.mem_cons.mp hc with rfl | hc
              · omega
              · have hbc := List.rel_of_pairwise_cons hmore hc
                omega

/-- Every edit of a list ends in the text. -/
def Within (t : Text) (es : List Edit) : Prop := ∀ e ∈ es, e.stop ≤ t.length

theorem within_of_refusal? {es : List Edit} {t : Text} (h : refusal? t.length es = none) :
    Within t es := by
  rw [refusal?] at h
  split at h
  · cases h
  · next hoverlap =>
      have hsep := separated_of_overlap? hoverlap
      intro e he
      obtain ⟨front, last, rfl⟩ : ∃ front last, es = front ++ [last] :=
        ⟨_, _, (List.dropLast_concat_getLast (List.ne_nil_of_mem he)).symm⟩
      rw [List.getLast?_append, List.getLast?_singleton, Option.some_or] at h
      simp only at h
      split at h
      · cases h
      · next hlast =>
          rcases List.mem_append.mp he with hfront | hlast'
          · have hle := (List.pairwise_append.mp hsep).2.2 e hfront last (List.mem_singleton_self _)
            have := last.ordered
            omega
          · rw [List.mem_singleton.mp hlast']
            omega

/-! ## All edits in one pass -/

/-- The text that starts at the given offset with the sorted edits made in it, from left to
right: what lies before the next range is kept, the range gives way to its replacement. -/
def splice (offset : Nat) (t : Text) : List Edit → Text
  | [] => t
  | e :: more =>
    t.take (e.start - offset) ++ e.replacement ++ splice e.stop (t.drop (e.stop - offset)) more

/-- A part of a text in front of all edits is in front of their splice. -/
theorem splice_behind {base o : Nat} (hbase : base ≤ o) (t : Text) :
    ∀ {es : List Edit}, (∀ e ∈ es, o ≤ e.start) →
      splice base t es = t.take (o - base) ++ splice o (t.drop (o - base)) es := by
  intro es hes
  cases es with
  | nil => exact (List.take_append_drop _ _).symm
  | cons e es =>
      have ho := hes e List.mem_cons_self
      have hord := e.ordered
      have hfront : t.take (e.start - base) =
          t.take (o - base) ++ (t.drop (o - base)).take (e.start - o) := by
        rw [← List.take_add]
        congr 1
        omega
      have hrest : t.drop (e.stop - base) = (t.drop (o - base)).drop (e.stop - o) := by
        rw [List.drop_drop]
        congr 1
        omega
      rw [splice, splice, hfront, hrest]
      simp only [List.append_assoc]

/-- Separated edits that are made one after the other, the last one first, come to one pass from
left to right. The edits made before one lie behind it, so its range still holds what it held, and
what stands behind the range is their splice. -/
theorem foldr_replaceIn {t : Text} : ∀ {es : List Edit}, Separated es → Within t es →
    es.foldr replaceIn t = splice 0 t es := by
  intro es
  induction es with
  | nil => intro _ _; rfl
  | cons e es ih =>
      intro hsep hwithin
      obtain ⟨hlater, hsep⟩ := List.pairwise_cons.mp hsep
      have hstop : e.stop ≤ t.length := hwithin e List.mem_cons_self
      have hord := e.ordered
      have hmade := ih hsep fun d hd => hwithin d (List.mem_cons_of_mem e hd)
      rw [splice_behind (Nat.zero_le e.stop) t hlater, Nat.sub_zero] at hmade
      have hlength : (t.take e.stop).length = e.stop := by
        rw [List.length_take, Nat.min_eq_left hstop]
      have hfront : (t.take e.stop ++ splice e.stop (t.drop e.stop) es).take e.start =
          t.take e.start := by
        rw [List.take_append_of_le_length (by omega), List.take_take, Nat.min_eq_left hord]
      have hrest : (t.take e.stop ++ splice e.stop (t.drop e.stop) es).drop e.stop =
          splice e.stop (t.drop e.stop) es := List.drop_left' hlength
      rw [List.foldr_cons, hmade, replaceIn, hfront, hrest, splice, Nat.sub_zero, Nat.sub_zero]

theorem apply_of_refusal? {t : Text} {edits : List Edit}
    (h : refusal? t.length (sorted edits) = none) :
    Edit.apply t edits = .ok (splice 0 t (sorted edits)) := by
  have hsep : Separated (sorted edits) := by
    rw [refusal?] at h
    split at h
    · cases h
    · next ho => exact separated_of_overlap? ho
  rw [Edit.apply, ← foldr_replaceIn hsep (within_of_refusal? h)]
  simp only [h]

/-- What it takes for edits to be applied, and what comes of them. -/
theorem apply_ok {t u : Text} {edits : List Edit} (h : Edit.apply t edits = .ok u) :
    Separated (sorted edits) ∧ u = splice 0 t (sorted edits) := by
  have hnone : refusal? t.length (sorted edits) = none := by
    simp only [Edit.apply] at h
    split at h
    · cases h
    · next hr => exact hr
  rw [apply_of_refusal? hnone] at h
  refine ⟨?_, (Except.ok.inj h).symm⟩
  rw [refusal?] at hnone
  split at hnone
  · cases hnone
  · next ho => exact separated_of_overlap? ho

theorem sorted_perm (edits : List Edit) : (sorted edits).Perm edits := List.mergeSort_perm _ _

theorem apply_nil (t : Text) : Edit.apply t [] = .ok t := by
  rw [Edit.apply, sorted, List.mergeSort_nil]
  rfl

end Edit

end Readiness
