import Mathlib.Algebra.BigOperators.Group.List.Basic
import Mathlib.Algebra.GroupWithZero.Nat
import Mathlib.Algebra.Ring.Int.Defs
import Readiness.Proofs.EditShift

/-!
# Where the text outside of the edits goes

Applied edits keep what lies outside of their ranges, but at other offsets: an
offset moves by what the edits before it put in and take out. The whole
argument is one cut. An offset that no edit reaches across cuts the edits in
two, those that end before it and those that start behind it, and it cuts the
splice in two with them (`splice_cut`). What is asked of the part in front, how
long it is or how many line feeds stand in it, is then a count, and all counts
of a splice are alike (`countP_splice`).

The ranges of the edits refer to the text as it was, so the part in front is
the splice of the old text up to the offset with the edits in front, and those
alone decide where the offset goes.
-/

namespace Readiness

namespace Edit

/-- No edit reaches across the offset. -/
def Clear (es : List Edit) (o : Nat) : Prop := ∀ e ∈ es, e.stop ≤ o ∨ o ≤ e.start

/-- The range from `a` up to `b` lies outside of the edits: each of them ends before it or starts
behind it. -/
def Outside (es : List Edit) (a b : Nat) : Prop := ∀ e ∈ es, e.stop ≤ a ∨ b ≤ e.start

/-- The edits that end at or before an offset. -/
def before (es : List Edit) (o : Nat) : List Edit := es.filter fun e => decide (e.stop ≤ o)

/-- The edits that do not. -/
def behind (es : List Edit) (o : Nat) : List Edit := es.filter fun e => !decide (e.stop ≤ o)

/-- How many more of the characters in question an edit of a text puts in than it takes out. -/
def gain (p : CodePoint → Bool) (t : Text) (e : Edit) : Int :=
  e.replacement.countP p - ((t.slice e.start e.stop).countP p : Int)

/-- How many more characters an edit puts in than it takes out. -/
def growth (e : Edit) : Int := e.replacement.length - ((e.stop - e.start : Nat) : Int)

/-- Where an offset goes that no edit reaches across. -/
def landing (es : List Edit) (o : Nat) : Nat :=
  ((o : Int) + ((before es o).map growth).sum).toNat

theorem Outside.clear {es : List Edit} {a b : Nat} (h : Outside es a b) (hab : a ≤ b) :
    Clear es a := by
  intro e he
  rcases h e he with hstop | hstart
  · exact .inl hstop
  · exact .inr (Nat.le_trans hab hstart)

theorem ofRange_ok {start stop : Nat} {replacement : Text} {e : Edit}
    (h : ofRange start stop replacement = .ok e) :
    e.start = start ∧ e.stop = stop ∧ e.replacement = replacement := by
  rw [ofRange] at h
  split at h
  · cases h
    exact ⟨rfl, rfl, rfl⟩
  · cases h

theorem mem_before {es : List Edit} {o : Nat} {e : Edit} :
    e ∈ before es o ↔ e ∈ es ∧ e.stop ≤ o := by
  rw [before, List.mem_filter, decide_eq_true_iff]

theorem mem_behind {es : List Edit} {o : Nat} {e : Edit} :
    e ∈ behind es o ↔ e ∈ es ∧ ¬ e.stop ≤ o := by
  simp only [behind, List.mem_filter, Bool.not_eq_true', decide_eq_false_iff_not]

/-- An offset stays where it is when all edits end behind it. -/
theorem landing_of_behind {es : List Edit} {o : Nat} (h : ∀ e ∈ es, o < e.stop) :
    landing es o = o := by
  have hnone : before es o = [] :=
    List.filter_eq_nil_iff.mpr fun e he => by
      rw [decide_eq_true_iff]
      exact Nat.not_le.mpr (h e he)
  rw [landing, hnone]
  rfl

/-- Separated edits come in the order of their ends, so those before an offset
come first. -/
theorem before_append_behind {es : List Edit} (hsep : Separated es) (o : Nat) :
    before es o ++ behind es o = es := by
  induction es with
  | nil => rfl
  | cons e es ih =>
      obtain ⟨hlater, hsep⟩ := List.pairwise_cons.mp hsep
      by_cases he : e.stop ≤ o
      · have hbefore : before (e :: es) o = e :: before es o :=
          List.filter_cons_of_pos (decide_eq_true he)
        have hbehind : behind (e :: es) o = behind es o :=
          List.filter_cons_of_neg (by simp only [he, decide_true, Bool.not_true,
            Bool.false_eq_true, not_false_iff])
        rw [hbefore, hbehind, List.cons_append, ih hsep]
      · have hnone : before (e :: es) o = [] := by
          rw [before, List.filter_eq_nil_iff]
          intro d hd
          rw [decide_eq_true_iff]
          rcases List.mem_cons.mp hd with rfl | hd
          · exact he
          · have := hlater d hd
            have := d.ordered
            omega
        have hall : behind (e :: es) o = e :: es := by
          rw [behind, List.filter_eq_self]
          intro d hd
          have hd' : d ∉ before (e :: es) o := by rw [hnone]; exact List.not_mem_nil
          rw [mem_before, not_and] at hd'
          simp only [hd' hd, decide_false, Bool.not_false]
        rw [hnone, hall, List.nil_append]

/-! ## The cut -/

/-- An offset behind the first edits and in front of the others cuts the splice in two. -/
theorem splice_append {o : Nat} {ds : List Edit} (hds : ∀ d ∈ ds, o ≤ d.start) :
    ∀ {es : List Edit} {base : Nat} (t : Text), base ≤ o → Separated es →
      (∀ e ∈ es, base ≤ e.start ∧ e.stop ≤ o) →
      splice base t (es ++ ds) =
        splice base (t.take (o - base)) es ++ splice o (t.drop (o - base)) ds := by
  intro es
  induction es with
  | nil =>
      intro base t hbase _ _
      exact splice_behind hbase t hds
  | cons e es ih =>
      intro base t hbase hsep hes
      obtain ⟨hlater, hsep⟩ := List.pairwise_cons.mp hsep
      obtain ⟨hstart, hstop⟩ := hes e List.mem_cons_self
      have hord := e.ordered
      have hfront : (t.take (o - base)).take (e.start - base) = t.take (e.start - base) := by
        rw [List.take_take, Nat.min_eq_left (by omega)]
      have hmiddle : (t.drop (e.stop - base)).take (o - e.stop) =
          (t.take (o - base)).drop (e.stop - base) := by
        rw [List.drop_take]
        congr 1
        omega
      have hrest : (t.drop (e.stop - base)).drop (o - e.stop) = t.drop (o - base) := by
        rw [List.drop_drop]
        congr 1
        omega
      have hsplice := ih (t.drop (e.stop - base)) hstop hsep fun d hd =>
        ⟨hlater d hd, (hes d (List.mem_cons_of_mem e hd)).2⟩
      rw [hmiddle, hrest] at hsplice
      rw [List.cons_append, splice, splice, hsplice, hfront]
      simp only [List.append_assoc]

theorem within_of_apply {t u : Text} {edits : List Edit} (h : Edit.apply t edits = .ok u) :
    Within t (sorted edits) := by
  simp only [Edit.apply] at h
  split at h
  · cases h
  · next hr => exact within_of_refusal? hr

theorem apply_singleton {t u : Text} {e : Edit} (h : Edit.apply t [e] = .ok u) :
    e.stop ≤ t.length ∧ u = t.take e.start ++ (e.replacement ++ t.drop e.stop) := by
  have hsorted : sorted [e] = [e] := List.mergeSort_singleton e
  have hwithin := within_of_apply h
  obtain ⟨-, hu⟩ := apply_ok h
  rw [hsorted] at hwithin hu
  refine ⟨hwithin e (List.mem_singleton_self e), ?_⟩
  rw [hu, splice, splice, Nat.sub_zero, Nat.sub_zero, List.append_assoc]

/-! ## Counts -/

theorem countP_take_add_slice (p : CodePoint → Bool) (t : Text) {a b : Nat} (h : a ≤ b) :
    (t.take a).countP p + (t.slice a b).countP p = (t.take b).countP p := by
  rw [Text.slice, ← List.countP_append, ← List.take_add, Nat.add_sub_cancel' h]

/-- How much of something a splice holds: as much as the text did, and what each
edit gains. -/
theorem countP_splice (p : CodePoint → Bool) (whole : Text) :
    ∀ {es : List Edit} {base stop : Nat}, base ≤ stop → Separated es →
      (∀ e ∈ es, base ≤ e.start ∧ e.stop ≤ stop) →
      ((splice base (whole.slice base stop) es).countP p : Int) =
        (whole.slice base stop).countP p + (es.map (gain p whole)).sum := by
  intro es
  induction es with
  | nil =>
      intro base stop _ _ _
      rw [splice, List.map_nil, List.sum_nil, add_zero]
  | cons e es ih =>
      intro base stop hbase hsep hes
      obtain ⟨hlater, hsep⟩ := List.pairwise_cons.mp hsep
      obtain ⟨hstart, hstop⟩ := hes e List.mem_cons_self
      have hord := e.ordered
      have hfront : (whole.slice base stop).take (e.start - base) = whole.slice base e.start := by
        rw [Text.slice, Text.slice, List.take_take, Nat.min_eq_left (by omega)]
      have hrest : (whole.slice base stop).drop (e.stop - base) = whole.slice e.stop stop := by
        have hlength : stop - base - (e.stop - base) = stop - e.stop := by omega
        have hoffset : base + (e.stop - base) = e.stop := by omega
        rw [Text.slice, Text.slice, List.drop_take, List.drop_drop, hlength, hoffset]
      have hsplice := ih hstop hsep fun d hd =>
        ⟨hlater d hd, (hes d (List.mem_cons_of_mem e hd)).2⟩
      have hbaseStart := countP_take_add_slice p whole hstart
      have hstartStop := countP_take_add_slice p whole hord
      have hstopEnd := countP_take_add_slice p whole hstop
      have hbaseEnd := countP_take_add_slice p whole hbase
      rw [splice, hfront, hrest, List.countP_append, List.countP_append, List.map_cons,
        List.sum_cons, gain]
      omega

/-- The edits before an offset, and the splice of the text up to there with them. -/
theorem apply_cut {t u : Text} {edits : List Edit} (h : Edit.apply t edits = .ok u) {o : Nat}
    (clear : Clear edits o) :
    u = splice 0 (t.take o) (before (sorted edits) o) ++
      splice o (t.drop o) (behind (sorted edits) o) := by
  obtain ⟨hsep, rfl⟩ := apply_ok h
  have hsorted : Separated (before (sorted edits) o ++ behind (sorted edits) o) := by
    rw [before_append_behind hsep]
    exact hsep
  have hbehind : ∀ d ∈ behind (sorted edits) o, o ≤ d.start := by
    intro d hd
    obtain ⟨hmem, hnot⟩ := mem_behind.mp hd
    rcases clear d ((sorted_perm edits).mem_iff.mp hmem) with hstop | hstart
    · exact absurd hstop hnot
    · exact hstart
  have hbefore : ∀ e ∈ before (sorted edits) o, 0 ≤ e.start ∧ e.stop ≤ o := fun e he =>
    ⟨Nat.zero_le _, (mem_before.mp he).2⟩
  have hcut := splice_append hbehind t (Nat.zero_le o) (List.pairwise_append.mp hsorted).1 hbefore
  rwa [before_append_behind hsep, Nat.sub_zero] at hcut

theorem sum_before_sorted (f : Edit → Int) (edits : List Edit) (o : Nat) :
    ((before (sorted edits) o).map f).sum = ((before edits o).map f).sum :=
  (((sorted_perm edits).filter _).map f).sum_eq

/-- What stands before a landing: what stood before the offset, and what the
edits before it gain. -/
theorem countP_cut (p : CodePoint → Bool) {t u : Text} {edits : List Edit}
    (h : Edit.apply t edits = .ok u) (o : Nat) :
    ((splice 0 (t.take o) (before (sorted edits) o)).countP p : Int) =
      (t.take o).countP p + ((before edits o).map (gain p t)).sum := by
  obtain ⟨hsep, -⟩ := apply_ok h
  have hbefore : Separated (before (sorted edits) o) := hsep.filter _
  have hslice : t.take o = t.slice 0 o := by rw [Text.slice, List.drop_zero, Nat.sub_zero]
  rw [hslice, countP_splice p t (Nat.zero_le o) hbefore
    fun e he => ⟨Nat.zero_le _, (mem_before.mp he).2⟩, sum_before_sorted]

theorem gain_true {t : Text} {e : Edit} (h : e.stop ≤ t.length) :
    gain (fun _ => true) t e = growth e := by
  have hord := e.ordered
  have hlength : (t.slice e.start e.stop).length = e.stop - e.start := by
    rw [Text.slice, List.length_take, List.length_drop]
    omega
  simp only [gain, growth, List.countP_true, hlength]

theorem length_cut {t u : Text} {edits : List Edit} (h : Edit.apply t edits = .ok u) {o : Nat}
    (ho : o ≤ t.length) :
    (splice 0 (t.take o) (before (sorted edits) o)).length = landing edits o := by
  have hwithin := within_of_apply h
  have hcount := countP_cut (fun _ => true) h o
  have hgrowth : (before edits o).map (gain (fun _ => true) t) = (before edits o).map growth :=
    List.map_congr_left fun e he =>
      gain_true (hwithin e ((sorted_perm edits).mem_iff.mpr (mem_before.mp he).1))
  rw [hgrowth] at hcount
  simp only [List.countP_true, List.length_take, Nat.min_eq_left ho] at hcount
  rw [landing, ← hcount]
  rfl

/-! ## What lies outside of the edits -/

theorem countP_take_landing (p : CodePoint → Bool) {t u : Text} {edits : List Edit}
    (h : Edit.apply t edits = .ok u) {o : Nat} (ho : o ≤ t.length) (clear : Clear edits o) :
    ((u.take (landing edits o)).countP p : Int) =
      (t.take o).countP p + ((before edits o).map (gain p t)).sum := by
  have hcut := apply_cut h clear
  rw [← length_cut h ho, ← countP_cut p h o]
  conv_lhs => rw [hcut, List.take_left]

/-- What lies outside of the edits is kept, at its landing. -/
theorem slice_landing {t u : Text} {edits : List Edit} (h : Edit.apply t edits = .ok u)
    {a b : Nat} (hab : a ≤ b) (hb : b ≤ t.length) (outside : Outside edits a b) :
    u.slice (landing edits a) (landing edits a + (b - a)) = t.slice a b := by
  have hcut := apply_cut h (outside.clear hab)
  have hbehind : ∀ d ∈ behind (sorted edits) a, b ≤ d.start := by
    intro d hd
    obtain ⟨hmem, hnot⟩ := mem_behind.mp hd
    rcases outside d ((sorted_perm edits).mem_iff.mp hmem) with hstop | hstart
    · exact absurd hstop hnot
    · exact hstart
  have hlength : (t.slice a b).length = b - a := by
    rw [Text.slice, List.length_take, List.length_drop]
    omega
  rw [splice_behind hab (t.drop a) hbehind] at hcut
  rw [Text.slice, Nat.add_sub_cancel_left, ← length_cut h (Nat.le_trans hab hb)]
  conv_lhs => rw [hcut, List.drop_left]
  exact List.take_left' hlength

end Edit

theorem lineFeeds_take_landing {t u : Text} {edits : List Edit} (h : Edit.apply t edits = .ok u)
    {o : Nat} (ho : o ≤ t.length) (clear : Edit.Clear edits o) :
    (lineFeeds (u.take (Edit.landing edits o)) : Int) =
      lineFeeds (t.take o) + ((Edit.before edits o).map (LineShift.gained t)).sum :=
  Edit.countP_take_landing _ h ho clear

end Readiness
