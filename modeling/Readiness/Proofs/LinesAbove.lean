import Readiness.Proofs.IssueDrift
import Readiness.Script.LineTable

/-!
# Lines above the edits

Repairs go from the bottom up, so that what is still to come stands where it stood. That
is so of the text: what is in front of all edits is kept, and the number of its line
with it. An offset between a carriage return and its line feed is the one exception:
the two are one line break, and an edit there can part them or join them.

It is not so of the noted lines. Scripts break lines at more characters than line feeds,
and the shifts know of line feeds only. A line break without a line feed lets a line have
a greater number than its line feeds give it, and an edit further down can seem to end
above it. Where each break has its line feed, the two numberings agree and the line stays.
-/

namespace Readiness

namespace Script

/-- Whether an offset lies inside of a line break, between a carriage return and its line feed. -/
def insideBreak (t : Text) : Nat → Bool
  | 0 => false
  | o + 1 => t[o]? == some (.char '\r') && t[o + 1]? == some (.char '\n')

/-- Whether a line break ends with the character at an offset. -/
def endsBreak (t : Text) (o : Nat) : Bool := t[o]?.any isLineBreak && !insideBreak t (o + 1)

/-- Each line break in front of an offset has a line feed: it is one, or a carriage return with
one behind it. -/
def FedTo (t : Text) (p : Nat) : Prop :=
  ∀ o < p, t[o]?.any isLineBreak = true → t[o]? = some (.char '\n') ∨ insideBreak t (o + 1) = true

/-! ## The number of a line, character by character -/

theorem lt_of_mem_breakEnds {t : Text} {i x : Nat} (h : x ∈ breakEnds i t) : i < x := by
  fun_induction breakEnds i t with
  | case1 => cases h
  | case2 i r ih =>
      rcases List.mem_cons.mp h with rfl | h
      · omega
      · exact Nat.lt_of_le_of_lt (Nat.le_add_right i 2) (ih h)
  | case3 i c r _ _ ih =>
      rcases List.mem_cons.mp h with rfl | h
      · omega
      · exact Nat.lt_of_succ_lt (ih h)
  | case4 i c r _ _ ih => exact Nat.lt_of_succ_lt (ih h)

theorem countP_breakEnds_of_le {t : Text} {i p : Nat} (h : p ≤ i) :
    (breakEnds i t).countP (· ≤ p) = 0 :=
  List.countP_eq_zero.mpr fun x hx => by
    have := lt_of_mem_breakEnds hx
    simp only [decide_eq_true_eq]
    omega

theorem countP_range_succ (c : CodePoint) (r : Text) (p : Nat) :
    (List.range (p + 1)).countP (endsBreak (c :: r)) =
      (List.range p).countP (endsBreak r) + (endsBreak (c :: r) 0).toNat := by
  have hrest : (endsBreak (c :: r) ∘ Nat.succ) = endsBreak r := by
    funext o
    cases o <;> rfl
  rw [List.range_succ_eq_map, List.countP_cons, List.countP_map, hrest]
  cases endsBreak (c :: r) 0 <;> rfl

theorem endsBreak_zero {c : CodePoint} {r : Text}
    (notPair : ∀ s : Text, c = .char '\r' → r = .char '\n' :: s → False) :
    endsBreak (c :: r) 0 = isLineBreak c := by
  have hinside : insideBreak (c :: r) 1 = false := by
    refine Bool.eq_false_iff.mpr fun hpair => ?_
    rw [insideBreak, Bool.and_eq_true, beq_iff_eq, beq_iff_eq] at hpair
    obtain ⟨hreturn, hfeed⟩ := hpair
    cases r with
    | nil => cases hfeed
    | cons d s => exact notPair s (Option.some.inj hreturn) (congrArg (· :: s) (Option.some.inj hfeed))
  rw [endsBreak, hinside, Bool.not_false, Bool.and_true]
  rfl

/-- The line breaks that end at or before an offset, by the characters in front of it. -/
theorem countP_breakEnds (i : Nat) (t : Text) (p : Nat) :
    (breakEnds i t).countP (· ≤ i + p) = (List.range p).countP (endsBreak t) := by
  fun_induction breakEnds i t generalizing p with
  | case1 i => exact (List.countP_eq_zero.mpr fun o _ => Bool.false_ne_true).symm
  | case2 i r ih =>
      match p with
      | 0 | 1 =>
        rw [List.countP_cons_of_neg (by simp), countP_breakEnds_of_le (by omega)]
        rfl
      | p + 2 =>
        have hrest := ih p
        rw [Nat.add_right_comm, Nat.add_assoc] at hrest
        rw [List.countP_cons_of_pos (by simp), hrest, countP_range_succ, countP_range_succ]
        rfl
  | case3 i c r notPair hbreak ih =>
      match p with
      | 0 =>
        rw [List.countP_cons_of_neg (by simp), countP_breakEnds_of_le (by omega)]
        rfl
      | p + 1 =>
        have hrest := ih p
        have hends : endsBreak (c :: r) 0 = true := (endsBreak_zero notPair).trans hbreak
        rw [Nat.add_right_comm, Nat.add_assoc] at hrest
        rw [List.countP_cons_of_pos (by simp), hrest, countP_range_succ, hends]
        rfl
  | case4 i c r notPair hbreak ih =>
      match p with
      | 0 => exact countP_breakEnds_of_le (by omega)
      | p + 1 =>
        have hrest := ih p
        have hends : endsBreak (c :: r) 0 = false :=
          (endsBreak_zero notPair).trans (Bool.eq_false_iff.mpr hbreak)
        rw [Nat.add_right_comm, Nat.add_assoc] at hrest
        rw [hrest, countP_range_succ, hends]
        rfl

theorem lineOfOffset_eq (t : Text) (p : Nat) :
    lineOfOffset t p = (List.range p).countP (endsBreak t) + 1 := by
  have hcount := countP_breakEnds 0 t p
  rw [Nat.zero_add] at hcount
  rw [lineOfOffset, lineStarts, List.countP_cons_of_pos (by simp), hcount]

/-- Two texts with the same characters in front of an offset number its line alike, but for its being
inside of a line break. -/
theorem lineOfOffset_congr {t u : Text} {p : Nat} (h : ∀ o < p, u[o]? = t[o]?) :
    lineOfOffset u p + (insideBreak u p).toNat = lineOfOffset t p + (insideBreak t p).toNat := by
  cases p with
  | zero => rw [lineOfOffset_eq, lineOfOffset_eq]; rfl
  | succ p =>
      -- all characters but the last one have the one behind them in front of the offset too
      have hfront : (List.range p).countP (endsBreak u) = (List.range p).countP (endsBreak t) := by
        refine List.countP_congr fun o ho => ?_
        have hlt := List.mem_range.mp ho
        rw [endsBreak, endsBreak, insideBreak, insideBreak, h o (by omega), h (o + 1) (by omega)]
      have hlast : ∀ v : Text, (endsBreak v p).toNat + (insideBreak v (p + 1)).toNat =
          (v[p]?.any isLineBreak).toNat := by
        intro v
        rw [endsBreak]
        cases hinside : insideBreak v (p + 1) with
        | false => rw [Bool.not_false, Bool.and_true]; rfl
        | true =>
            rw [insideBreak, Bool.and_eq_true, beq_iff_eq] at hinside
            rw [hinside.1]
            rfl
      have hu := hlast u
      have ht := hlast t
      rw [h p (Nat.lt_succ_self p)] at hu
      have hcount : ∀ v : Text, lineOfOffset v (p + 1) =
          (List.range p).countP (endsBreak v) + (endsBreak v p).toNat + 1 := by
        intro v
        rw [lineOfOffset_eq, List.range_succ, List.countP_append, List.countP_singleton]
        cases endsBreak v p <;> rfl
      rw [hcount, hcount, hfront]
      omega

theorem lineAt_eq (t : Text) (p : Nat) :
    lineAt t p = (List.range p).countP (fun o => t[o]? == some (.char '\n')) + 1 := by
  refine congrArg (· + 1) ?_
  induction p with
  | zero => rfl
  | succ p ih =>
      rw [List.take_add_one, lineFeeds_append, ih, List.range_succ, List.countP_append,
        List.countP_singleton]
      cases t[p]? with
      | none => rfl
      | some c => exact congrArg _ (List.count_singleton ..)

/-- Where each line break has its line feed, the lines that end at line feeds have the same
numbers. -/
theorem lineOfOffset_of_fedTo {t : Text} {p : Nat} (h : FedTo t p) :
    lineOfOffset t p = lineAt t p := by
  rw [lineOfOffset_eq, lineAt_eq]
  refine congrArg (· + 1) (List.countP_congr fun o ho => ?_)
  rw [beq_iff_eq, endsBreak, Bool.and_eq_true, Bool.not_eq_true']
  constructor
  · rintro ⟨hbreak, houtside⟩
    rcases h o (List.mem_range.mp ho) hbreak with hfeed | hinside
    · exact hfeed
    · rw [houtside] at hinside
      cases hinside
  · intro hfeed
    rw [insideBreak, hfeed]
    exact ⟨rfl, rfl⟩

end Script

namespace Edit

/-- What is in front of all edits is kept. -/
theorem take_of_ahead {t u : Text} {edits : List Edit} (h : Edit.apply t edits = .ok u) {p : Nat}
    (inText : p ≤ t.length) (ahead : ∀ e ∈ edits, p ≤ e.start) : u.take p = t.take p := by
  obtain ⟨-, rfl⟩ := apply_ok h
  have hcut := splice_behind (Nat.zero_le p) t
    fun e he => ahead e ((sorted_perm edits).mem_iff.mp he)
  rw [Nat.sub_zero] at hcut
  rw [hcut, List.take_left' (List.length_take_of_le inText)]

end Edit

namespace LineShift

open Edit Script

/-- Edits never move what is in front of them, and move the noted line of it only where lines end
without line feeds. The number of an offset's line stays when all edits start at it or behind it,
unless the offset comes to lie inside of a line break or lay inside of one. The shifts leave that
number alone exactly if the edits that end on a line with fewer line feeds above it than the number
says gain no line feeds in all; where each line break in front of the offset has its line feed,
there are no such edits. -/
theorem line_ahead {t u : Text} {edits : List Edit} (h : Edit.apply t edits = .ok u)
    (nonempty : edits ≠ []) {p : Nat} (ahead : ∀ e ∈ edits, p ≤ e.start) :
    (lineOfOffset u p = lineOfOffset t p ↔ insideBreak u p = insideBreak t p) ∧
    (move (ofEdits t edits) (lineOfOffset t p) = lineOfOffset t p ↔
      ((edits.filter (endsAbove t (lineOfOffset t p))).map (gained t)).sum = 0) ∧
    (FedTo t p → edits.filter (endsAbove t (lineOfOffset t p)) = [] ∧
      move (ofEdits t edits) (lineOfOffset t p) = lineOfOffset t p) := by
  have hinText : p ≤ t.length := by
    obtain ⟨e, he⟩ := List.exists_mem_of_ne_nil edits nonempty
    have hstop := within_of_apply h e ((sorted_perm edits).mem_iff.mpr he)
    exact Nat.le_trans (ahead e he) (Nat.le_trans e.ordered hstop)
  refine ⟨?_, ?_, fun hfed => ?_⟩
  · have htake := take_of_ahead h hinText ahead
    have hfront : ∀ o < p, u[o]? = t[o]? := fun o ho => by
      rw [← List.getElem?_take_of_lt ho, htake, List.getElem?_take_of_lt ho]
    have hcongr := lineOfOffset_congr hfront
    constructor
    · intro hline
      rw [hline] at hcongr
      have hinside := Nat.add_left_cancel hcongr
      revert hinside
      cases insideBreak u p <;> cases insideBreak t p <;> decide
    · intro hinside
      rw [hinside] at hcongr
      exact Nat.add_right_cancel hcongr
  · rw [move_ofEdits]
    omega
  · have hnone : edits.filter (endsAbove t (lineOfOffset t p)) = [] := by
      refine List.filter_eq_nil_iff.mpr fun e he => ?_
      have hmono := lineAt_mono t (Nat.le_trans (ahead e he) e.ordered)
      rw [lineOfOffset_of_fedTo hfed, endsAbove, decide_eq_true_iff]
      rw [lineAt, lineAt] at hmono
      rw [lineAt]
      omega
    refine ⟨hnone, ?_⟩
    rw [move_ofEdits, hnone]
    exact add_zero _

/-! Two texts that are edited behind their first lines. In the first one each break has its line feed,
and the edit takes a line out. In the second one the breaks are carriage returns, a chain stands
behind them, and the edit repairs a query that is built over three lines. -/

namespace Ahead

def fed : Text := "\r\na\r\n\nb\nc"

def fedEdits : List Edit := [⟨7, 9, "x", by decide⟩]

def fedEdited : Text := "\r\na\r\n\nbx"

theorem apply_fedEdits : Edit.apply fed fedEdits = .ok fedEdited := by
  rw [Edit.apply, fedEdits, Edit.sorted, List.mergeSort_singleton]
  rfl

def text : Text := "\r\r\r\rp.then(f);run(\"a\"+\n\nb)"

def edits : List Edit := [⟨18, 25, "\"a?\", [b]", by decide⟩]

def edited : Text := "\r\r\r\rp.then(f);run(\"a?\", [b])"

theorem apply_edits : Edit.apply text edits = .ok edited := by
  rw [Edit.apply, edits, Edit.sorted, List.mergeSort_singleton]
  rfl

end Ahead

theorem line_ahead_sample :
    (∀ e ∈ Ahead.fedEdits, 6 ≤ e.start) ∧ FedTo Ahead.fed 6 ∧ lineOfOffset Ahead.fed 6 = 4 ∧
      lineOfOffset Ahead.fedEdited 6 = 4 ∧ move (ofEdits Ahead.fed Ahead.fedEdits) 4 = 4 := by
  have hahead : ∀ e ∈ Ahead.fedEdits, 6 ≤ e.start := by decide
  have hfed : FedTo Ahead.fed 6 := by
    unfold FedTo
    decide
  have hline : lineOfOffset Ahead.fed 6 = 4 := rfl
  obtain ⟨hkept, -, hmoved⟩ :=
    line_ahead Ahead.apply_fedEdits (List.cons_ne_nil _ _) hahead
  have hinside : insideBreak Ahead.fedEdited 6 = insideBreak Ahead.fed 6 := rfl
  have hmove := (hmoved hfed).2
  rw [hline] at hmove
  exact ⟨hahead, hfed, hline, (hkept.mpr hinside).trans hline, hmove⟩

/-- The shifts can move a line that stands in front of the edit. The chain of this text starts in
front of the only edit, on line five before and after it; the edit ends on the third of the lines
that end at line feeds, takes two of these out, and line five is moved to line three. -/
theorem line_ahead_moved :
    Edit.apply Ahead.text Ahead.edits = .ok Ahead.edited ∧ (∀ e ∈ Ahead.edits, 4 ≤ e.start) ∧
      lineOfOffset Ahead.text 4 = 5 ∧ lineOfOffset Ahead.edited 4 = 5 ∧
      move (ofEdits Ahead.text Ahead.edits) 5 = 3 := by
  exact ⟨Ahead.apply_edits, by decide, rfl, rfl, rfl⟩

end LineShift

end Readiness
