import Mathlib.Data.List.TakeWhile
import Readiness.Script.Naming

/-!
# The parentheses around a range

A range is widened over the parentheses around it by its two sides alone: blanks are
passed, and while the next character is an opening parenthesis on one side and a closing
one on the other, both are taken. So the range grows over blanks and parentheses and
over nothing else (`widenOverParens_start`, `widenOverParens_stop`).

Which pairs are taken is a matter of what stands in the gaps between them. The innermost
pairs are taken up to the first one with something else than blanks in a gap, a comment
for example (`widenOverParens_enclosed`), and whatever is outside of that pair is left
as well.
-/

namespace Readiness.Script

/-! ## What is taken off the two sides -/

/-- Whether the sides of a range go on with a pair of parentheses. -/
def PairNext (before after : Text) : Prop :=
  (before.dropWhile isLooseBlank).head? = some (.char '(') ∧
    (after.dropWhile isLooseBlank).head? = some (.char ')')

theorem peelParens_pair {before after b a : Text}
    (front : before.dropWhile isLooseBlank = .char '(' :: b)
    (back : after.dropWhile isLooseBlank = .char ')' :: a) :
    peelParens before after = peelParens b a := by
  rw [peelParens]
  split
  · next hfront hback =>
      rw [front] at hfront
      rw [back] at hback
      cases hfront
      cases hback
      rfl
  · next hnot => exact absurd back (hnot b a front)

theorem peelParens_done {before after : Text} (h : ¬ PairNext before after) :
    peelParens before after = (before, after) := by
  rw [peelParens]
  split
  · next hfront hback =>
      refine absurd ⟨?_, ?_⟩ h
      · rw [hfront]
        rfl
      · rw [hback]
        rfl
  · rfl

theorem peelParens_taken (before after : Text) :
    ∃ w v, before = w ++ (peelParens before after).1 ∧ after = v ++ (peelParens before after).2 ∧
      (∀ c ∈ w, isLooseBlank c = true ∨ c = .char '(') ∧
      (∀ c ∈ v, isLooseBlank c = true ∨ c = .char ')') := by
  fun_induction peelParens before after with
  | case1 before after b a hfront hback ih =>
      obtain ⟨w, v, hw, hv, hwchars, hvchars⟩ := ih
      have hbefore := List.takeWhile_append_dropWhile (p := isLooseBlank) (l := before)
      have hafter := List.takeWhile_append_dropWhile (p := isLooseBlank) (l := after)
      rw [hfront] at hbefore
      rw [hback] at hafter
      refine ⟨before.takeWhile isLooseBlank ++ .char '(' :: w,
        after.takeWhile isLooseBlank ++ .char ')' :: v, ?_, ?_, ?_, ?_⟩
      · rw [List.append_assoc, List.cons_append, ← hw]
        exact hbefore.symm
      · rw [List.append_assoc, List.cons_append, ← hv]
        exact hafter.symm
      · intro c hc
        rcases List.mem_append.mp hc with hblank | hc
        · exact .inl (List.mem_takeWhile_imp hblank)
        · rcases List.mem_cons.mp hc with rfl | hc
          · exact .inr rfl
          · exact hwchars c hc
      · intro c hc
        rcases List.mem_append.mp hc with hblank | hc
        · exact .inl (List.mem_takeWhile_imp hblank)
        · rcases List.mem_cons.mp hc with rfl | hc
          · exact .inr rfl
          · exact hvchars c hc
  | case2 =>
      exact ⟨[], [], rfl, rfl, fun _ h => (List.not_mem_nil h).elim,
        fun _ h => (List.not_mem_nil h).elim⟩

/-! ## How far a range is widened -/

variable {t : Text} {lo hi start stop : Nat}

/-- To the left a range grows over blanks and opening parentheses. -/
theorem widenOverParens_start (inText : start ≤ t.length) :
    (widenOverParens t lo hi start stop).1 ≤ start ∧
      ∀ c ∈ t.slice (widenOverParens t lo hi start stop).1 start,
        isLooseBlank c = true ∨ c = .char '(' := by
  obtain ⟨w, -, hw, -, hchars, -⟩ := peelParens_taken (t.slice lo start).reverse (t.slice stop hi)
  obtain ⟨b, hb⟩ : ∃ b, (peelParens (t.slice lo start).reverse (t.slice stop hi)).1 = b := ⟨_, rfl⟩
  rw [hb] at hw
  have hfront : t.slice lo start = b.reverse ++ w.reverse := by
    rw [← List.reverse_append, ← hw, List.reverse_reverse]
  have hcount : (t.slice lo start).length = start - lo := by
    rw [Text.slice, List.length_take, List.length_drop]
    omega
  have hsum : start - lo = b.length + w.length := by
    rw [← hcount, hfront, List.length_append, List.length_reverse, List.length_reverse]
  have hfirst : (widenOverParens t lo hi start stop).1 = start - w.length := by
    show start - ((t.slice lo start).reverse.length -
      (peelParens (t.slice lo start).reverse (t.slice stop hi)).1.length) = _
    rw [hb, List.length_reverse, hcount]
    omega
  have hslice : t.slice (start - w.length) start = w.reverse := by
    by_cases hle : lo ≤ start
    · have hdrop : (t.slice lo start).drop b.length = w.reverse := by
        rw [hfront, ← List.length_reverse, List.drop_left]
      have hoffset : lo + b.length = start - w.length := by omega
      have hlength : start - lo - b.length = start - (start - w.length) := by omega
      rw [← hdrop, Text.slice, Text.slice, List.drop_take, List.drop_drop, hoffset, hlength]
    · have hnone : w = [] := List.eq_nil_of_length_eq_zero (by omega)
      rw [hnone, Text.slice, List.length_nil, Nat.sub_zero, Nat.sub_self, List.take_zero]
      rfl
  refine ⟨by omega, fun c hc => hchars c ?_⟩
  rw [hfirst, hslice] at hc
  exact List.mem_reverse.mp hc

theorem widenOverParens_stop (below : stop ≤ hi) :
    stop ≤ (widenOverParens t lo hi start stop).2 ∧
      (widenOverParens t lo hi start stop).2 ≤ hi := by
  have hcount : (t.slice stop hi).length ≤ hi - stop := by
    rw [Text.slice, List.length_take]
    omega
  show stop ≤ stop + ((t.slice stop hi).length - _) ∧ stop + ((t.slice stop hi).length - _) ≤ hi
  omega

/-! ## Pairs of parentheses and the gaps between them -/

/-- A pair of parentheses around something: what stands behind the opening one, and what stands in
front of the closing one. -/
structure Enclosure where
  front : Text
  back : Text

/-- Whether nothing but blanks stands between a pair and what it encloses. -/
def Enclosure.hugs (p : Enclosure) : Bool := p.front.all isLooseBlank && p.back.all isLooseBlank

/-- What stands in front of something in pairs of parentheses, of which the innermost comes
first. -/
def openings : List Enclosure → Text
  | [] => []
  | p :: more => openings more ++ .char '(' :: p.front

/-- What stands behind it. -/
def closings : List Enclosure → Text
  | [] => []
  | p :: more => p.back ++ .char ')' :: closings more

theorem closings_append (ps qs : List Enclosure) :
    closings (ps ++ qs) = closings ps ++ closings qs := by
  induction ps with
  | nil => rfl
  | cons p more ih =>
      rw [List.cons_append, closings, closings, ih, List.append_assoc, List.cons_append]

theorem closings_getLast {ps : List Enclosure} (h : ps ≠ []) :
    ∃ front, closings ps = front ++ [CodePoint.char ')'] := by
  induction ps with
  | nil => exact absurd rfl h
  | cons p more ih =>
      rcases eq_or_ne more [] with rfl | hmore
      · exact ⟨p.back, rfl⟩
      · obtain ⟨front, hfront⟩ := ih hmore
        exact ⟨p.back ++ .char ')' :: front, by
          rw [closings, hfront, List.append_assoc, List.cons_append]⟩

theorem closings_eq_nil {ps : List Enclosure} (h : (closings ps).length = 0) : ps = [] := by
  cases ps with
  | nil => rfl
  | cons p more =>
      rw [closings, List.length_append, List.length_cons] at h
      omega

/-- The pairs of parentheses around a range in the part of a text from `lo` up to `hi`, of which the
innermost comes first. The gaps between them hold no parentheses, and no further pair is closed
behind them. -/
structure Enclosed (t : Text) (lo hi start stop : Nat) (ps : List Enclosure) : Prop where
  front : openings ps <:+ t.slice lo start
  back : ∃ trail, t.slice stop hi = closings ps ++ trail ∧
    (trail.dropWhile isLooseBlank).head? ≠ some (.char ')')
  gaps : ∀ p ∈ ps, .char '(' ∉ p.front ∧ .char ')' ∉ p.back

theorem dropWhile_loose {gap rest : Text} (h : gap.all isLooseBlank = true) {c : CodePoint}
    (solid : isLooseBlank c = false) : (gap ++ c :: rest).dropWhile isLooseBlank = c :: rest := by
  rw [List.dropWhile_append_of_pos (fun x hx => List.all_eq_true.mp h x hx),
    List.dropWhile_cons_of_neg (by rw [solid]; exact Bool.false_ne_true)]

/-- Past the blanks a gap with something else in it begins with what it holds. -/
theorem head?_dropWhile_loose {gap rest : Text} (h : gap.all isLooseBlank = false) {c : CodePoint}
    (absent : c ∉ gap) : ((gap ++ rest).dropWhile isLooseBlank).head? ≠ some c := by
  intro hhead
  induction gap with
  | nil => exact absurd h (by decide)
  | cons x more ih =>
      rw [List.mem_cons, not_or] at absent
      cases hx : isLooseBlank x with
      | true =>
          rw [List.cons_append, List.dropWhile_cons_of_pos hx] at hhead
          rw [List.all_cons, hx, Bool.true_and] at h
          exact ih h absent.2 hhead
      | false =>
          rw [List.cons_append, List.dropWhile_cons_of_neg (by rw [hx]; exact Bool.false_ne_true)]
            at hhead
          exact absent.1 (Option.some.inj hhead).symm

/-- The pairs are taken from the inside out, up to the first one that does not hug what it
encloses. -/
theorem peelParens_enclosed {ps : List Enclosure}
    (gaps : ∀ p ∈ ps, .char '(' ∉ p.front ∧ .char ')' ∉ p.back) (lead : Text) {trail : Text}
    (done : (trail.dropWhile isLooseBlank).head? ≠ some (.char ')')) :
    (peelParens ((openings ps).reverse ++ lead) (closings ps ++ trail)).2 =
      closings (ps.dropWhile Enclosure.hugs) ++ trail := by
  induction ps with
  | nil =>
      have hstop : ¬ PairNext ((openings []).reverse ++ lead) (closings [] ++ trail) :=
        fun h => done h.2
      rw [peelParens_done hstop, List.dropWhile_nil]
  | cons p more ih =>
      obtain ⟨hopen, hclose⟩ := gaps p List.mem_cons_self
      have hbefore : (openings (p :: more)).reverse ++ lead =
          p.front.reverse ++ .char '(' :: ((openings more).reverse ++ lead) := by
        rw [openings, List.reverse_append, List.reverse_cons]
        simp only [List.append_assoc, List.cons_append, List.nil_append]
      have hafter : closings (p :: more) ++ trail =
          p.back ++ .char ')' :: (closings more ++ trail) := by
        rw [closings, List.append_assoc, List.cons_append]
      cases hhugs : p.hugs with
      | true =>
          obtain ⟨hfront, hback⟩ := Bool.and_eq_true_iff.mp hhugs
          have hfront' : p.front.reverse.all isLooseBlank = true := by
            rw [List.all_reverse]
            exact hfront
          rw [hbefore, hafter, peelParens_pair (dropWhile_loose hfront' rfl)
            (dropWhile_loose hback rfl), List.dropWhile_cons_of_pos hhugs]
          exact ih fun q hq => gaps q (List.mem_cons_of_mem p hq)
      | false =>
          have hstop : ¬ PairNext ((openings (p :: more)).reverse ++ lead)
              (closings (p :: more) ++ trail) := by
            rw [hbefore, hafter]
            rintro ⟨hopens, hcloses⟩
            rcases Bool.and_eq_false_iff.mp hhugs with hfront | hback
            · have hfront' : p.front.reverse.all isLooseBlank = false := by
                rw [List.all_reverse]
                exact hfront
              exact head?_dropWhile_loose hfront' (fun h => hopen (List.mem_reverse.mp h)) hopens
            · exact head?_dropWhile_loose hback hclose hcloses
          rw [peelParens_done hstop,
            List.dropWhile_cons_of_neg (by rw [hhugs]; exact Bool.false_ne_true)]

/-- A range is widened over the innermost pairs that hug it, and so over all pairs around it just
when every one of them does. -/
theorem widenOverParens_enclosed {ps : List Enclosure} (h : Enclosed t lo hi start stop ps) :
    (widenOverParens t lo hi start stop).2 =
        stop + (closings (ps.takeWhile Enclosure.hugs)).length ∧
      ((widenOverParens t lo hi start stop).2 = stop + (closings ps).length ↔
        ∀ p ∈ ps, p.hugs = true) := by
  obtain ⟨lead, hlead⟩ := h.front
  obtain ⟨trail, htrail, hdone⟩ := h.back
  have hbefore : (t.slice lo start).reverse = (openings ps).reverse ++ lead.reverse := by
    rw [← hlead, List.reverse_append]
  have hpeel := peelParens_enclosed h.gaps lead.reverse hdone
  rw [← hbefore, ← htrail] at hpeel
  have hsplit := closings_append (ps.takeWhile Enclosure.hugs) (ps.dropWhile Enclosure.hugs)
  rw [List.takeWhile_append_dropWhile] at hsplit
  have hstop : (widenOverParens t lo hi start stop).2 =
      stop + (closings (ps.takeWhile Enclosure.hugs)).length := by
    show stop + ((t.slice stop hi).length -
      (peelParens (t.slice lo start).reverse (t.slice stop hi)).2.length) = _
    rw [hpeel, htrail, hsplit]
    simp only [List.length_append]
    omega
  refine ⟨hstop, ?_⟩
  rw [hstop]
  constructor
  · intro hall
    rw [hsplit, List.length_append] at hall
    have hnone : ps.dropWhile Enclosure.hugs = [] := closings_eq_nil (by omega)
    exact List.dropWhile_eq_nil_iff.mp hnone
  · intro hall
    rw [List.takeWhile_eq_self_iff.mpr hall]

end Readiness.Script
