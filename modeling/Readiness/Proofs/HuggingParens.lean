import Readiness.Proofs.EnclosingParens
import Readiness.Proofs.TextLines

/-!
# The most parentheses that hug a range

Widening a range takes one pair of parentheses after the other and comes to an
end, since every pair takes a character off the part in front of the range
(`peelParens`). What it has taken at the end are whole pairs, each of which
hugs what it encloses (`peelParens_pairs`), and what is left on the two sides
does not go on with a pair. Read at the offsets of the text, the widened range
holds the range it came from in some number of such pairs, stays inside of its
bounds, and cannot be widened by one pair more. The bounds are those of the
range, not those of the text: a pair of which one half stands outside of them
is not taken.
-/

namespace Readiness.Script

/-! ## What is taken off -/

/-- What is taken off the two sides are pairs that hug what they enclose, as many as there are. -/
theorem peelParens_pairs (before after : Text) :
    ∃ ps : List Enclosure, ps.all Enclosure.hugs = true ∧
      before = (openings ps).reverse ++ (peelParens before after).1 ∧
      after = closings ps ++ (peelParens before after).2 ∧
      ¬ PairNext (peelParens before after).1 (peelParens before after).2 := by
  fun_induction peelParens before after with
  | case1 before after b a hfront hback ih =>
      -- this turn takes the innermost pair, and the turns after it those around that pair
      obtain ⟨ps, hhugs, hb, ha, hdone⟩ := ih
      have hbefore := List.takeWhile_append_dropWhile (p := isLooseBlank) (l := before)
      have hafter := List.takeWhile_append_dropWhile (p := isLooseBlank) (l := after)
      rw [hfront] at hbefore
      rw [hback] at hafter
      let p : Enclosure := ⟨(before.takeWhile isLooseBlank).reverse, after.takeWhile isLooseBlank⟩
      have hp : p.hugs = true := by
        rw [Enclosure.hugs, List.all_reverse, List.all_takeWhile, List.all_takeWhile]
        rfl
      refine ⟨p :: ps, by rw [List.all_cons, hp, hhugs]; rfl, ?_, ?_, hdone⟩
      · rw [openings, List.reverse_append, List.reverse_cons, List.reverse_reverse,
          List.append_assoc, List.append_assoc, ← hb]
        exact hbefore.symm
      · rw [closings, List.append_assoc, List.cons_append, ← ha]
        exact hafter.symm
  | case2 before after hnot =>
      refine ⟨[], rfl, rfl, rfl, ?_⟩
      rintro ⟨hopen, hclose⟩
      obtain ⟨b, hb⟩ := List.head?_eq_some_iff.mp hopen
      obtain ⟨a, ha⟩ := List.head?_eq_some_iff.mp hclose
      exact hnot b a hb ha

/-- Pairs that hug what they enclose are all taken. -/
theorem peelParens_skip {ps : List Enclosure} (hugs : ps.all Enclosure.hugs = true)
    (before after : Text) :
    peelParens ((openings ps).reverse ++ before) (closings ps ++ after) =
      peelParens before after := by
  induction ps with
  | nil => rfl
  | cons p more ih =>
      rw [List.all_cons, Bool.and_eq_true] at hugs
      obtain ⟨hfront, hback⟩ := Bool.and_eq_true_iff.mp hugs.1
      rw [openings, closings, List.reverse_append, List.reverse_cons, List.append_assoc,
        List.append_assoc, List.append_assoc, List.cons_append, List.cons_append, List.nil_append]
      rw [← List.all_reverse] at hfront
      exact (peelParens_pair (dropWhile_loose hfront rfl) (dropWhile_loose hback rfl)).trans
        (ih hugs.2)

variable {t : Text} {lo hi start stop : Nat}

/-! ## At the offsets of the text -/

/-- The character in front of a part that begins behind `lo`, past blanks. -/
theorem head?_dropWhile_reverse_slice {s i : Nat} (low : lo ≤ i) (above : i < s)
    (blank : (t.slice (i + 1) s).all isLooseBlank = true) {c : CodePoint}
    (solid : isLooseBlank c = false) (here : t[i]? = some c) :
    ((t.slice lo s).reverse.dropWhile isLooseBlank).head? = some c := by
  have hsplit : t.slice lo s = t.slice lo i ++ c :: t.slice (i + 1) s := by
    rw [← Text.slice_append_slice t low (Nat.le_of_lt above), Text.slice_eq_cons above here]
  rw [hsplit, List.reverse_append, List.reverse_cons, List.append_assoc, List.singleton_append,
    dropWhile_loose (by rw [List.all_reverse]; exact blank) solid]
  rfl

/-- The character behind a part that ends in front of `hi`, past blanks. -/
theorem head?_dropWhile_slice {e j : Nat} (above : e ≤ j) (below : j < hi)
    (blank : (t.slice e j).all isLooseBlank = true) {c : CodePoint}
    (solid : isLooseBlank c = false) (here : t[j]? = some c) :
    ((t.slice e hi).dropWhile isLooseBlank).head? = some c := by
  rw [← Text.slice_append_slice t above (Nat.le_of_lt below), Text.slice_eq_cons below here,
    dropWhile_loose blank solid]
  rfl

/-- The range from `s` up to `e` is that from `start` up to `stop` in pairs of parentheses, each of
which hugs what it encloses. -/
structure Hugged (t : Text) (start stop : Nat) (ps : List Enclosure) (s e : Nat) : Prop where
  front : t.slice s start = openings ps
  back : t.slice stop e = closings ps
  hugs : ps.all Enclosure.hugs = true

theorem Hugged.slice_eq {ps : List Enclosure} {s e : Nat} (h : Hugged t start stop ps s e)
    (low : s ≤ start) (ordered : start ≤ stop) (high : stop ≤ e) :
    t.slice s e = openings ps ++ t.slice start stop ++ closings ps := by
  rw [← h.front, ← h.back, Text.slice_append_slice t low ordered,
    Text.slice_append_slice t (Nat.le_trans low ordered) high]

/-- A range is widened over pairs that hug it, and what is left inside of the bounds does not go on
with a pair. -/
theorem hugged_widenOverParens (low : lo ≤ start) (ordered : start ≤ stop) (high : stop ≤ hi)
    (inText : hi ≤ t.length) :
    ∃ s e ps, widenOverParens t lo hi start stop = (s, e) ∧ lo ≤ s ∧ s ≤ start ∧ stop ≤ e ∧
      e ≤ hi ∧ Hugged t start stop ps s e ∧ ¬ PairNext (t.slice lo s).reverse (t.slice e hi) := by
  obtain ⟨ps, hhugs, hbefore, hafter, hdone⟩ :=
    peelParens_pairs (t.slice lo start).reverse (t.slice stop hi)
  have hwiden : widenOverParens t lo hi start stop =
      (start - ((t.slice lo start).reverse.length -
          (peelParens (t.slice lo start).reverse (t.slice stop hi)).1.length),
        stop + ((t.slice stop hi).length -
          (peelParens (t.slice lo start).reverse (t.slice stop hi)).2.length)) := rfl
  revert hwiden hdone hbefore hafter
  generalize peelParens (t.slice lo start).reverse (t.slice stop hi) = rest
  intro hbefore hafter hdone hwiden
  have hfront : t.slice lo start = rest.1.reverse ++ openings ps := by
    rw [← List.reverse_reverse (t.slice lo start), hbefore, List.reverse_append,
      List.reverse_reverse]
  have hfrontLength := congrArg List.length hfront
  have hbackLength := congrArg List.length hafter
  rw [Text.length_slice t (by omega), List.length_append, List.length_reverse] at hfrontLength
  rw [Text.length_slice t inText, List.length_append] at hbackLength
  have hs : start - ((t.slice lo start).reverse.length - rest.1.length) =
      start - (openings ps).length := by
    rw [List.length_reverse, Text.length_slice t (by omega)]
    omega
  have he : stop + ((t.slice stop hi).length - rest.2.length) = stop + (closings ps).length := by
    rw [Text.length_slice t inText]
    omega
  rw [hs, he] at hwiden
  -- each side is the part that is left and the part that is taken
  obtain ⟨hleft, hopen⟩ := List.append_inj
    ((Text.slice_append_slice t (b := start - (openings ps).length) (by omega)
      (Nat.sub_le _ _)).trans hfront)
    (by rw [Text.length_slice t (by omega), List.length_reverse]; omega)
  obtain ⟨hclose, hright⟩ := List.append_inj
    ((Text.slice_append_slice t (b := stop + (closings ps).length) (Nat.le_add_right _ _)
      (by omega)).trans hafter)
    (by rw [Text.length_slice t (by omega)]; omega)
  refine ⟨_, _, ps, hwiden, by omega, Nat.sub_le _ _, Nat.le_add_right _ _, by omega,
    ⟨hopen, hclose, hhugs⟩, ?_⟩
  rw [hleft, hright, List.reverse_reverse]
  exact hdone

/-- No range in pairs that hug it goes further out than the widened one. -/
theorem widenOverParens_most (ordered : start ≤ stop) (inText : hi ≤ t.length)
    {ps : List Enclosure} {s e : Nat} (hs : lo ≤ s) (hfirst : s ≤ start) (hlast : stop ≤ e)
    (he : e ≤ hi) (hugged : Hugged t start stop ps s e) :
    (widenOverParens t lo hi start stop).1 ≤ s ∧ e ≤ (widenOverParens t lo hi start stop).2 := by
  have hfront : (t.slice lo start).reverse = (openings ps).reverse ++ (t.slice lo s).reverse := by
    rw [← Text.slice_append_slice t hs hfirst, hugged.front, List.reverse_append]
  have hback : t.slice stop hi = closings ps ++ t.slice e hi := by
    rw [← Text.slice_append_slice t hlast he, hugged.back]
  have hpeel : peelParens (t.slice lo start).reverse (t.slice stop hi) =
      peelParens (t.slice lo s).reverse (t.slice e hi) := by
    rw [hfront, hback, peelParens_skip hugged.hugs]
  obtain ⟨w, v, hw, hv, -, -⟩ := peelParens_taken (t.slice lo s).reverse (t.slice e hi)
  have hleft := congrArg List.length hw
  have hright := congrArg List.length hv
  rw [List.length_reverse, Text.length_slice t (by omega), List.length_append] at hleft
  rw [Text.length_slice t inText, List.length_append] at hright
  show start - ((t.slice lo start).reverse.length - _) ≤ s ∧
    e ≤ stop + ((t.slice stop hi).length - _)
  rw [hpeel, List.length_reverse, Text.length_slice t (by omega), Text.length_slice t inText]
  omega

/-! ## Offsets of any kind -/

/-- Inside of a text, offsets that may be any whole numbers are looked up like those that count from
the start. -/
theorem widenAnywhere_inside (low : lo ≤ start) (ordered : start ≤ stop) (high : stop ≤ hi)
    (inText : hi ≤ t.length) :
    widenAnywhere t lo hi start stop =
      .ok ((widenOverParens t lo hi start stop).1, (widenOverParens t lo hi start stop).2) := by
  have hplace : ∀ i : Nat, ((i : Int) + (t.length : Int)).toNat = i + t.length := fun i => by omega
  have hmin : min (hi : Int) (t.length : Int) = hi := Int.min_eq_left (Int.ofNat_le.mpr inText)
  -- in the text written twice the offsets stand in the second copy
  have htwice : ∀ a b : Nat, (t ++ t).slice (a + t.length) (b + t.length) = t.slice a b := by
    intro a b
    rw [Text.slice, Nat.add_comm a, ← List.drop_drop, List.drop_left, Nat.add_comm b,
      Nat.add_sub_add_left]
    rfl
  obtain ⟨s, e, -, hwiden, hlo, hs, he, hhi, -, -⟩ :=
    hugged_widenOverParens low ordered high inText
  have hshift : widenOverParens (t ++ t) (lo + t.length) (hi + t.length) (start + t.length)
      (stop + t.length) = (s + t.length, e + t.length) := by
    have hsplit := hwiden
    have hcount : (t.slice lo start).reverse.length = start - lo := by
      rw [List.length_reverse, Text.length_slice t (by omega)]
    rw [widenOverParens] at hsplit ⊢
    rw [htwice, htwice]
    simp only [Prod.mk.injEq] at hsplit ⊢
    omega
  rw [widenAnywhere, hwiden]
  simp only [hmin, hplace, hshift]
  rw [if_neg]
  · congr 2 <;> push_cast <;> omega
  · simp only [Bool.or_eq_true, Bool.and_eq_true, decide_eq_true_eq]
    omega

/-- Inside of the bounds and the text, a range is widened over pairs of parentheses that hug what
they enclose. No further pair can be added to them, and all ranges that come from the range in
pairs of this kind lie within the widened one. -/
theorem widenAnywhere_maximal (low : lo ≤ start) (ordered : start ≤ stop) (high : stop ≤ hi)
    (inText : hi ≤ t.length) :
    ∃ s e : Nat, widenAnywhere t lo hi start stop = .ok (s, e) ∧
      widenOverParens t lo hi start stop = (s, e) ∧
      lo ≤ s ∧ s ≤ start ∧ stop ≤ e ∧ e ≤ hi ∧
      (∃ ps : List Enclosure, ps.all Enclosure.hugs = true ∧
        t.slice s e = openings ps ++ t.slice start stop ++ closings ps) ∧
      (∀ i j, lo ≤ i → i < s → e ≤ j → j < hi →
        (t.slice (i + 1) s).all isLooseBlank = true → (t.slice e j).all isLooseBlank = true →
        ¬ (t[i]? = some (.char '(') ∧ t[j]? = some (.char ')'))) ∧
      ∀ ps s' e', lo ≤ s' → s' ≤ start → stop ≤ e' → e' ≤ hi → Hugged t start stop ps s' e' →
        s ≤ s' ∧ e' ≤ e := by
  obtain ⟨s, e, ps, hwiden, hlo, hs, he, hhi, hugged, hdone⟩ :=
    hugged_widenOverParens low ordered high inText
  have hanywhere := widenAnywhere_inside low ordered high inText
  rw [hwiden] at hanywhere
  refine ⟨s, e, hanywhere, hwiden, hlo, hs, he, hhi,
    ⟨ps, hugged.hugs, hugged.slice_eq hs ordered he⟩, ?_, ?_⟩
  · rintro i j hi hbelow hj habove hfront hback ⟨hopen, hclose⟩
    exact hdone ⟨head?_dropWhile_reverse_slice hi hbelow hfront rfl hopen,
      head?_dropWhile_slice hj habove hback rfl hclose⟩
  · intro ps' s' e' hlow hfirst hlast hhigh hother
    have hmost := widenOverParens_most ordered inText hlow hfirst hlast hhigh hother
    rwa [hwiden] at hmost

/-- Two pairs hug the letter, with a line end between them. They are all that is taken: of the pair
around them one half stands outside of the bounds. -/
theorem widenAnywhere_twoPairs :
    (2 ≤ 5 ∧ 5 ≤ 6 ∧ 6 ≤ 10 ∧ 10 ≤ ("f((\n(x) ))" : Text).length) ∧
    ∃ s e : Nat, widenAnywhere "f((\n(x) ))" 2 10 5 6 = .ok (s, e) ∧ s = 2 ∧ e = 9 := by
  have hbounds : 2 ≤ 5 ∧ 5 ≤ 6 ∧ 6 ≤ 10 ∧ 10 ≤ ("f((\n(x) ))" : Text).length := by decide
  obtain ⟨low, ordered, high, inText⟩ := hbounds
  obtain ⟨s, e, hanywhere, hwiden, -⟩ := widenAnywhere_maximal low ordered high inText
  have hrange : widenOverParens "f((\n(x) ))" 2 10 5 6 = (2, 9) := by decide +kernel
  rw [hrange, Prod.mk.injEq] at hwiden
  exact ⟨⟨low, ordered, high, inText⟩, s, e, hanywhere, hwiden.1.symm, hwiden.2.symm⟩

end Readiness.Script
