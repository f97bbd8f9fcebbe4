import Readiness.Proofs.IssueDrift
import Readiness.Proofs.SimultaneousEdits
import Readiness.Proofs.TextLines

/-!
# Lines that no edit touches

Where a line goes that the edits leave alone is said twice: the edits splice the text,
and the shifts add up what each of them does to the number of lines. A line stands between
what is above it and what is below it, so the cut at its start has the line, whole, at the
head of its second half, and the number of the line in the new text is the count of line
feeds in the first half.

The shifts count the same, but for one case. An edit moves the lines below the line of
its end, and its end is the first character that it keeps. An edit that takes out a whole line
with its line feed ends at the start of the next one: it lies on lines above that one, and
the shifts do not count it. Such an edit is also the only one that can leave something in
front of the line without a line feed in between.
-/

namespace Readiness

namespace Text

/-! ## Lines by their numbers -/

/-- The line of a text with a number, counted from one, as it stands between the line feeds. -/
def line? (t : Text) : Nat → Option Text
  | 0 => none
  | n + 1 => t.splitLineFeeds[n]?

/-- A text that ends where a line starts: it is empty or has a line feed at its end. -/
def EndsLine (front : Text) : Prop := front = [] ∨ ∃ f, front = f ++ [.char '\n']

/-- A text that starts where a line ends: it is empty or starts with a line feed. -/
def StartsBehindLine (back : Text) : Prop := back = [] ∨ ∃ b, back = .char '\n' :: b

theorem splitLineFeeds_append (front back : Text) :
    splitLineFeeds (front ++ .char '\n' :: back) = splitLineFeeds front ++ splitLineFeeds back := by
  induction front with
  | nil => exact splitBy_append (fun _ hd => absurd hd List.not_mem_nil) rfl
  | cons c front ih =>
      simp only [splitLineFeeds] at ih ⊢
      obtain ⟨line, more, hfront⟩ := List.exists_cons_of_ne_nil
        (splitBy_ne_nil (· == CodePoint.char '\n') front)
      rw [hfront, List.cons_append] at ih
      rw [List.cons_append, splitBy, splitBy, ih, hfront]
      simp only
      split <;> rfl

theorem length_splitLineFeeds (t : Text) : (splitLineFeeds t).length = lineFeeds t + 1 := by
  induction t with
  | nil => rfl
  | cons c r ih =>
      simp only [splitLineFeeds, lineFeeds] at ih ⊢
      obtain ⟨line, more, hr⟩ := List.exists_cons_of_ne_nil
        (splitBy_ne_nil (· == CodePoint.char '\n') r)
      rw [hr, List.length_cons] at ih
      rw [splitBy, hr, List.count_cons]
      simp only
      split
      · rw [List.length_cons, List.length_cons, ih]
      · rw [List.length_cons, ih, Nat.add_zero]

theorem endsLine_ended (l : List Text) : (ended l).EndsLine := by
  rcases List.eq_nil_or_concat l with rfl | ⟨l, line, rfl⟩
  · exact .inl rfl
  · refine .inr ⟨ended l ++ line, ?_⟩
    rw [List.concat_eq_append, ended_append, ended_cons, List.append_assoc]
    rfl

theorem lineFeeds_ended {l : List Text} (h : ∀ line ∈ l, CodePoint.char '\n' ∉ line) :
    lineFeeds (ended l) = l.length := by
  induction l with
  | nil => rfl
  | cons line l ih =>
      have hline : lineFeeds line = 0 := List.count_eq_zero.mpr (h line List.mem_cons_self)
      have hmore := ih fun d hd => h d (List.mem_cons_of_mem line hd)
      rw [ended_cons, lineFeeds_append, hline, Nat.zero_add, List.length_cons, ← hmore]
      exact List.count_cons_self

/-- The lines above the one with a number, each with its line feed. -/
def above (t : Text) (n : Nat) : Text := ended (t.splitLineFeeds.take (n - 1))

/-- What stands behind the last line feed of a text. -/
def openLine (t : Text) : Text := (t.reverse.takeWhile (· != .char '\n')).reverse

theorem openLine_eq_nil_iff {t : Text} : t.openLine = [] ↔ t.EndsLine := by
  rw [openLine, List.reverse_eq_nil_iff]
  rcases List.eq_nil_or_concat t with rfl | ⟨f, c, rfl⟩
  · exact iff_of_true rfl (.inl rfl)
  · simp [EndsLine]

theorem exists_openLine (t : Text) :
    ∃ pre : Text, t = pre ++ t.openLine ∧ pre.EndsLine ∧ CodePoint.char '\n' ∉ t.openLine := by
  refine ⟨(t.reverse.dropWhile (· != .char '\n')).reverse, ?_, ?_, ?_⟩
  · rw [openLine, ← List.reverse_append, List.takeWhile_append_dropWhile, List.reverse_reverse]
  · cases hrest : t.reverse.dropWhile (· != .char '\n') with
    | nil => exact .inl rfl
    | cons c r =>
        have hc : (c != CodePoint.char '\n') = false := by
          have := List.head_dropWhile_not (· != CodePoint.char '\n') (l := t.reverse)
            (by rw [hrest]; exact List.cons_ne_nil _ _)
          simpa only [hrest, List.head_cons] using this
        rw [bne_eq_false_iff_eq] at hc
        exact .inr ⟨r.reverse, by rw [hc, List.reverse_cons]⟩
  · rw [openLine, List.mem_reverse]
    intro hmem
    have := List.all_eq_true.mp (List.all_takeWhile (l := t.reverse)) _ hmem
    simp at this

/-- A line by its number stands between the lines above it and a text that starts where a line
ends. -/
theorem exists_of_line? {t line : Text} {n : Nat} (h : t.line? n = some line) :
    ∃ back : Text, t = t.above n ++ (line ++ back) ∧ n = lineFeeds (t.above n) + 1 ∧
      (t.above n).EndsLine ∧ back.StartsBehindLine := by
  cases n with
  | zero => cases h
  | succ n =>
      obtain ⟨hn, hline⟩ := List.getElem?_eq_some_iff.mp h
      let pre := t.splitLineFeeds.take n
      let post := t.splitLineFeeds.drop (n + 1)
      have hlines : t.splitLineFeeds = pre ++ line :: post := by
        rw [← hline, ← List.drop_eq_getElem_cons hn, List.take_append_drop]
      have hpre : ∀ l ∈ pre, CodePoint.char '\n' ∉ l := fun l hl =>
        not_mem_splitLineFeeds (List.mem_of_mem_take hl)
      have hlength : pre.length = n := List.length_take_of_le (Nat.le_of_lt hn)
      have habove : t.above (n + 1) = ended pre := rfl
      have hfeeds : t ++ [CodePoint.char '\n'] =
          ended pre ++ (line ++ .char '\n' :: ended post) := by
        rw [← ended_splitLineFeeds, hlines, ended_append, ended_cons]
      -- the line feed that the last line was given for this is taken off again
      obtain ⟨back, hback⟩ : ∃ back, .char '\n' :: ended post = back ++ [CodePoint.char '\n'] := by
        rcases endsLine_ended post with hnone | ⟨f, hf⟩
        · exact ⟨[], by rw [hnone]; rfl⟩
        · exact ⟨.char '\n' :: f, by rw [hf]; rfl⟩
      rw [habove]
      refine ⟨back, ?_, by rw [lineFeeds_ended hpre, hlength], endsLine_ended pre, ?_⟩
      · rw [hback, ← List.append_assoc, ← List.append_assoc] at hfeeds
        rw [← List.append_assoc]
        exact List.append_cancel_right hfeeds
      · cases back with
        | nil => exact .inl rfl
        | cons c b =>
            rw [List.cons_append] at hback
            exact .inr ⟨b, by rw [(List.cons.inj hback).1]⟩

theorem not_mem_line? {t line : Text} {n : Nat} (h : t.line? n = some line) :
    CodePoint.char '\n' ∉ line := by
  cases n with
  | zero => cases h
  | succ n => exact not_mem_splitLineFeeds (List.mem_of_getElem? h)

/-- Behind a text that ends where a line starts stands the line whose number is one more than that
of the line feeds in it. -/
theorem line?_append {front line back : Text} (hfront : front.EndsLine)
    (hback : back.StartsBehindLine) (unbroken : CodePoint.char '\n' ∉ line) :
    (front ++ (line ++ back)).line? (lineFeeds front + 1) = some line := by
  have hfirst : (splitLineFeeds (line ++ back))[0]? = some line := by
    have hline : ∀ d ∈ line, (d == CodePoint.char '\n') = false := fun d hd =>
      beq_eq_false_iff_ne.mpr fun heq => unbroken (heq ▸ hd)
    rcases hback with rfl | ⟨b, rfl⟩
    · rw [List.append_nil, splitLineFeeds, splitBy_eq_singleton hline]
      rfl
    · rw [splitLineFeeds, splitBy_append hline rfl]
      rfl
  rcases hfront with rfl | ⟨f, rfl⟩
  · exact hfirst
  · have hlength := length_splitLineFeeds f
    have hfeeds : lineFeeds (f ++ [CodePoint.char '\n']) = lineFeeds f + 1 := by
      rw [lineFeeds_append]
      rfl
    rw [hfeeds, line?, List.append_assoc, List.singleton_append, splitLineFeeds_append,
      List.getElem?_append_right (by omega), hlength, Nat.sub_self]
    exact hfirst

/-- A line that is put behind any text goes on with what that text leaves open. -/
theorem line?_behind {line back : Text} (front : Text) (hback : back.StartsBehindLine)
    (unbroken : CodePoint.char '\n' ∉ line) :
    (front ++ (line ++ back)).line? (lineFeeds front + 1) = some (front.openLine ++ line) := by
  obtain ⟨pre, hfront, hpre, hopen⟩ := exists_openLine front
  have hjoined : CodePoint.char '\n' ∉ front.openLine ++ line := by
    rw [List.mem_append, not_or]
    exact ⟨hopen, unbroken⟩
  have hfeeds : lineFeeds front = lineFeeds pre := by
    have hnone : lineFeeds front.openLine = 0 := List.count_eq_zero.mpr hopen
    conv_lhs => rw [hfront, lineFeeds_append, hnone, Nat.add_zero]
  have hline := line?_append hpre hback hjoined
  rw [hfeeds, ← hline]
  conv_lhs => rw [hfront]
  simp only [List.append_assoc]

example : (Text.ofString "a\nb\nc").line? 2 = some (Text.ofString "b") := by decide +kernel

end Text

/-! ## Where a line goes -/

namespace Edit

/-- The line of the last character that an edit takes out, or of the place where it only puts
something in. -/
def lastLine (t : Text) (e : Edit) : Nat := lineAt t (max e.start (e.stop - 1))

/-- The edit of a text lies on other lines than the one with the given number: it starts on a line
below it, or its last character is on one above. -/
def LeavesLine (t : Text) (n : Nat) (e : Edit) : Prop := n < lineAt t e.start ∨ e.lastLine t < n

section

variable {front line back : Text} {e : Edit}

/-- An edit that leaves a line starts behind the line and its line feed, or ends before the line or
right at its start. -/
theorem LeavesLine.outside
    (h : LeavesLine (front ++ (line ++ back)) (lineFeeds front + 1) e)
    (unbroken : CodePoint.char '\n' ∉ line) :
    front.length + line.length < e.start ∨ e.stop ≤ front.length := by
  refine h.imp (fun hbehind => ?_) fun hbefore => ?_
  · by_contra hle
    have htake : (front ++ (line ++ back)).take (front.length + line.length) = front ++ line := by
      rw [← List.append_assoc, ← List.length_append, List.take_left]
    have hmono := lineAt_mono (front ++ (line ++ back)) (Nat.le_of_not_lt hle)
    have hnone : lineFeeds line = 0 := List.count_eq_zero.mpr unbroken
    rw [lineAt, lineAt, htake, lineFeeds_append, hnone] at hmono
    rw [lineAt] at hbehind
    omega
  · by_contra hle
    have hmono := lineAt_mono (front ++ (line ++ back))
      (show front.length ≤ max e.start (e.stop - 1) by omega)
    rw [lineAt, List.take_left] at hmono
    rw [lastLine] at hbefore
    omega

theorem lineAt_lt (hfront : front.EndsLine) {o : Nat} (h : o < front.length) :
    lineAt (front ++ back) o < lineFeeds front + 1 := by
  rcases hfront with rfl | ⟨f, rfl⟩
  · exact absurd h (Nat.not_lt_zero _)
  · rw [List.length_append, List.length_singleton] at h
    have hmono := lineAt_mono (f ++ [CodePoint.char '\n'] ++ back) (Nat.le_of_lt_succ h)
    have hfeeds : lineFeeds (f ++ [CodePoint.char '\n']) = lineFeeds f + 1 := by
      rw [lineFeeds_append]
      rfl
    rw [List.append_assoc, lineAt, lineAt, List.take_left] at hmono
    rw [hfeeds, lineAt, List.append_assoc]
    omega

variable {es : List Edit}

/-- Edits that end before a line keep the line feed in front of it. -/
theorem endsLine_splice (hfront : front.EndsLine) (hsep : Separated es)
    (hes : ∀ e ∈ es, e.stop < front.length) : (splice 0 front es).EndsLine := by
  rcases hfront with rfl | ⟨f, rfl⟩
  · have hnone : es = [] := List.eq_nil_iff_forall_not_mem.mpr fun e he =>
      absurd (hes e he) (Nat.not_lt_zero _)
    exact .inl (by rw [hnone]; rfl)
  · have hbefore : ∀ e ∈ es, 0 ≤ e.start ∧ e.stop ≤ f.length := by
      intro e he
      have := hes e he
      rw [List.length_append, List.length_singleton] at this
      omega
    have hnone : ∀ d ∈ ([] : List Edit), f.length ≤ d.start := fun d hd =>
      absurd hd List.not_mem_nil
    have hcut :=
      splice_append hnone (f ++ [CodePoint.char '\n']) (Nat.zero_le f.length) hsep hbefore
    rw [List.append_nil, Nat.sub_zero, List.take_left, List.drop_left] at hcut
    exact .inr ⟨splice 0 f es, hcut⟩

/-- Edits that start behind a line keep the line, and the line feed behind it. -/
theorem splice_line (hback : back.StartsBehindLine) {o : Nat}
    (hes : ∀ e ∈ es, o + line.length < e.start ∧ e.stop ≤ o + line.length + back.length) :
    ∃ back' : Text, splice o (line ++ back) es = line ++ back' ∧ back'.StartsBehindLine := by
  have hcut := splice_behind (Nat.le_add_right o line.length) (line ++ back)
    fun e he => Nat.le_of_lt (hes e he).1
  rw [Nat.add_sub_cancel_left, List.take_left, List.drop_left] at hcut
  refine ⟨_, hcut, ?_⟩
  rcases hback with rfl | ⟨b, rfl⟩
  · have hnone : es = [] := List.eq_nil_iff_forall_not_mem.mpr fun e he => by
      obtain ⟨hstart, hstop⟩ := hes e he
      have := e.ordered
      rw [List.length_nil] at hstop
      omega
    exact .inl (by rw [hnone]; rfl)
  · have hfeed := splice_behind (Nat.le_succ (o + line.length)) (.char '\n' :: b)
      fun e he => (hes e he).1
    rw [Nat.succ_sub (Nat.le_refl _), Nat.sub_self] at hfeed
    exact .inr ⟨_, hfeed⟩

end

/-- The edits that end before an offset can be made in the text up to there alone. -/
theorem apply_before {t u : Text} {edits : List Edit} (h : Edit.apply t edits = .ok u) {o : Nat}
    (ho : o ≤ t.length) : Edit.apply (t.take o) (before edits o) =
      .ok (splice 0 (t.take o) (before (sorted edits) o)) := by
  have hsorted : sorted (before edits o) = before (sorted edits) o :=
    StableSort.mergeSort_filter comesFirst_trans comesFirst_total _ _
  rw [← hsorted]
  refine apply_of_refusal? (refusal?_eq_none_iff.mpr ?_)
  rw [hsorted]
  refine ⟨(apply_ok h).1.filter _, fun e he => ?_⟩
  rw [List.length_take, Nat.min_eq_left ho]
  exact (mem_before.mp he).2

end Edit

namespace LineShift

open Edit

/-- Where a line goes that the edits leave alone. What the edits above it make of the lines above is
in front of it in the edited text; the line stands there whole, behind whatever is left open. Its
number is the one that the shifts give it, but for what is put in and taken out by an edit that
ends right at the start of the line. Where there is no such edit, the shifts take the line to where
its content is, and nothing is left open in front of it. -/
theorem line?_apply {t u : Text} {edits : List Edit} (h : Edit.apply t edits = .ok u) {n : Nat}
    {line : Text} (content : t.line? n = some line) (left : ∀ e ∈ edits, e.LeavesLine t n) :
    ∃ above : Text, Edit.apply (t.above n) (before edits (t.above n).length) = .ok above ∧
      u.line? (lineFeeds above + 1) = some (above.openLine ++ line) ∧
      ((lineFeeds above + 1 : Nat) : Int) =
        move (ofEdits t edits) n + stray t edits (t.above n).length ∧
      ((∀ e ∈ edits, e.stop ≠ (t.above n).length) →
        above.openLine = [] ∧ move (ofEdits t edits) n = ((lineFeeds above + 1 : Nat) : Int)) := by
  obtain ⟨back, htext, hn, hends, hback⟩ := Text.exists_of_line? content
  have unbroken : CodePoint.char '\n' ∉ line := Text.not_mem_line? content
  generalize t.above n = front at *
  subst htext hn
  have houtside : ∀ e ∈ edits, front.length + line.length < e.start ∨ e.stop ≤ front.length :=
    fun e he => (left e he).outside unbroken
  have hclear : Clear edits front.length := fun e he =>
    (houtside e he).symm.imp id fun hstart => by omega
  have hnumber : lineAt (front ++ (line ++ back)) front.length = lineFeeds front + 1 := by
    rw [lineAt, List.take_left]
  have hlength : front.length ≤ (front ++ (line ++ back)).length := by
    rw [List.length_append]
    exact Nat.le_add_right _ _
  have hmem : ∀ e, e ∈ sorted edits ↔ e ∈ edits := fun e => (sorted_perm edits).mem_iff
  have habove := apply_before h hlength
  have hcut := apply_cut h hclear
  have hlanding := length_cut h hlength
  rw [List.take_left] at habove hlanding
  rw [List.take_left, List.drop_left] at hcut
  -- the first part of the cut is what becomes of the lines above, and the second starts with the line
  obtain ⟨back', hline, hback'⟩ : ∃ back' : Text,
      splice front.length (line ++ back) (behind (sorted edits) front.length) = line ++ back' ∧
        back'.StartsBehindLine := splice_line hback fun e he => by
      obtain ⟨he, hstop⟩ := mem_behind.mp he
      have hout := houtside e ((hmem e).mp he)
      have hwithin := within_of_apply h e he
      rw [List.length_append, List.length_append] at hwithin
      omega
  have hmove := move_lineAt h hlength hclear
  rw [hnumber, ← hlanding, lineAt] at hmove
  conv at hmove =>
    rhs
    rw [hcut, List.take_left]
  refine ⟨_, habove, ?_, by omega, fun hnone => ?_⟩
  · rw [hcut, hline]
    exact Text.line?_behind _ hback' unbroken
  have hstray : stray (front ++ (line ++ back)) edits front.length = 0 := by
    refine stray_of_exact fun e he hstop hbeside => ?_
    have hlt : lineAt (front ++ (line ++ back)) e.stop < lineFeeds front + 1 :=
      lineAt_lt hends (Nat.lt_of_le_of_ne hstop (hnone e he))
    omega
  refine ⟨Text.openLine_eq_nil_iff.mpr ?_, by omega⟩
  refine endsLine_splice hends ((apply_ok h).1.filter _) fun e he => ?_
  obtain ⟨he, hstop⟩ := mem_before.mp he
  exact Nat.lt_of_le_of_ne hstop (hnone e ((hmem e).mp he))

/-! Five lines. The first one grows by two, the second and third become part of the fourth, and the
fourth is left alone; the last one goes. -/

namespace Untouched

def text : Text := "a\nb\nc\nd\ne"

def edits : List Edit :=
  [⟨0, 1, "x\ny\nz", by decide⟩, ⟨2, 6, "w", by decide⟩, ⟨8, 9, "", by decide⟩]

def edited : Text := "x\ny\nz\nwd\n"

theorem apply_edits : Edit.apply text edits = .ok edited := by
  have hsorted : sorted edits = edits := List.mergeSort_of_pairwise (by decide)
  rw [Edit.apply, hsorted]
  rfl

/-- Three lines, of which the second is taken out with its line feed. -/
def listed : Text := "a\nb\nc"

def removal : List Edit := [⟨2, 4, "", by decide⟩]

theorem apply_removal : Edit.apply listed removal = .ok "a\nc" := by
  rw [Edit.apply, removal, Edit.sorted, List.mergeSort_singleton]
  rfl

end Untouched

theorem line?_apply_sample :
    (∀ e ∈ Untouched.edits, e.LeavesLine Untouched.text 4) ∧
      ∃ above : Text, Untouched.edited.line? (lineFeeds above + 1) = some (above.openLine ++ "d") ∧
        ((lineFeeds above + 1 : Nat) : Int) =
          move (ofEdits Untouched.text Untouched.edits) 4 - 2 := by
  have hleft : ∀ e ∈ Untouched.edits, e.LeavesLine Untouched.text 4 := by
    unfold LeavesLine
    decide
  have hline : Untouched.text.line? 4 = some (Text.ofString "d") := rfl
  have hstray : stray Untouched.text Untouched.edits (Untouched.text.above 4).length = -2 := rfl
  obtain ⟨above, -, hstands, hnumber, -⟩ := line?_apply Untouched.apply_edits hline hleft
  rw [hstray] at hnumber
  exact ⟨hleft, above, hstands, hnumber⟩

/-- The shifts do not move the line below one that is taken out with its line feed. The edit lies on
the second line and the third one moves up to its place, where the shifts do not take it. -/
theorem move_behind_removal :
    (∀ e ∈ Untouched.removal, e.LeavesLine Untouched.listed 3) ∧
      Untouched.listed.line? 3 = some "c" ∧
      Edit.apply Untouched.listed Untouched.removal = .ok "a\nc" ∧
      move (ofEdits Untouched.listed Untouched.removal) 3 = 3 ∧
      Text.line? "a\nc" 3 = none ∧ Text.line? "a\nc" 2 = some "c" := by
  refine ⟨?_, rfl, Untouched.apply_removal, rfl, rfl, rfl⟩
  unfold LeavesLine
  decide

end LineShift

end Readiness
