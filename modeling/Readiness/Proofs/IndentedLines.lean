import Readiness.Proofs.TextLines
import Readiness.Repair.Rejection

/-!
# What indentation does to a stretch of text

The body of a function is moved in line by line, and not every line is moved. So a
stretch of the text that runs over several lines is not written as it was but with
something put in or left out at each line end. Where its first character goes is said by
`landingIn`, and the stretches in question begin and end with a character that is not
blank, as a literal does with its quotes.

Such a stretch is written as it was exactly if every line that starts inside it is left
alone, and no blanks are taken off the end of the first line in the midst of it
(`take_landing_iff`). A line is left alone if it is empty, or if it starts inside a
template and holds something. Any other line shows: a line of blanks is emptied, and a
line that is moved begins with more blanks than it did. And the order of the characters
is kept (`landingIn_lt`).
-/

namespace Readiness

namespace Text

/-- Blanks that are put in front of a text show in it. -/
theorem not_prefix_indented {front t z : Text} (some : front ≠ [])
    (blank : ∀ c ∈ front, isBlank c = true) (solid : t.all isBlank = false) (h : t <+: z) :
    ¬ t <+: front ++ z := by
  have hblanks : ∀ w, (t ++ w).takeWhile isBlank = t.takeWhile isBlank := by
    intro w
    rw [List.takeWhile_append, if_neg]
    intro hall
    have hself := (List.takeWhile_prefix isBlank).eq_of_length hall
    rw [List.all_eq_true.mpr (List.takeWhile_eq_self_iff.mp hself)] at solid
    cases solid
  obtain ⟨w, rfl⟩ := h
  rintro ⟨behind, h⟩
  have hcount := congrArg (fun w => (w.takeWhile isBlank).length) h
  simp only [hblanks, List.takeWhile_append_of_pos blank, List.length_append] at hcount
  have := List.length_pos_iff.mpr some
  omega

end Text

namespace Rejection

open Text

/-! ## What is written for a line -/

variable (outer unit : Text) (spans : List (Nat × Nat))

/-- The lines as they are written, with what follows them. -/
def indentedText (number offset : Nat) (lines : List Text) (behind : Text) : Text :=
  ended (indentedLines outer unit spans number offset lines) ++ behind

/-- What is written for a line, with its line feed. -/
def writtenLine (number offset : Nat) (line : Text) (isLast : Bool) : Text :=
  if isBlankLine line then if 0 < number && !isLast then [.char '\n'] else []
  else if liesInside offset spans then line ++ [.char '\n']
  else if number = 0 then outer ++ unit ++ unit ++ Text.trim line ++ [.char '\n']
  else unit ++ line ++ [.char '\n']

/-- The column that a column of a line becomes. -/
def writtenColumn (number offset : Nat) (line : Text) (column : Nat) : Nat :=
  if liesInside offset spans then column
  else if number = 0 then
    (outer ++ unit ++ unit).length + (column - (line.takeWhile isBlank).length)
  else unit.length + column

/-- Where an offset goes, counted from where the lines are written. -/
def landingIn : Nat → Nat → List Text → Nat → Nat
  | _, _, [], _ => 0
  | number, offset, line :: more, x =>
    if x ≤ offset + line.length then
      writtenColumn outer unit spans number offset line (x - offset)
    else
      (writtenLine outer unit spans number offset line more.isEmpty).length +
        landingIn (number + 1) (offset + line.length + 1) more x

/-- Whether the blanks at the end of a line are taken off. -/
def trimsEnd (number offset : Nat) : Bool := number == 0 && !liesInside offset spans

/-- What is written of a line from a column on. -/
def keptFrom (number offset : Nat) (line : Text) (column : Nat) : Text :=
  if trimsEnd spans number offset then dropEndWhile isBlank (line.drop column)
  else line.drop column

variable {outer unit spans} {number offset : Nat} {line : Text} {more lines : List Text}

theorem indentedText_cons {behind : Text} :
    indentedText outer unit spans number offset (line :: more) behind =
      writtenLine outer unit spans number offset line more.isEmpty ++
        indentedText outer unit spans (number + 1) (offset + line.length + 1) more behind := by
  rw [indentedText, indentedText, indentedLines, writtenLine]
  split
  · split
    · rfl
    · rfl
  · split
    · rw [ended_cons, List.append_assoc, List.append_assoc, List.singleton_append, List.cons_append]
    · split
      · rw [ended_cons, List.append_assoc _ [_], List.singleton_append, List.append_assoc,
          List.cons_append]
      · rw [ended_cons, List.append_assoc _ [_], List.singleton_append, List.append_assoc,
          List.cons_append]

variable {behind : Text}

theorem indentedText_emptied (later : 0 < number) (hline : isBlankLine line = true)
    (hmore : more ≠ []) :
    indentedText outer unit spans number offset (line :: more) behind =
      .char '\n' ::
        indentedText outer unit spans (number + 1) (offset + line.length + 1) more behind := by
  rw [indentedText_cons, writtenLine, if_pos hline, if_pos]
  · rfl
  · rw [List.isEmpty_eq_false_iff.mpr hmore, decide_eq_true later]
    rfl

theorem indentedText_kept (hline : isBlankLine line = false)
    (hinside : liesInside offset spans = true) :
    indentedText outer unit spans number offset (line :: more) behind =
      line ++ .char '\n' ::
        indentedText outer unit spans (number + 1) (offset + line.length + 1) more behind := by
  rw [indentedText_cons, writtenLine, hline, hinside, if_neg Bool.false_ne_true, if_pos rfl,
    List.append_assoc]
  rfl

theorem indentedText_moved (later : 0 < number) (hline : isBlankLine line = false)
    (hinside : liesInside offset spans = false) :
    indentedText outer unit spans number offset (line :: more) behind =
      unit ++ (line ++ .char '\n' ::
        indentedText outer unit spans (number + 1) (offset + line.length + 1) more behind) := by
  rw [indentedText_cons, writtenLine, hline, hinside, if_neg Bool.false_ne_true,
    if_neg Bool.false_ne_true, if_neg (Nat.ne_of_gt later), List.append_assoc, List.append_assoc]
  rfl

theorem isBlankLine_of_solid {c : CodePoint} (solid : isBlank c = false) (a v : Text) :
    isBlankLine (a ++ c :: v) = false := by
  rw [isBlankLine, List.all_eq_false]
  exact ⟨c, List.mem_append_right a List.mem_cons_self, by rw [solid]; exact Bool.false_ne_true⟩

theorem keptFrom_solid {c : CodePoint} (solid : isBlank c = false) (a v : Text) :
    keptFrom spans number offset (a ++ c :: v) a.length =
      c :: if trimsEnd spans number offset then dropEndWhile isBlank v else v := by
  have hend := dropEndWhile_solid solid [] v
  rw [List.nil_append, List.nil_append] at hend
  rw [keptFrom, List.drop_left, hend]
  split <;> rfl

/-- From a character on that is no blank, a line is written as it is but for blanks at its end. -/
theorem writtenLine_split {c : CodePoint} (solid : isBlank c = false) (a v : Text) (isLast : Bool) :
    ∃ front, writtenLine outer unit spans number offset (a ++ c :: v) isLast =
        front ++ (keptFrom spans number offset (a ++ c :: v) a.length ++ [CodePoint.char '\n']) ∧
      front.length = writtenColumn outer unit spans number offset (a ++ c :: v) a.length := by
  rw [writtenLine, isBlankLine_of_solid solid, writtenColumn, keptFrom_solid solid, trimsEnd]
  simp only [Bool.false_eq_true, if_false]
  cases hinside : liesInside offset spans with
  | true =>
      refine ⟨a, ?_, rfl⟩
      simp only [if_true, Bool.not_true, Bool.and_false, Bool.false_eq_true, if_false]
      exact List.append_assoc _ _ _
  | false =>
      simp only [Bool.false_eq_true, if_false, Bool.not_false, Bool.and_true]
      by_cases hnumber : number = 0
      · refine ⟨outer ++ unit ++ unit ++ a.dropWhile isBlank, ?_, ?_⟩
        · simp only [hnumber, if_true, beq_self_eq_true, trim_solid solid]
          simp only [List.append_assoc]
        · have hcount := congrArg List.length
            (List.takeWhile_append_dropWhile (p := isBlank) (l := a))
          rw [List.length_append] at hcount
          rw [if_pos hnumber, takeWhile_solid solid, List.length_append]
          omega
      · refine ⟨unit ++ a, ?_, ?_⟩
        · simp only [if_neg hnumber, beq_eq_false_iff_ne.mpr hnumber, Bool.false_eq_true, if_false]
          simp only [List.append_assoc, List.cons_append]
        · rw [if_neg hnumber, List.length_append]

/-! ## Lines that are left alone -/

/-- Lines with their offsets, where the first one starts at the given one. -/
def linesFrom : Nat → List Text → List (Nat × Text)
  | _, [] => []
  | offset, line :: more => (offset, line) :: linesFrom (offset + line.length + 1) more

/-- A line is written as it is: there is nothing in it, or it holds something and starts inside a
template. -/
def Untouched (spans : List (Nat × Nat)) (p : Nat × Text) : Prop :=
  p.2 = [] ∨ isBlankLine p.2 = false ∧ liesInside p.1 spans = true

/-- The lines leave a range alone: those that start inside it, and the end of the first one. -/
structure Undisturbed (spans : List (Nat × Nat)) (number offset : Nat) (lines : List Text)
    (start stop : Nat) : Prop where
  inner : ∀ p ∈ linesFrom offset lines, start < p.1 → p.1 < stop → Untouched spans p
  first : trimsEnd spans number offset = true → ∀ line ∈ lines.head?,
    start ≤ offset + line.length → offset + line.length < stop → dropEndWhile isBlank line = line

theorem le_of_mem_linesFrom {p : Nat × Text} (h : p ∈ linesFrom offset lines) : offset ≤ p.1 := by
  induction lines generalizing offset with
  | nil => cases h
  | cons line more ih =>
      rcases List.mem_cons.mp h with rfl | h
      · exact Nat.le_refl _
      · have := ih h
        omega

/-- In front of every line but the first one stands a line feed. -/
theorem feed_of_mem_linesFrom {p : Nat × Text} (h : p ∈ linesFrom offset lines)
    (later : offset < p.1) : (ended lines)[p.1 - 1 - offset]? = some (.char '\n') := by
  induction lines generalizing offset with
  | nil => cases h
  | cons line more ih =>
      rcases List.mem_cons.mp h with rfl | h
      · omega
      · have hle := le_of_mem_linesFrom h
        rw [ended_cons, List.getElem?_append_right (by omega)]
        rcases Nat.eq_or_lt_of_le hle with heq | hlt
        · have hzero : p.1 - 1 - offset - line.length = 0 := by omega
          rw [hzero]
          rfl
        · have hsucc : p.1 - 1 - offset - line.length =
              (p.1 - 1 - (offset + line.length + 1)) + 1 := by omega
          rw [hsucc, List.getElem?_cons_succ]
          exact ih h hlt

/-- A character that is no blank stands in the first line or behind its line feed. -/
theorem ended_cons_split {u v : Text} {c : CodePoint} (solid : isBlank c = false)
    (h : ended (line :: more) = u ++ c :: v) :
    (∃ v', line = u ++ c :: v') ∨ ∃ u', u = line ++ .char '\n' :: u' ∧ ended more = u' ++ c :: v := by
  have hfeed : c ≠ .char '\n' := by
    rintro rfl
    cases solid
  rw [ended_cons] at h
  rcases List.append_eq_append_iff.mp h with ⟨a, hu, ha⟩ | ⟨a, hline, ha⟩
  · cases a with
    | nil =>
        rw [List.nil_append, List.cons.injEq] at ha
        exact absurd ha.1.symm hfeed
    | cons x u' =>
        rw [List.cons_append, List.cons.injEq] at ha
        rw [← ha.1] at hu
        exact .inr ⟨u', hu, ha.2⟩
  · cases a with
    | nil =>
        rw [List.nil_append, List.cons.injEq] at ha
        exact absurd ha.1 hfeed
    | cons x v' =>
        rw [List.cons_append, List.cons.injEq] at ha
        rw [← ha.1] at hline
        exact .inl ⟨v', hline⟩

theorem not_untouched (hline : line ≠ []) (h : isBlankLine line = true ∨ liesInside offset spans = false) :
    ¬ Untouched spans (offset, line) := by
  rintro (hnil | ⟨hsolid, hlies⟩)
  · exact hline hnil
  · rcases h with h | h
    · exact Bool.false_ne_true (hsolid.symm.trans h)
    · exact Bool.false_ne_true (h.symm.trans hlies)

/-- Where a line is moved that is not the first, no text is written as it is that begins with a
part of it, and the line is not left alone. -/
theorem prefix_moved_iff (later : 0 < number) (some : unit ≠ [])
    (blank : ∀ c ∈ unit, isBlank c = true) (hinside : liesInside offset spans = false)
    {t text : Text} (solid : t.all isBlank = false) (hline : t <+: line) (htext : t <+: text)
    (count : Nat) : text <+: indentedText outer unit spans number offset (line :: more) behind ↔
      ∀ p ∈ linesFrom offset (line :: more), p.1 ≤ offset + count → Untouched spans p := by
  obtain ⟨x, hx, hxsolid⟩ := List.all_eq_false.mp solid
  have hmem : x ∈ line := hline.subset hx
  have hlineSolid : isBlankLine line = false := List.all_eq_false.mpr ⟨x, hmem, hxsolid⟩
  refine iff_of_false (fun h => ?_) fun hall => ?_
  · rw [indentedText_moved later hlineSolid hinside] at h
    exact not_prefix_indented some blank solid (hline.trans (List.prefix_append _ _))
      (htext.trans h)
  · exact not_untouched (List.ne_nil_of_mem hmem) (.inr hinside)
      (hall _ List.mem_cons_self (Nat.le_add_right _ _))

theorem prefix_inLine_iff (later : 0 < number) (some : unit ≠ [])
    (blank : ∀ c ∈ unit, isBlank c = true) {u v : Text} {c : CodePoint}
    (solid : isBlank c = false) :
    u ++ [c] <+: indentedText outer unit spans number offset ((u ++ c :: v) :: more) behind ↔
      ∀ p ∈ linesFrom offset ((u ++ c :: v) :: more), p.1 ≤ offset + u.length →
        Untouched spans p := by
  have hline := isBlankLine_of_solid solid u v
  have hbegins : u ++ [c] <+: u ++ c :: v := by
    rw [List.prefix_append_right_inj, List.cons_prefix_cons]
    exact ⟨rfl, List.nil_prefix⟩
  cases hinside : liesInside offset spans with
  | true =>
      refine iff_of_true ?_ fun p hp hle => ?_
      · rw [indentedText_kept hline hinside]
        exact hbegins.trans (List.prefix_append _ _)
      · rcases List.mem_cons.mp hp with rfl | hp
        · exact .inr ⟨hline, hinside⟩
        · have hbelow := le_of_mem_linesFrom hp
          rw [List.length_append, List.length_cons] at hbelow
          omega
  | false =>
      exact prefix_moved_iff later some blank hinside (isBlankLine_of_solid solid u []) hbegins
        (List.prefix_refl _) _

theorem prefix_pastLine_iff (later : 0 < number) (some : unit ≠ [])
    (blank : ∀ c ∈ unit, isBlank c = true) (apart : CodePoint.char '\n' ∉ line) (last : more ≠ [])
    {u : Text} {c : CodePoint}
    (rest : u ++ [c] <+:
        indentedText outer unit spans (number + 1) (offset + line.length + 1) more behind ↔
      ∀ p ∈ linesFrom (offset + line.length + 1) more, p.1 ≤ offset + line.length + 1 + u.length →
        Untouched spans p) :
    (line ++ .char '\n' :: u) ++ [c] <+:
        indentedText outer unit spans number offset (line :: more) behind ↔
      ∀ p ∈ linesFrom offset (line :: more), p.1 ≤ offset + (line ++ .char '\n' :: u).length →
        Untouched spans p := by
  have hstep : Untouched spans (offset, line) →
      (u ++ [c] <+:
          indentedText outer unit spans (number + 1) (offset + line.length + 1) more behind ↔
        ∀ p ∈ linesFrom offset (line :: more),
          p.1 ≤ offset + (line ++ .char '\n' :: u).length → Untouched spans p) := by
    intro huntouched
    have hsum : offset + (line.length + (u.length + 1)) = offset + line.length + 1 + u.length := by
      omega
    rw [rest, linesFrom, List.forall_mem_cons, List.length_append, List.length_cons, hsum]
    exact (and_iff_right fun _ => huntouched).symm
  cases hline : isBlankLine line with
  | true =>
      rw [indentedText_emptied later hline last]
      cases line with
      | nil =>
          rw [List.nil_append, List.cons_append, List.cons_prefix_cons]
          exact (and_iff_right rfl).trans (hstep (.inl rfl))
      | cons b l =>
          refine iff_of_false (fun h => ?_) fun hall => ?_
          · rw [List.cons_append, List.cons_append, List.cons_prefix_cons] at h
            exact apart (h.1 ▸ List.mem_cons_self)
          · exact not_untouched (List.cons_ne_nil b l) (.inl hline)
              (hall _ List.mem_cons_self (Nat.le_add_right _ _))
  | false =>
      cases hinside : liesInside offset spans with
      | true =>
          rw [indentedText_kept hline hinside, List.append_assoc, List.prefix_append_right_inj,
            List.cons_append, List.cons_prefix_cons]
          exact (and_iff_right rfl).trans (hstep (.inr ⟨hline, hinside⟩))
      | false =>
          refine prefix_moved_iff later some blank hinside hline (List.prefix_refl _) ?_ _
          rw [List.append_assoc]
          exact List.prefix_append _ _

/-- From the start of a line on that is not the first, a text up to a character that is no blank is
written as it is if the lines of it are left alone, and only then. -/
theorem prefix_indentedText_iff (later : 0 < number) (some : unit ≠ [])
    (blank : ∀ c ∈ unit, isBlank c = true) (apart : ∀ line ∈ lines, CodePoint.char '\n' ∉ line)
    {u v : Text} {c : CodePoint} (solid : isBlank c = false) (split : ended lines = u ++ c :: v) :
    u ++ [c] <+: indentedText outer unit spans number offset lines behind ↔
      ∀ p ∈ linesFrom offset lines, p.1 ≤ offset + u.length → Untouched spans p := by
  induction lines generalizing number offset u with
  | nil => exact absurd split.symm (List.append_ne_nil_of_right_ne_nil u (List.cons_ne_nil _ _))
  | cons line more ih =>
      rcases ended_cons_split solid split with ⟨v', rfl⟩ | ⟨u', rfl, hmore⟩
      · exact prefix_inLine_iff later some blank solid
      · have hlast : more ≠ [] := by
          rintro rfl
          exact List.append_ne_nil_of_right_ne_nil u' (List.cons_ne_nil _ _) hmore.symm
        exact prefix_pastLine_iff later some blank (apart line List.mem_cons_self) hlast
          (ih (Nat.succ_pos number) (fun l hl => apart l (List.mem_cons_of_mem line hl)) hmore)

/-! ## Where a stretch of the text goes -/

theorem landingIn_of_le {x : Nat} (h : x ≤ offset + line.length) :
    landingIn outer unit spans number offset (line :: more) x =
      writtenColumn outer unit spans number offset line (x - offset) := by
  rw [landingIn, if_pos h]

theorem landingIn_of_lt {x : Nat} (h : offset + line.length < x) :
    landingIn outer unit spans number offset (line :: more) x =
      (writtenLine outer unit spans number offset line more.isEmpty).length +
        landingIn outer unit spans (number + 1) (offset + line.length + 1) more x := by
  rw [landingIn, if_neg (Nat.not_le_of_lt h)]

theorem landingIn_head {w v₀ : Text} {d : CodePoint} (solid : isBlank d = false)
    (hline : line = w ++ d :: v₀) :
    (indentedText outer unit spans number offset (line :: more) behind).drop
        (landingIn outer unit spans number offset (line :: more) (offset + w.length)) =
      keptFrom spans number offset line w.length ++ .char '\n' ::
        indentedText outer unit spans (number + 1) (offset + line.length + 1) more behind := by
  subst hline
  obtain ⟨front, hwritten, hfront⟩ :=
    @writtenLine_split outer unit spans number offset d solid w v₀ more.isEmpty
  have hle : offset + w.length ≤ offset + (w ++ d :: v₀).length := by
    rw [List.length_append]
    omega
  rw [landingIn_of_le hle, Nat.add_sub_cancel_left, ← hfront, indentedText_cons, hwritten,
    List.append_assoc, List.drop_left, List.append_assoc, List.singleton_append]

theorem landingIn_tail {w' : Text} :
    (indentedText outer unit spans number offset (line :: more) behind).drop
        (landingIn outer unit spans number offset (line :: more)
          (offset + (line ++ .char '\n' :: w').length)) =
      (indentedText outer unit spans (number + 1) (offset + line.length + 1) more behind).drop
        (landingIn outer unit spans (number + 1) (offset + line.length + 1) more
          (offset + line.length + 1 + w'.length)) := by
  have hsum : offset + (line ++ .char '\n' :: w').length = offset + line.length + 1 + w'.length := by
    rw [List.length_append, List.length_cons]
    omega
  rw [hsum, landingIn_of_lt (by omega), indentedText_cons, ← List.drop_drop, List.drop_left]

theorem undisturbed_tail {start stop : Nat} (h : offset + line.length < start) :
    Undisturbed spans number offset (line :: more) start stop ↔
      Undisturbed spans (number + 1) (offset + line.length + 1) more start stop := by
  constructor
  · intro hall
    refine ⟨fun p hp => hall.inner p (List.mem_cons_of_mem _ hp), fun htrims => ?_⟩
    rw [trimsEnd] at htrims
    cases htrims
  · intro hall
    refine ⟨fun p hp hstart hstop => ?_, fun _ l hl hstart => ?_⟩
    · rcases List.mem_cons.mp hp with rfl | hp
      · omega
      · exact hall.inner p hp hstart hstop
    · cases Option.some.inj hl
      omega

/-- A stretch of the text within the first line of some. -/
theorem undisturbed_inLine {start stop : Nat} (hstart : offset ≤ start)
    (hstop : stop ≤ offset + line.length) :
    Undisturbed spans number offset (line :: more) start stop := by
  refine ⟨fun p hp hlt hbelow => ?_, fun _ l hl _ hbelow => ?_⟩
  · rcases List.mem_cons.mp hp with rfl | hp
    · omega
    · have := le_of_mem_linesFrom hp
      omega
  · cases Option.some.inj hl
    omega

/-- A stretch of the text that begins in the first line of some and ends behind it. -/
theorem undisturbed_head {start stop : Nat} (hstart : offset ≤ start)
    (hin : start ≤ offset + line.length) (hstop : offset + line.length < stop) :
    Undisturbed spans number offset (line :: more) start stop ↔
      (trimsEnd spans number offset = true → dropEndWhile isBlank line = line) ∧
        ∀ p ∈ linesFrom (offset + line.length + 1) more, p.1 < stop → Untouched spans p := by
  constructor
  · intro hall
    refine ⟨fun htrims => hall.first htrims line rfl hin hstop, fun p hp =>
      hall.inner p (List.mem_cons_of_mem _ hp) ?_⟩
    have := le_of_mem_linesFrom hp
    omega
  · rintro ⟨hfirst, hmore⟩
    refine ⟨fun p hp hlt hbelow => ?_, fun htrims l hl _ _ => ?_⟩
    · rcases List.mem_cons.mp hp with rfl | hp
      · omega
      · exact hmore p hp hbelow
    · cases Option.some.inj hl
      exact hfirst htrims

/-- A stretch of the text within a line is written whatever is taken off at the end of the line. -/
theorem prefix_keptFrom {w u v₀ rest : Text} {c : CodePoint} (solid : isBlank c = false) :
    u ++ [c] <+: keptFrom spans number offset (w ++ (u ++ c :: v₀)) w.length ++ rest := by
  have hbegins : ∀ z, u ++ [c] <+: u ++ c :: z := by
    intro z
    rw [List.prefix_append_right_inj, List.cons_prefix_cons]
    exact ⟨rfl, List.nil_prefix⟩
  rw [keptFrom, List.drop_left]
  refine .trans ?_ (List.prefix_append _ rest)
  split
  · rw [dropEndWhile_solid solid]
    exact hbegins _
  · exact hbegins _

/-- A stretch of the text that begins in a line and goes on behind it shows the end of the line. -/
theorem prefix_keptFrom_iff {w v₀ r rest : Text} {d : CodePoint} (solid : isBlank d = false)
    (apart : CodePoint.char '\n' ∉ w ++ d :: v₀) :
    (d :: v₀) ++ .char '\n' :: r <+:
        keptFrom spans number offset (w ++ d :: v₀) w.length ++ .char '\n' :: rest ↔
      (trimsEnd spans number offset = true → dropEndWhile isBlank (w ++ d :: v₀) = w ++ d :: v₀) ∧
        r <+: rest := by
  rw [keptFrom_solid solid, dropEndWhile_solid solid, List.append_cancel_left_eq, List.cons.injEq]
  cases trimsEnd spans number offset with
  | false =>
      rw [if_neg Bool.false_ne_true, List.prefix_append_right_inj, List.cons_prefix_cons]
      exact ⟨fun h => ⟨nofun, h.2⟩, fun h => ⟨rfl, h.2⟩⟩
  | true =>
      obtain ⟨left, hleft⟩ : ∃ left, dropEndWhile isBlank v₀ = left := ⟨_, rfl⟩
      obtain ⟨y, hy⟩ := dropEndWhile_isPrefix isBlank v₀
      rw [hleft] at hy ⊢
      rw [if_pos rfl]
      cases y with
      | nil =>
          rw [List.append_nil] at hy
          rw [hy, List.prefix_append_right_inj, List.cons_prefix_cons]
          exact ⟨fun h => ⟨fun _ => ⟨rfl, rfl⟩, h.2⟩, fun h => ⟨rfl, h.2⟩⟩
      | cons x y =>
          refine iff_of_false (fun h => ?_) fun h => ?_
          · -- What is left ends where the text has one more character of the line.
            rw [← hy, ← List.cons_append, List.append_assoc, List.prefix_append_right_inj,
              List.cons_append, List.cons_prefix_cons] at h
            refine apart ?_
            rw [← hy, ← h.1]
            exact List.mem_append_right w (List.mem_cons_of_mem d
              (List.mem_append_right _ List.mem_cons_self))
          · have hlength := congrArg List.length hy
            rw [← (h.1 rfl).2, List.length_append, List.length_cons] at hlength
            omega

/-- A stretch of the text between two characters that are no blanks is written as it is if the lines
leave it alone, and only then. -/
theorem prefix_landing_iff (some : unit ≠ []) (blank : ∀ c ∈ unit, isBlank c = true)
    (apart : ∀ line ∈ lines, CodePoint.char '\n' ∉ line) {w t v : Text} {d c : CodePoint}
    (first : t.head? = .some d) (firstSolid : isBlank d = false) (last : t.getLast? = .some c)
    (lastSolid : isBlank c = false) (split : ended lines = w ++ (t ++ v)) :
    t <+: (indentedText outer unit spans number offset lines behind).drop
        (landingIn outer unit spans number offset lines (offset + w.length)) ↔
      Undisturbed spans number offset lines (offset + w.length) (offset + w.length + t.length) := by
  obtain ⟨t', rfl⟩ := List.head?_eq_some_iff.mp first
  obtain ⟨u, hu⟩ := List.getLast?_eq_some_iff.mp last
  induction lines generalizing number offset w with
  | nil => exact absurd split.symm (List.append_ne_nil_of_right_ne_nil w (List.cons_ne_nil _ _))
  | cons line more ih =>
      rcases ended_cons_split firstSolid split with ⟨v₀, hline⟩ | ⟨w', rfl, hmore⟩
      · have hapart := apart line List.mem_cons_self
        have hrest : ended ((d :: v₀) :: more) = u ++ c :: v := by
          rw [ended_cons, hline, List.append_assoc, List.append_cancel_left_eq, hu,
            List.append_assoc] at split
          rw [ended_cons]
          exact split
        rw [landingIn_head firstSolid hline]
        rcases ended_cons_split lastSolid hrest with ⟨v', hend⟩ | ⟨u', rfl, hmore⟩
        · -- The text ends in the line that it begins in.
          have hlength : line.length = w.length + (u.length + (v'.length + 1)) := by
            rw [hline, hend, List.length_append, List.length_append, List.length_cons]
          refine iff_of_true ?_ (undisturbed_inLine (by omega) ?_)
          · rw [hline, hend, hu]
            exact prefix_keptFrom lastSolid
          · rw [hu, List.length_append, List.length_singleton]
            omega
        · -- The text goes on behind the line that it begins in.
          have hlength : line.length = w.length + (v₀.length + 1) := by
            rw [hline, List.length_append, List.length_cons]
          have hstop : offset + w.length + (d :: t').length =
              offset + line.length + 1 + u'.length + 1 := by
            rw [hu, hlength]
            simp only [List.length_append, List.length_cons, List.length_nil]
            omega
          have hbehind : u' ++ [c] <+: indentedText outer unit spans (number + 1)
              (offset + line.length + 1) more behind ↔ _ :=
            prefix_indentedText_iff (Nat.succ_pos number) some blank
              (fun l hl => apart l (List.mem_cons_of_mem line hl)) lastSolid hmore
          rw [undisturbed_head (by omega) (by omega) (by omega), hstop, hu]
          simp only [Nat.lt_succ_iff]
          rw [← hbehind, List.append_assoc, List.cons_append]
          subst hline
          exact prefix_keptFrom_iff firstSolid hapart
      · rw [landingIn_tail, ih (fun l hl => apart l (List.mem_cons_of_mem line hl)) hmore]
        have hsum : offset + (line ++ .char '\n' :: w').length =
            offset + line.length + 1 + w'.length := by
          rw [List.length_append, List.length_cons]
          omega
        rw [hsum]
        exact (undisturbed_tail (by omega)).symm

/-- The order of characters that are no blanks is kept. -/
theorem landingIn_lt {w m v : Text} {d c : CodePoint} (firstSolid : isBlank d = false)
    (lastSolid : isBlank c = false) (split : ended lines = w ++ d :: (m ++ c :: v)) :
    landingIn outer unit spans number offset lines (offset + w.length) <
      landingIn outer unit spans number offset lines (offset + (w ++ d :: m).length) := by
  induction lines generalizing number offset w with
  | nil => exact absurd split.symm (List.append_ne_nil_of_right_ne_nil w (List.cons_ne_nil _ _))
  | cons line more ih =>
      have hsecond : ended (line :: more) = (w ++ d :: m) ++ c :: v := by
        rw [List.append_assoc]
        exact split
      rcases ended_cons_split firstSolid split with ⟨v₀, hline⟩ | ⟨w', rfl, hmore⟩
      · rcases ended_cons_split lastSolid hsecond with ⟨v', hline'⟩ | ⟨u', hu, -⟩
        · have hlt : w.length < (w ++ d :: m).length := by
            rw [List.length_append, List.length_cons]
            omega
          have hle : (w ++ d :: m).length ≤ line.length :=
            List.IsPrefix.length_le ⟨c :: v', hline'.symm⟩
          have hblanks : (line.takeWhile isBlank).length ≤ w.length := by
            rw [hline, takeWhile_solid firstSolid]
            exact (List.takeWhile_prefix isBlank).length_le
          rw [landingIn_of_le (by omega), landingIn_of_le (by omega), Nat.add_sub_cancel_left,
            Nat.add_sub_cancel_left, writtenColumn, writtenColumn]
          split
          · exact hlt
          · split
            · omega
            · omega
        · have hle : offset + w.length ≤ offset + line.length := by
            rw [hline, List.length_append]
            omega
          have hgt : offset + line.length < offset + (w ++ d :: m).length := by
            rw [hu, List.length_append, List.length_cons]
            omega
          obtain ⟨front, hwritten, hfront⟩ :=
            @writtenLine_split outer unit spans number offset d firstSolid w v₀ more.isEmpty
          rw [landingIn_of_le hle, landingIn_of_lt hgt, Nat.add_sub_cancel_left, hline, ← hfront, hwritten,
            List.length_append, List.length_append, List.length_singleton]
          omega
      · have hrest : ended more = w' ++ d :: (m ++ c :: v) := hmore
        have hsum : ∀ z : Text, offset + (line ++ .char '\n' :: z).length =
            offset + line.length + 1 + z.length := by
          intro z
          rw [List.length_append, List.length_cons]
          omega
        rw [List.append_assoc, List.cons_append, hsum, hsum, landingIn_of_lt (by omega),
          landingIn_of_lt (by omega)]
        exact Nat.add_lt_add_left (ih hrest) _

end Rejection

end Readiness
