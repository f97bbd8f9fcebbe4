import Mathlib.Data.List.GetD
import Readiness.Proofs.TextLines
import Readiness.Script.LineTable

/-!
# Numbered lines

The lines of a script are kept twice, by the offsets where they start and by their texts, and both
follow one layout. A text is a line without a break in it, or such a line with one break behind it
and a text behind that (`Ruled`). At the first break both lists are cut into a first entry and the
list of the rest (`lineStarts_more`, `linesOf_more`). A carriage return with its line feed is one
break, so a text is never cut between the two.

From the layout a line is what stands between its start and the next one, less the break at its end,
and the text is its lines with their breaks. Since the starts ascend, the number of the line that
holds an offset can be searched for by halves.
-/

namespace Readiness.Script

/-! ## Searching by halves -/

variable {table : List Nat} {x lo hi : Nat}

/-- Where a number is put into an ascending table, behind its equals: the half of the range that
cannot be its place is left out, until one place is left. -/
def insertionPoint (table : List Nat) (x lo hi : Nat) : Nat :=
  if lo < hi then
    if x < table.getD ((lo + hi) / 2) 0 then insertionPoint table x lo ((lo + hi) / 2)
    else insertionPoint table x ((lo + hi) / 2 + 1) hi
  else lo
termination_by hi - lo

/-- What is in front of a range of places is at most the number, what is behind it is greater. -/
structure Narrowed (table : List Nat) (x lo hi : Nat) : Prop where
  below : ∀ s ∈ table.take lo, s ≤ x
  above : ∀ s ∈ table.drop hi, x < s
  ordered : lo ≤ hi
  inside : hi ≤ table.length

theorem Narrowed.whole (table : List Nat) (x : Nat) : Narrowed table x 0 table.length where
  below := List.forall_mem_nil _
  above := by
    rw [List.drop_length]
    exact List.forall_mem_nil _
  ordered := Nat.zero_le _
  inside := Nat.le_refl _

/-- Every turn keeps the range narrowed. -/
theorem narrowed_insertionPoint (ascending : table.Pairwise (· < ·)) (h : Narrowed table x lo hi) :
    Narrowed table x (insertionPoint table x lo hi) (insertionPoint table x lo hi) := by
  have hinside := h.inside
  fun_induction insertionPoint table x lo hi with
  | case1 lo hi hlt hbefore ih =>
      have hmid : (lo + hi) / 2 < table.length := by omega
      rw [List.getD_eq_getElem _ _ hmid] at hbefore
      -- the middle entry is greater than the number, and with it all that come behind it
      refine ih ⟨h.below, fun s hs => ?_, by omega, by omega⟩ (by omega)
      have hpairs := ascending.sublist (List.drop_sublist ((lo + hi) / 2) table)
      rw [List.drop_eq_getElem_cons hmid] at hs hpairs
      rcases List.mem_cons.mp hs with rfl | hs
      · exact hbefore
      · exact Nat.lt_trans hbefore ((List.pairwise_cons.mp hpairs).1 s hs)
  | case2 lo hi hlt hbehind ih =>
      have hmid : (lo + hi) / 2 < table.length := by omega
      rw [List.getD_eq_getElem _ _ hmid, Nat.not_lt] at hbehind
      -- the middle entry is at most the number, and so are all that come in front of it
      refine ih ⟨fun s hs => ?_, h.above, by omega, h.inside⟩ h.inside
      have hpairs := ascending.sublist (List.take_sublist ((lo + hi) / 2 + 1) table)
      rw [List.take_succ_eq_append_getElem hmid] at hs hpairs
      rcases List.mem_append.mp hs with hs | hs
      · have hless := (List.pairwise_append.mp hpairs).2.2 s hs _ (List.mem_singleton_self _)
        exact Nat.le_trans (Nat.le_of_lt hless) hbehind
      · rw [List.mem_singleton.mp hs]
        exact hbehind
  | case3 lo hi hdone =>
      obtain rfl : lo = hi := Nat.le_antisymm h.ordered (Nat.not_lt.mp hdone)
      exact h

/-- The place that is left has in front of it the entries that are at most the number. -/
theorem Narrowed.countP_eq {n : Nat} (h : Narrowed table x n n) : table.countP (· ≤ x) = n := by
  have hbelow : (table.take n).countP (· ≤ x) = (table.take n).length :=
    List.countP_eq_length.mpr fun s hs => decide_eq_true (h.below s hs)
  have habove : (table.drop n).countP (· ≤ x) = 0 :=
    List.countP_eq_zero.mpr fun s hs hle => Nat.not_le.mpr (h.above s hs) (of_decide_eq_true hle)
  calc table.countP (· ≤ x) = (table.take n ++ table.drop n).countP (· ≤ x) := by
        rw [List.take_append_drop]
    _ = n := by
        rw [List.countP_append, hbelow, habove, List.length_take_of_le h.inside, Nat.add_zero]

/-! ## Lines and their breaks -/

variable {t l b r : Text} {c : CodePoint}

/-- A text without line breaks. -/
def Unbroken (l : Text) : Prop := ∀ c ∈ l, isLineBreak c = false

/-- A text is one line break if `r` stands behind it: a carriage return with its line feed, or one
of the characters that end a line, but no carriage return whose line feed `r` starts with. -/
inductive IsBreak (r : Text) : Text → Prop
  | pair : IsBreak r [.char '\r', .char '\n']
  | single {c : CodePoint} (ends : isLineBreak c = true)
      (whole : c = .char '\r' → r.head? ≠ some (.char '\n')) : IsBreak r [c]

/-- A text as a line, or as a line with its break and a text behind it. -/
inductive Ruled : Text → Prop
  | last {l : Text} (unbroken : Unbroken l) : Ruled l
  | more {l b r : Text} (unbroken : Unbroken l) (isBreak : IsBreak r b) (rest : Ruled r) :
      Ruled (l ++ (b ++ r))

theorem IsBreak.length_pos (h : IsBreak r b) : 0 < b.length := by
  cases h <;> exact Nat.succ_pos _

theorem IsBreak.forall_isLineBreak (h : IsBreak r b) : ∀ c ∈ b, isLineBreak c = true := by
  cases h with
  | pair => decide
  | single ends => exact List.forall_mem_singleton.mpr ends

theorem Unbroken.nil : Unbroken [] := List.forall_mem_nil _

theorem Unbroken.cons (h : isLineBreak c = false) (hl : Unbroken l) : Unbroken (c :: l) :=
  List.forall_mem_cons.mpr ⟨h, hl⟩

theorem Ruled.cons (h : isLineBreak c = false) (ht : Ruled t) : Ruled (c :: t) := by
  cases ht with
  | last unbroken => exact .last (unbroken.cons h)
  | @more l b r unbroken isBreak rest => exact .more (l := c :: l) (unbroken.cons h) isBreak rest

/-- Every text is laid out in lines. -/
theorem ruled (t : Text) : Ruled t := by
  fun_induction linesOf t with
  | case1 => exact .last .nil
  | case2 r ih => exact .more .nil .pair ih
  | case3 c r notPair hbreak ih =>
      refine .more (b := [c]) .nil (.single hbreak fun hreturn hfeed => ?_) ih
      obtain ⟨s, rfl⟩ := List.head?_eq_some_iff.mp hfeed
      exact notPair s hreturn rfl
  | case4 c r _ hbreak _ ih => exact ih.cons (Bool.eq_false_iff.mpr hbreak)
  | case5 c r _ hbreak _ _ _ ih => exact ih.cons (Bool.eq_false_iff.mpr hbreak)

/-! ## The two lists at a break -/

/-- A break of one character is no pair with what stands behind it. -/
theorem IsBreak.notPair (h : IsBreak r [c]) (s : Text) :
    c = .char '\r' → r = .char '\n' :: s → False := by
  rintro hreturn rfl
  cases h with
  | single _ whole => exact whole hreturn rfl

theorem notPair_of_onLine (h : isLineBreak c = false) (r s : Text) :
    c = .char '\r' → r = .char '\n' :: s → False := by
  rintro rfl
  cases h

theorem linesOf_break (h : IsBreak r b) : linesOf (b ++ r) = [] :: linesOf r := by
  cases h with
  | pair => exact linesOf.eq_2 r
  | single ends whole =>
      rw [List.singleton_append, linesOf, if_pos ends]
      exact (IsBreak.single ends whole).notPair

theorem linesOf_unbroken {first : Text} {more : List Text} (h : Unbroken l)
    (ht : linesOf t = first :: more) : linesOf (l ++ t) = (l ++ first) :: more := by
  induction l with
  | nil => exact ht
  | cons c l ih =>
      obtain ⟨hc, hl⟩ := List.forall_mem_cons.mp h
      rw [List.cons_append, linesOf, hc, ih hl]
      · rfl
      · exact notPair_of_onLine hc _

theorem linesOf_last (h : Unbroken l) : linesOf l = [l] := by
  have hlines := linesOf_unbroken h linesOf.eq_1
  rwa [List.append_nil] at hlines

theorem linesOf_more (h : Unbroken l) (hb : IsBreak r b) :
    linesOf (l ++ (b ++ r)) = l :: linesOf r := by
  rw [linesOf_unbroken h (linesOf_break hb), List.append_nil]

theorem breakEnds_break (h : IsBreak r b) (i : Nat) :
    breakEnds i (b ++ r) = (i + b.length) :: breakEnds (i + b.length) r := by
  cases h with
  | pair => exact breakEnds.eq_2 i r
  | single ends whole =>
      rw [List.singleton_append, breakEnds, if_pos ends]
      · rfl
      · exact (IsBreak.single ends whole).notPair

theorem breakEnds_unbroken (h : Unbroken l) (i : Nat) (t : Text) :
    breakEnds i (l ++ t) = breakEnds (i + l.length) t := by
  induction l generalizing i with
  | nil => rfl
  | cons c l ih =>
      obtain ⟨hc, hl⟩ := List.forall_mem_cons.mp h
      rw [List.cons_append, breakEnds, hc, ih hl, List.length_cons, Nat.add_right_comm,
        Nat.add_assoc]
      · rfl
      · exact notPair_of_onLine hc _

theorem breakEnds_last (h : Unbroken l) (i : Nat) : breakEnds i l = [] := by
  have hends := breakEnds_unbroken h i []
  rwa [List.append_nil] at hends

theorem breakEnds_more (h : Unbroken l) (hb : IsBreak r b) (i : Nat) :
    breakEnds i (l ++ (b ++ r)) =
      (i + (l ++ b).length) :: breakEnds (i + (l ++ b).length) r := by
  rw [breakEnds_unbroken h, breakEnds_break hb, List.length_append, Nat.add_assoc]

theorem breakEnds_eq_map (i : Nat) (t : Text) : breakEnds i t = (breakEnds 0 t).map (i + ·) := by
  induction ruled t generalizing i with
  | last unbroken => rw [breakEnds_last unbroken, breakEnds_last unbroken, List.map_nil]
  | @more l b r unbroken isBreak _ ih =>
      rw [breakEnds_more unbroken isBreak, breakEnds_more unbroken isBreak, Nat.zero_add,
        ih (i + _), ih (l ++ b).length, List.map_cons, List.map_map]
      simp only [Function.comp_def, Nat.add_assoc]

theorem lineStarts_last (h : Unbroken l) : lineStarts l = [0] := by
  rw [lineStarts, breakEnds_last h]

/-- Behind a break the lines start where they start in what stands behind it, moved by as much as
stands in front. -/
theorem lineStarts_more (h : Unbroken l) (hb : IsBreak r b) :
    lineStarts (l ++ (b ++ r)) = 0 :: (lineStarts r).map ((l ++ b).length + ·) := by
  rw [lineStarts, breakEnds_more h hb, Nat.zero_add, breakEnds_eq_map, lineStarts, List.map_cons,
    Nat.add_zero]

theorem length_lineStarts_more (h : Unbroken l) (hb : IsBreak r b) :
    (lineStarts (l ++ (b ++ r))).length = (lineStarts r).length + 1 := by
  rw [lineStarts_more h hb, List.length_cons, List.length_map]

theorem length_linesOf (t : Text) : (linesOf t).length = (lineStarts t).length := by
  induction ruled t with
  | last unbroken => rw [linesOf_last unbroken, lineStarts_last unbroken]; rfl
  | more unbroken isBreak _ ih =>
      rw [linesOf_more unbroken isBreak, List.length_cons, ih,
        length_lineStarts_more unbroken isBreak]

theorem lineStarts_ascending (t : Text) : (lineStarts t).Pairwise (· < ·) := by
  induction ruled t with
  | last unbroken =>
      rw [lineStarts_last unbroken]
      exact List.pairwise_singleton _ _
  | more unbroken isBreak _ ih =>
      have hpos := isBreak.length_pos
      rw [lineStarts_more unbroken isBreak]
      refine List.pairwise_cons.mpr ⟨fun s hs => ?_, List.pairwise_map.mpr (ih.imp fun h => ?_)⟩
      · obtain ⟨s', -, rfl⟩ := List.mem_map.mp hs
        rw [List.length_append]
        omega
      · exact Nat.add_lt_add_left h _

theorem unbroken_of_mem_linesOf (t : Text) : ∀ l ∈ linesOf t, Unbroken l := by
  induction ruled t with
  | last unbroken =>
      rw [linesOf_last unbroken]
      exact List.forall_mem_singleton.mpr unbroken
  | more unbroken isBreak _ ih =>
      rw [linesOf_more unbroken isBreak]
      exact List.forall_mem_cons.mpr ⟨unbroken, ih⟩

/-! ## Lines by their numbers -/

theorem lineText_succ (t : Text) (k : Nat) : lineText t (k + 1) = ((linesOf t)[k]?).getD [] :=
  if_neg (Nat.succ_ne_zero k)

theorem lineText_unbroken (t : Text) (line : Nat) : Unbroken (lineText t line) := by
  cases line with
  | zero => exact .nil
  | succ k =>
      rw [lineText_succ]
      cases hline : (linesOf t)[k]? with
      | none => exact .nil
      | some l => exact unbroken_of_mem_linesOf t l (List.mem_of_getElem? hline)

/-- Where a line starts; the end of the text behind the last line. -/
def startOfLine (t : Text) (line : Nat) : Nat := ((lineStarts t)[line - 1]?).getD t.length

/-- A line with its break: what stands from its start to that of the next one. -/
def wholeLine (t : Text) (line : Nat) : Text :=
  t.slice (startOfLine t line) (startOfLine t (line + 1))

/-- The break of a line: what stands on it behind its text. -/
def breakOfLine (t : Text) (line : Nat) : Text :=
  (wholeLine t line).drop (lineText t line).length

theorem startOfLine_one (t : Text) : startOfLine t 1 = 0 := rfl

theorem startOfLine_more (h : Unbroken l) (hb : IsBreak r b) (k : Nat) :
    startOfLine (l ++ (b ++ r)) (k + 2) = (l ++ b).length + startOfLine r (k + 1) := by
  have hnext : (lineStarts (l ++ (b ++ r)))[k + 1]? =
      (lineStarts r)[k]?.map ((l ++ b).length + ·) := by
    rw [lineStarts_more h hb, List.getElem?_cons_succ, List.getElem?_map]
  have hlength : (l ++ (b ++ r)).length = (l ++ b).length + r.length := by
    rw [← List.append_assoc, List.length_append]
  calc startOfLine (l ++ (b ++ r)) (k + 2)
      = ((lineStarts r)[k]?.map ((l ++ b).length + ·)).getD ((l ++ b).length + r.length) := by
        rw [← hnext, ← hlength]
        rfl
    _ = (l ++ b).length + startOfLine r (k + 1) := Option.getD_map ..

theorem lineText_more (h : Unbroken l) (hb : IsBreak r b) (k : Nat) :
    lineText (l ++ (b ++ r)) (k + 2) = lineText r (k + 1) := by
  rw [lineText_succ, lineText_succ, linesOf_more h hb, List.getElem?_cons_succ]

theorem wholeLine_last (h : Unbroken l) : wholeLine l 1 = l := by
  have hstop : startOfLine l 2 = l.length := by
    rw [startOfLine, lineStarts_last h]
    rfl
  rw [wholeLine, startOfLine_one, hstop]
  exact List.take_length

theorem wholeLine_first (h : Unbroken l) (hb : IsBreak r b) :
    wholeLine (l ++ (b ++ r)) 1 = l ++ b := by
  rw [wholeLine, startOfLine_more h hb, startOfLine_one, startOfLine_one, ← List.append_assoc]
  exact List.take_left

theorem wholeLine_more (h : Unbroken l) (hb : IsBreak r b) (k : Nat) :
    wholeLine (l ++ (b ++ r)) (k + 2) = wholeLine r (k + 1) := by
  rw [wholeLine, startOfLine_more h hb, startOfLine_more h hb, ← List.append_assoc, Text.slice,
    List.drop_length_add_append, Nat.add_sub_add_left, wholeLine, Text.slice]

/-- A text is its lines with their breaks. -/
theorem flatMap_wholeLine (t : Text) :
    ((List.range (lineStarts t).length).flatMap fun k => wholeLine t (k + 1)) = t := by
  induction ruled t with
  | last unbroken =>
      rw [lineStarts_last unbroken]
      exact (List.append_nil _).trans (wholeLine_last unbroken)
  | @more l b r unbroken isBreak _ ih =>
      rw [length_lineStarts_more unbroken isBreak, List.range_succ_eq_map, List.flatMap_cons,
        wholeLine_first unbroken isBreak, List.flatMap_map]
      simp only [Nat.succ_eq_add_one, wholeLine_more unbroken isBreak, ih, List.append_assoc]

/-- Behind the text of a line stands its break, and behind that of the last line nothing. -/
theorem exists_break (t : Text) {k : Nat} (h : k < (lineStarts t).length) :
    ∃ b, wholeLine t (k + 1) = lineText t (k + 1) ++ b ∧
      (k + 1 < (lineStarts t).length → IsBreak (t.drop (startOfLine t (k + 2))) b) ∧
      ((lineStarts t).length = k + 1 → b = []) := by
  induction ruled t generalizing k with
  | last unbroken =>
      rw [lineStarts_last unbroken] at h ⊢
      obtain rfl : k = 0 := Nat.lt_one_iff.mp h
      rw [wholeLine_last unbroken, lineText_succ, linesOf_last unbroken]
      exact ⟨[], (List.append_nil _).symm, fun hlt => absurd hlt (Nat.lt_irrefl _), fun _ => rfl⟩
  | @more l b r unbroken isBreak _ ih =>
      rw [length_lineStarts_more unbroken isBreak] at h ⊢
      rw [startOfLine_more unbroken isBreak, ← List.append_assoc, List.drop_length_add_append,
        List.append_assoc]
      cases k with
      | zero =>
          have hmore : 0 < (lineStarts r).length := Nat.succ_pos _
          refine ⟨b, ?_, fun _ => isBreak, fun hone => by omega⟩
          rw [wholeLine_first unbroken isBreak, lineText_succ, linesOf_more unbroken isBreak]
          rfl
      | succ k =>
          obtain ⟨b', hline, hbreak, hlast⟩ := ih (Nat.lt_of_succ_lt_succ h)
          rw [wholeLine_more unbroken isBreak, lineText_more unbroken isBreak]
          exact ⟨b', hline, fun hlt => hbreak (Nat.lt_of_succ_lt_succ hlt),
            fun hone => hlast (Nat.succ.inj hone)⟩

theorem wholeLine_eq (t : Text) {line : Nat} (h : 0 < line) (h' : line ≤ (lineStarts t).length) :
    wholeLine t line = lineText t line ++ breakOfLine t line := by
  obtain ⟨k, rfl⟩ := Nat.exists_eq_succ_of_ne_zero (Nat.ne_of_gt h)
  obtain ⟨b, hline, -, -⟩ := exists_break t h'
  rw [breakOfLine, hline, List.drop_left]

theorem isBreak_breakOfLine (t : Text) {line : Nat} (h : 0 < line)
    (h' : line < (lineStarts t).length) :
    IsBreak (t.drop (startOfLine t (line + 1))) (breakOfLine t line) := by
  obtain ⟨k, rfl⟩ := Nat.exists_eq_succ_of_ne_zero (Nat.ne_of_gt h)
  obtain ⟨b, hline, hbreak, -⟩ := exists_break t (Nat.lt_of_succ_lt h')
  rw [breakOfLine, hline, List.drop_left]
  exact hbreak h'

theorem breakOfLine_last (t : Text) : breakOfLine t (lineStarts t).length = [] := by
  obtain ⟨b, hline, -, hlast⟩ := exists_break t (Nat.lt_succ_self (breakEnds 0 t).length)
  show (wholeLine t ((breakEnds 0 t).length + 1)).drop _ = []
  rw [hline]
  exact List.drop_left.trans (hlast rfl)

/-- The text of a line is the line without the breaking characters at its end. -/
theorem dropEndWhile_wholeLine (t : Text) {line : Nat} (h : 0 < line)
    (h' : line ≤ (lineStarts t).length) :
    Text.dropEndWhile isLineBreak (wholeLine t line) = lineText t line := by
  have hbreak : ∀ c ∈ (breakOfLine t line).reverse, isLineBreak c = true := by
    intro c hc
    rcases Nat.lt_or_eq_of_le h' with hlt | rfl
    · exact (isBreak_breakOfLine t h hlt).forall_isLineBreak c (List.mem_reverse.mp hc)
    · rw [breakOfLine_last] at hc
      cases hc
  -- only the break is dropped, for no character of the text ends a line
  have hline : (lineText t line).reverse.dropWhile isLineBreak = (lineText t line).reverse := by
    refine List.dropWhile_eq_self_iff.mpr fun hlength => ?_
    rw [lineText_unbroken t line _ (List.mem_reverse.mp (List.getElem_mem hlength))]
    exact Bool.false_ne_true
  rw [wholeLine_eq t h h', Text.dropEndWhile, List.reverse_append,
    List.dropWhile_append_of_pos hbreak, hline, List.reverse_reverse]

theorem lineText_eq (t : Text) (line : Nat) :
    lineText t line = if 0 < line ∧ line ≤ (lineStarts t).length then
      Text.dropEndWhile isLineBreak (wholeLine t line) else [] := by
  split
  · next h => exact (dropEndWhile_wholeLine t h.1 h.2).symm
  · next h =>
      cases line with
      | zero => rfl
      | succ k =>
          have hnone : (linesOf t)[k]? = none := by
            rw [List.getElem?_eq_none_iff, length_linesOf]
            omega
          rw [lineText_succ, hnone]
          rfl

/-! ## The line of an offset -/

theorem narrowed_lineOfOffset (t : Text) (o : Nat) :
    Narrowed (lineStarts t) o (lineOfOffset t o) (lineOfOffset t o) := by
  have h := narrowed_insertionPoint (lineStarts_ascending t) (.whole (lineStarts t) o)
  rwa [← h.countP_eq] at h

theorem lineOfOffset_eq_insertionPoint (t : Text) (o : Nat) :
    lineOfOffset t o = insertionPoint (lineStarts t) o 0 (lineStarts t).length :=
  (narrowed_insertionPoint (lineStarts_ascending t) (.whole _ o)).countP_eq

theorem lineOfOffset_pos (t : Text) (o : Nat) : 0 < lineOfOffset t o :=
  List.countP_pos_iff.mpr ⟨0, List.mem_cons_self, decide_eq_true (Nat.zero_le o)⟩

theorem exists_start_le (t : Text) (o : Nat) :
    ∃ start, (lineStarts t)[lineOfOffset t o - 1]? = some start ∧ start ≤ o := by
  have h := narrowed_lineOfOffset t o
  have hpos := lineOfOffset_pos t o
  have hlt : lineOfOffset t o - 1 < (lineStarts t).length := by
    have := h.inside
    omega
  refine ⟨_, List.getElem?_eq_getElem hlt, h.below _ ?_⟩
  exact List.mem_take_iff_getElem.mpr ⟨lineOfOffset t o - 1, by omega, rfl⟩

theorem lt_next_start {t : Text} {o next : Nat}
    (h : (lineStarts t)[lineOfOffset t o]? = some next) : o < next := by
  refine (narrowed_lineOfOffset t o).above next (List.mem_of_getElem? (i := 0) ?_)
  rw [List.getElem?_drop]
  exact h

/-- The lines of a script. They start at ascending offsets, the first one at zero. An offset is on
the last line that starts at it or in front of it, which a search by halves finds. The text of a
line is free of all characters that break lines; it is the line less such characters at its end, and
there is none for a number without a line. The text of the script is its lines, each with its break
behind it, where a carriage return with its line feed is one break and the last line has none. -/
theorem numbered_lines (t : Text) :
    ((lineStarts t).head? = some 0 ∧ (lineStarts t).Pairwise (· < ·)) ∧
    (∀ o, (∃ start, 0 < lineOfOffset t o ∧
        (lineStarts t)[lineOfOffset t o - 1]? = some start ∧ start ≤ o) ∧
      (∀ next, (lineStarts t)[lineOfOffset t o]? = some next → o < next) ∧
      lineOfOffset t o = insertionPoint (lineStarts t) o 0 (lineStarts t).length) ∧
    (∀ line, (∀ c ∈ lineText t line,
        c ≠ .char '\r' ∧ c ≠ .char '\n' ∧ c ≠ .char '\u2028' ∧ c ≠ .char '\u2029') ∧
      lineText t line = if 0 < line ∧ line ≤ (lineStarts t).length then
        Text.dropEndWhile isLineBreak (t.slice (startOfLine t line) (startOfLine t (line + 1)))
        else []) ∧
    t = ((List.range (lineStarts t).length).flatMap fun k =>
      lineText t (k + 1) ++ breakOfLine t (k + 1)) ∧
    (∀ line, 0 < line → line < (lineStarts t).length →
      IsBreak (t.drop (startOfLine t (line + 1))) (breakOfLine t line)) ∧
    breakOfLine t (lineStarts t).length = [] := by
  refine ⟨⟨rfl, lineStarts_ascending t⟩, fun o => ⟨?_, fun _ => lt_next_start,
    lineOfOffset_eq_insertionPoint t o⟩, fun line => ⟨fun c hc => ?_, lineText_eq t line⟩, ?_,
    fun line => isBreak_breakOfLine t, breakOfLine_last t⟩
  · obtain ⟨start, hstart, hle⟩ := exists_start_le t o
    exact ⟨start, lineOfOffset_pos t o, hstart, hle⟩
  · have honLine := lineText_unbroken t line c hc
    refine ⟨?_, ?_, ?_, ?_⟩ <;> (rintro rfl; cases honLine)
  · have hlines : ∀ k ∈ List.range (lineStarts t).length,
        wholeLine t (k + 1) = lineText t (k + 1) ++ breakOfLine t (k + 1) := fun k hk =>
      wholeLine_eq t (Nat.succ_pos k) (List.mem_range.mp hk)
    rw [← List.flatMap_congr hlines, flatMap_wholeLine]

/-! Lines that end in all the ways there are, some of them with nothing on them. -/

namespace Numbered

def text : Text := "a\r\n\n\rb\u2028\u2029"

end Numbered

/-- The offset between a carriage return and its line feed is on the line that the two of them end;
the line feed behind them ends the next one. -/
theorem numbered_lines_mixed :
    (lineStarts Numbered.text)[lineOfOffset Numbered.text 2]? = some 3 ∧ 2 < 3 ∧
      IsBreak (Numbered.text.drop 3) "\r\n" ∧ IsBreak (Numbered.text.drop 4) "\n" := by
  obtain ⟨-, hoffsets, -, -, hbreaks, -⟩ := numbered_lines Numbered.text
  have hnext : (lineStarts Numbered.text)[lineOfOffset Numbered.text 2]? = some 3 := rfl
  exact ⟨hnext, (hoffsets 2).2.1 3 hnext, hbreaks 1 (by decide) (by decide),
    hbreaks 2 (by decide) (by decide)⟩

end Readiness.Script
