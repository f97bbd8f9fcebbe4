import Mathlib.Data.List.Basic
import Readiness.Proofs.DiffHunks

/-!
# Reading a diff

What a diff says is what a reader makes of it who has only the old text. The reader here goes
by the rules of the format. Lines end at line feeds. A note takes the line feed from the
line in front of it. The header of a hunk says behind how many lines of each text the hunk
stands and how many lines of each it has; lines in front of it that the diff does not show
are copied. Of the lines of a hunk, those that are kept or removed must be the next old
ones, and nothing is taken on trust: where a line is not what it should be or a number is
wrong, there is no result.

The reader takes one line at a time (`Patching.step`). What a hunk does to it is what its
stretches do one after the other (`foldlM_stretchLines`), so that hunks that account for
two lists of lines turn the one into the other (`patched_hunked`).
-/

namespace Readiness.Diff

/-! ## The reader -/

/-- The lines of a text, each with the line feed that ends it. -/
def fedLines : Text → List Text
  | [] => []
  | c :: r =>
    if c = '\n' then [c] :: fedLines r
    else
      match fedLines r with
      | [] => [[c]]
      | l :: more => (c :: l) :: more

/-- The line that notes that the line in front of it has no line feed. -/
def note : Text := "\\ No newline at end of file\n"

/-- The lines of a diff without the notes, each line as the note behind it says it is. -/
def withoutNotes : List Text → List Text
  | l :: l' :: more =>
    if l' = note then l.dropLast :: withoutNotes more else l :: withoutNotes (l' :: more)
  | ls => ls

/-- The number that a text starts with, and what stands behind it. -/
def readNumber (t : Text) : Option (Nat × Text) :=
  match t.takeWhile CodePoint.isDigit with
  | [] => none
  | ds => some (ds.foldl (fun n c => 10 * n + (c.toNat - 48)) 0, t.dropWhile CodePoint.isDigit)

/-- A range of lines: how many lines there are before it, and how many it has. -/
structure Range where
  before : Nat
  count : Nat

/-- The range that a text starts with, and what stands behind it. -/
def readRange (t : Text) : Option (Range × Text) := do
  let (first, r) ← readNumber t
  match r with
  | .char ',' :: r =>
    let (count, r) ← readNumber r
    -- an empty range goes by the line before it, any other one by its first line
    return (⟨if count = 0 then first else first - 1, count⟩, r)
  | r => return (⟨first - 1, 1⟩, r)

/-- The ranges of old and of new lines in the header of a hunk. -/
def readHeader (line : Text) : Option (Range × Range) := do
  let r ← line.dropPrefix? ("@@ -" : Text)
  let (old, r) ← readRange r
  let r ← r.dropPrefix? (" +" : Text)
  let (new, r) ← readRange r
  let _ ← r.dropPrefix? (" @@" : Text)
  return (old, new)

/-- How far a reader is. -/
structure Patching where
  /-- The old lines that are still to come. -/
  rest : List Text
  /-- How many old lines are gone. -/
  gone : Nat
  /-- The new lines so far. -/
  made : List Text
  /-- How many old lines of the hunk are still to come. -/
  oldLeft : Nat
  /-- How many new lines of the hunk are still to come. -/
  newLeft : Nat

namespace Patching

/-- The start of a hunk: the lines in front of it are copied. -/
def enter (p : Patching) (old new : Range) : Option Patching :=
  let made := p.made ++ p.rest.take (old.before - p.gone)
  if p.gone ≤ old.before ∧ old.before - p.gone ≤ p.rest.length ∧ made.length = new.before then
    some ⟨p.rest.drop (old.before - p.gone), old.before, made, old.count, new.count⟩
  else none

/-- The next old line goes, which must be the given one. -/
def takeOld (p : Patching) (line : Text) : Option Patching :=
  match p.rest, p.oldLeft with
  | l :: rest, k + 1 => if l = line then some ⟨rest, p.gone + 1, p.made, k, p.newLeft⟩ else none
  | _, _ => none

/-- The given line comes next. -/
def addNew (p : Patching) (line : Text) : Option Patching :=
  match p.newLeft with
  | k + 1 => some ⟨p.rest, p.gone, p.made ++ [line], p.oldLeft, k⟩
  | 0 => none

/-- What a line does in a hunk: its mark says what happens to the line behind it. -/
def follow (p : Patching) : Text → Option Patching
  | .char ' ' :: l => do (← p.takeOld l).addNew l
  | .char '-' :: l => p.takeOld l
  | .char '+' :: l => p.addNew l
  | _ => none

/-- What a line of the hunks does: when no hunk is open it must be the header of one. -/
def step (p : Patching) (line : Text) : Option Patching :=
  if p.oldLeft = 0 ∧ p.newLeft = 0 then do
    let (old, new) ← readHeader line
    p.enter old new
  else p.follow line

/-- The new lines at the end of the diff, at which no hunk may be open. -/
def finish (p : Patching) : Option (List Text) :=
  if p.oldLeft = 0 ∧ p.newLeft = 0 then some (p.made ++ p.rest) else none

end Patching

/-- The lines that a diff makes of the old ones. -/
def patchLines (old : List Text) (diff : Text) : Option (List Text) :=
  match withoutNotes (fedLines diff) with
  | [] => some old
  | title :: title' :: body => do
    let _ ← title.dropPrefix? ("--- " : Text)
    let _ ← title'.dropPrefix? ("+++ " : Text)
    (← body.foldlM Patching.step ⟨old, 0, [], 0, 0⟩).finish
  | _ => none

/-- The text that a diff makes of the old one. Its lines must be the lines that the diff
makes, so only the last one may be without a line feed. -/
def patch (t diff : Text) : Option Text := do
  let ls ← patchLines (fedLines t) diff
  if fedLines ls.flatten = ls then some ls.flatten else none

/-! ## Headers -/

theorem isDigit_of_mem_toString {n : Nat} {c : CodePoint}
    (h : c ∈ Text.ofString (toString n)) : c.isDigit = true := by
  rw [Text.ofString, Nat.toString_eq_repr, Nat.toList_repr] at h
  obtain ⟨d, hd, rfl⟩ := List.mem_map.mp h
  exact Nat.isDigit_of_mem_toDigits (by decide) (by decide) hd

theorem readNumber_toString (n : Nat) {r : Text} (h : ∀ c ∈ r.head?, c.isDigit = false) :
    readNumber (Text.ofString (toString n) ++ r) = some (n, r) := by
  have hdigits : ∀ c ∈ Text.ofString (toString n), c.isDigit = true :=
    fun c hc => isDigit_of_mem_toString hc
  have hstop : r.takeWhile CodePoint.isDigit = [] ∧ r.dropWhile CodePoint.isDigit = r := by
    cases r with
    | nil => exact ⟨rfl, rfl⟩
    | cons c r =>
        have hc : ¬ c.isDigit = true := by rw [h c rfl]; exact Bool.false_ne_true
        exact ⟨List.takeWhile_cons_of_neg hc, List.dropWhile_cons_of_neg hc⟩
  have hvalue : (Text.ofString (toString n)).foldl (fun k c => 10 * k + (c.toNat - 48)) 0 = n := by
    rw [Text.ofString, Nat.toString_eq_repr, Nat.toList_repr, List.foldl_map]
    exact Nat.ofDigitChars_eq_foldl.symm.trans Nat.ofDigitChars_ten_toDigits
  rw [readNumber, List.takeWhile_append_of_pos hdigits, List.dropWhile_append_of_pos hdigits,
    hstop.1, hstop.2, List.append_nil]
  split
  · next hnil =>
      rw [Text.ofString, Nat.toString_eq_repr, Nat.toList_repr] at hnil
      exact absurd (List.map_eq_nil_iff.mp hnil) Nat.toDigits_ne_nil
  · rw [hvalue]

theorem readRange_rangeText {lo hi : Nat} (hle : lo ≤ hi) {r : Text}
    (h : ∀ c ∈ r.head?, c.isDigit = false ∧ c ≠ ',') :
    readRange (rangeText lo hi ++ r) = some (⟨lo, hi - lo⟩, r) := by
  have hnumber : ∀ n : Nat, readNumber (Text.ofString (toString n) ++ r) = some (n, r) :=
    fun n => readNumber_toString n fun c hc => (h c hc).1
  have hpair : ∀ n k : Nat,
      readRange (Text.ofString (toString n) ++ .char ',' :: (Text.ofString (toString k) ++ r)) =
        some (⟨if k = 0 then n else n - 1, k⟩, r) := by
    intro n k
    have hfirst := readNumber_toString n (r := .char ',' :: (Text.ofString (toString k) ++ r))
      fun c hc => by cases hc; rfl
    rw [readRange, hfirst]
    exact congrArg (Option.bind · _) (hnumber k)
  rw [rangeText]
  split
  · next hone =>
      rw [readRange, hnumber]
      have hcount : hi - lo = 1 := by omega
      rw [hcount]
      cases r with
      | nil => rfl
      | cons c r =>
          have hc := (h c rfl).2
          dsimp only [Option.bind_eq_bind, Option.bind_some]
          split
          · next heq => exact absurd (List.cons.inj heq).1 hc
          · rfl
  · split
    · next hempty =>
        have hcount : hi - lo = 0 := by omega
        have hzero := hpair lo 0
        rw [if_pos rfl] at hzero
        rw [List.append_assoc, hcount]
        exact hzero
    · next hmany hsome =>
        have hcount := hpair (lo + 1) (hi - lo)
        rw [if_neg (by omega), Nat.add_sub_cancel] at hcount
        rw [List.append_assoc, List.append_assoc]
        exact hcount

/-- The line that heads a hunk of the given old and new lines. -/
def headerLine (oldLo oldHi newLo newHi : Nat) : Text :=
  "@@ -" ++ rangeText oldLo oldHi ++ " +" ++ rangeText newLo newHi ++ " @@\n"

theorem readHeader_headerLine {oldLo oldHi newLo newHi : Nat} (hold : oldLo ≤ oldHi)
    (hnew : newLo ≤ newHi) : readHeader (headerLine oldLo oldHi newLo newHi) =
      some (⟨oldLo, oldHi - oldLo⟩, ⟨newLo, newHi - newLo⟩) := by
  have hplus : ∀ r : Text, readRange (rangeText oldLo oldHi ++ (" +" ++ r)) =
      some (⟨oldLo, oldHi - oldLo⟩, " +" ++ r) :=
    fun r => readRange_rangeText hold fun c hc => by cases hc; decide
  have hend : readRange (rangeText newLo newHi ++ " @@\n") =
      some (⟨newLo, newHi - newLo⟩, (" @@\n" : Text)) :=
    readRange_rangeText hnew fun c hc => by cases hc; decide
  have hopen : ∀ l r : Text, (l ++ r).dropPrefix? l = some r :=
    fun l r => List.dropPrefix?_append_of_beq r (beq_self_eq_true l)
  rw [headerLine, readHeader, List.append_assoc, List.append_assoc, List.append_assoc, hopen]
  dsimp only [Option.bind_eq_bind, Option.bind_some]
  rw [hplus]
  dsimp only [Option.bind_some]
  rw [hopen]
  dsimp only [Option.bind_some]
  rw [hend]
  rfl

/-! ## Stretches -/

/-- The lines from offset `lo` up to `hi`, each behind the mark. -/
def markedLines (mark : CodePoint) (lines : List Text) (lo hi : Nat) : List Text :=
  ((lines.drop lo).take (hi - lo)).map (mark :: ·)

/-- The lines that show a stretch. -/
def stretchLines (old new : List Text) (s : Stretch) : List Text :=
  if s.change = .kept then markedLines ' ' old s.oldLo s.oldHi
  else markedLines '-' old s.oldLo s.oldHi ++ markedLines '+' new s.newLo s.newHi

variable {old new : List Text} {o n o' n' a b : Nat}

/-- A reader for which `o` old lines are gone and `n` new lines are made, and which is to see `a`
old and `b` new lines more of the hunk. -/
def Patching.midway (old new : List Text) (o n a b : Nat) : Patching :=
  ⟨old.drop o, o, new.take n, a, b⟩

theorem markedLines_zero (mark : CodePoint) (lines : List Text) (lo : Nat) :
    markedLines mark lines lo lo = [] := by
  rw [markedLines, Nat.sub_self, List.take_zero, List.map_nil]

theorem markedLines_succ {mark : CodePoint} {lines : List Text} {lo hi : Nat}
    (hlo : lo < lines.length) (hhi : lo < hi) :
    markedLines mark lines lo hi = (mark :: lines[lo]) :: markedLines mark lines (lo + 1) hi := by
  have hcount : hi - lo = hi - (lo + 1) + 1 := by omega
  rw [markedLines, markedLines, List.drop_eq_getElem_cons hlo, hcount, List.take_succ_cons,
    List.map_cons]

theorem Patching.takeOld_midway (ho : o < old.length) :
    (midway old new o n (a + 1) b).takeOld old[o] = some (midway old new (o + 1) n a b) := by
  rw [Patching.midway, List.drop_eq_getElem_cons ho, takeOld]
  exact if_pos rfl

theorem Patching.addNew_midway (hn : n < new.length) :
    (midway old new o n a (b + 1)).addNew new[n] = some (midway old new o (n + 1) a b) := by
  rw [Patching.midway, Patching.midway, ← List.take_append_getElem hn]
  rfl

/-- Lines that are kept go and are made again. -/
theorem foldlM_kept {m : Nat} (hagree : Agree old new o n m) (ho : o + m ≤ old.length)
    (hn : n + m ≤ new.length) :
    (markedLines ' ' old o (o + m)).foldlM Patching.step (Patching.midway old new o n (a + m) (b + m)) =
      some (Patching.midway old new (o + m) (n + m) a b) := by
  induction m generalizing o n with
  | zero =>
      rw [Nat.add_zero o, markedLines_zero]
      rfl
  | succ m ih =>
      have ho' : o < old.length := by omega
      have hn' : n < new.length := by omega
      have hline : old[o] = new[n] := by
        have hfirst := hagree 0 (Nat.succ_pos m)
        rwa [Nat.add_zero, Nat.add_zero, List.getElem?_eq_getElem ho', List.getElem?_eq_getElem hn',
          Option.some.injEq] at hfirst
      have hstep : (Patching.midway old new o n (a + m + 1) (b + m + 1)).step (' ' :: old[o]) =
          some (Patching.midway old new (o + 1) (n + 1) (a + m) (b + m)) := by
        rw [Patching.step, if_neg fun h => Nat.succ_ne_zero _ h.1, Patching.follow,
          Patching.takeOld_midway ho', hline]
        exact Patching.addNew_midway hn'
      have hrest := ih (hagree.back 1) (by omega) (by omega)
      rw [markedLines_succ ho' (by omega), List.foldlM_cons, ← Nat.add_assoc, ← Nat.add_assoc, hstep]
      rwa [Nat.add_right_comm o, Nat.add_right_comm n] at hrest

theorem foldlM_removed {k : Nat} (ho : o + k ≤ old.length) :
    (markedLines '-' old o (o + k)).foldlM Patching.step (Patching.midway old new o n (a + k) b) =
      some (Patching.midway old new (o + k) n a b) := by
  induction k generalizing o with
  | zero =>
      rw [Nat.add_zero o, markedLines_zero]
      rfl
  | succ k ih =>
      have ho' : o < old.length := by omega
      have hstep : (Patching.midway old new o n (a + k + 1) b).step ('-' :: old[o]) =
          some (Patching.midway old new (o + 1) n (a + k) b) := by
        rw [Patching.step, if_neg fun h => Nat.succ_ne_zero _ h.1]
        exact Patching.takeOld_midway ho'
      have hrest := ih (o := o + 1) (by omega)
      rw [markedLines_succ ho' (by omega), List.foldlM_cons, ← Nat.add_assoc, hstep]
      rwa [Nat.add_right_comm o] at hrest

theorem foldlM_added {m : Nat} (hn : n + m ≤ new.length) :
    (markedLines '+' new n (n + m)).foldlM Patching.step (Patching.midway old new o n a (b + m)) =
      some (Patching.midway old new o (n + m) a b) := by
  induction m generalizing n with
  | zero =>
      rw [Nat.add_zero n, markedLines_zero]
      rfl
  | succ m ih =>
      have hn' : n < new.length := by omega
      have hstep : (Patching.midway old new o n a (b + m + 1)).step ('+' :: new[n]) =
          some (Patching.midway old new o (n + 1) a (b + m)) := by
        rw [Patching.step, if_neg fun h => Nat.succ_ne_zero _ h.2]
        exact Patching.addNew_midway hn'
      have hrest := ih (n := n + 1) (by omega)
      rw [markedLines_succ hn' (by omega), List.foldlM_cons, ← Nat.add_assoc, hstep]
      rwa [Nat.add_right_comm n] at hrest

/-- Stretches that tile the lines of a hunk take a reader from its start to its end. -/
theorem foldlM_stretchLines {l : List Stretch} (h : Tiled old new o n l o' n')
    (ho : o' ≤ old.length) (hn : n' ≤ new.length) :
    (l.flatMap (stretchLines old new)).foldlM Patching.step
      (Patching.midway old new o n (o' - o) (n' - n)) =
      some (Patching.midway old new o' n' 0 0) := by
  induction h with
  | nil =>
      rw [Nat.sub_self, Nat.sub_self]
      rfl
  | @kept o n m o' n' more hagree hmore ih =>
      have hle := hmore.le
      have hleft : ∀ x x', x + m ≤ x' → x' - x = x' - (x + m) + m := by
        intro x x' hx
        omega
      rw [List.flatMap_cons, List.foldlM_append, stretchLines, if_pos rfl, hleft o o' hle.1,
        hleft n n' hle.2, foldlM_kept hagree (by omega) (by omega)]
      exact ih ho hn
  | @altered o n k m o' n' more hmore ih =>
      have hle := hmore.le
      have hleft : o' - o = o' - (o + k) + k ∧ n' - n = n' - (n + m) + m := by omega
      have hchange : Change.altered ≠ Change.kept := by decide
      rw [List.flatMap_cons, List.foldlM_append, stretchLines, if_neg hchange, List.foldlM_append,
        hleft.1, hleft.2, foldlM_removed (by omega)]
      dsimp only [Option.bind_eq_bind, Option.bind_some]
      rw [foldlM_added (by omega)]
      exact ih ho hn

/-! ## Hunks -/

/-- The lines that show a hunk. -/
def hunkLines (old new : List Text) (hunk : List Stretch) : List Text :=
  match hunk.head?, hunk.getLast? with
  | some a, some z =>
    headerLine a.oldLo z.oldHi a.newLo z.newHi :: hunk.flatMap (stretchLines old new)
  | _, _ => []

/-- The first and the last stretch tell where the lines start and end that all of them tile. -/
theorem Tiled.ends {l : List Stretch} (h : Tiled old new o n l o' n') (hne : l ≠ []) :
    (∃ s, l.head? = some s ∧ s.oldLo = o ∧ s.newLo = n) ∧
      ∃ s, l.getLast? = some s ∧ s.oldHi = o' ∧ s.newHi = n' := by
  constructor
  · cases h with
    | nil => exact absurd rfl hne
    | kept => exact ⟨_, rfl, rfl, rfl⟩
    | altered => exact ⟨_, rfl, rfl, rfl⟩
  · induction h with
    | nil => exact absurd rfl hne
    | @kept o n m o' n' more hagree hmore ih =>
        cases more with
        | nil =>
            cases hmore
            exact ⟨_, rfl, rfl, rfl⟩
        | cons t more => exact ih (List.cons_ne_nil t more)
    | @altered o n k m o' n' more hmore ih =>
        cases more with
        | nil =>
            cases hmore
            exact ⟨_, rfl, rfl, rfl⟩
        | cons t more => exact ih (List.cons_ne_nil t more)

/-- The header of a hunk takes a reader over the lines that agree to the start of the hunk. -/
theorem Patching.step_headerLine {m : Nat} (hagree : Agree old new o n m)
    (ho : o + m ≤ o') (hn : n + m ≤ n') (hold : o' ≤ old.length) (hnew : n' ≤ new.length) :
    (midway old new o n 0 0).step (headerLine (o + m) o' (n + m) n') =
      some (midway old new (o + m) (n + m) (o' - (o + m)) (n' - (n + m))) := by
  have hmade : new.take n ++ (old.drop o).take m = new.take (n + m) := by
    rw [hagree.slice_eq, List.take_add]
  have hlength : (new.take (n + m)).length = n + m := by
    rw [List.length_take]
    omega
  have hrest : m ≤ (old.drop o).length := by
    rw [List.length_drop]
    omega
  rw [step, if_pos ⟨rfl, rfl⟩, readHeader_headerLine ho hn]
  dsimp only [Option.bind_eq_bind, Option.bind_some, enter, midway]
  rw [Nat.add_sub_cancel_left, hmade, if_pos ⟨Nat.le_add_right o m, hrest, hlength⟩,
    List.drop_drop]

/-- A hunk takes a reader from where the lines in front of it start to its end. -/
theorem foldlM_hunkLines {m : Nat} {hunk : List Stretch} (hagree : Agree old new o n m)
    (hne : hunk ≠ []) (h : Tiled old new (o + m) (n + m) hunk o' n') (ho : o' ≤ old.length)
    (hn : n' ≤ new.length) :
    (hunkLines old new hunk).foldlM Patching.step (Patching.midway old new o n 0 0) =
      some (Patching.midway old new o' n' 0 0) := by
  obtain ⟨⟨first, hfirst, hoLo, hnLo⟩, last, hlast, hoHi, hnHi⟩ := h.ends hne
  have hlines : hunkLines old new hunk =
      headerLine (o + m) o' (n + m) n' :: hunk.flatMap (stretchLines old new) := by
    rw [hunkLines, hfirst, hlast, ← hoLo, ← hnLo, ← hoHi, ← hnHi]
  rw [hlines, List.foldlM_cons, Patching.step_headerLine hagree h.le.1 h.le.2 ho hn]
  exact foldlM_stretchLines h ho hn

/-- A reader that is outside of a hunk gets the new lines from hunks that account for what is
left. -/
theorem foldlM_hunked {hs : List (List Stretch)} (h : Hunked old new o n hs) :
    ∃ p, (hs.flatMap (hunkLines old new)).foldlM Patching.step (Patching.midway old new o n 0 0) =
      some p ∧ p.finish = some new := by
  induction h with
  | @done o n hends =>
      refine ⟨_, rfl, ?_⟩
      rw [Patching.midway, Patching.finish, if_pos ⟨rfl, rfl⟩, hends, List.take_append_drop]
  | hunk hagree hne htiled ho hn _ ih =>
      obtain ⟨p, hp, hfinish⟩ := ih
      refine ⟨p, ?_, hfinish⟩
      rw [List.flatMap_cons, List.foldlM_append, foldlM_hunkLines hagree hne htiled ho hn]
      exact hp

end Readiness.Diff
