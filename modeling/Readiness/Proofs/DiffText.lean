import Readiness.Proofs.PatchReading

/-!
# Diffs that apply

A diff is put together from the lines that its two texts have by one rule: a line ends at a
line feed, at a carriage return, and at eight more characters. It is read by another: a line ends
at a line feed. So a note that a line feed is missing may stand in the middle of a text, behind a
line that ends at one of the others, and a reader then takes the line for the last one.

A reader who goes by the lines of the diff still gets the new text from the old one, for each
line is followed by a line feed that is its own or that a note takes back. And where both rules
cut both texts into the same lines, nothing else is needed (`unified_applies`).
-/

namespace Readiness.Diff

/-! ## Lines that line feeds end -/

/-- A line feed stands at the end of the line or nowhere in it. -/
def IsLine (line : Text) : Prop := CodePoint.char '\n' ∉ line.dropLast

instance (line : Text) : Decidable (IsLine line) :=
  inferInstanceAs (Decidable (CodePoint.char '\n' ∉ line.dropLast))

theorem isLine_cons {c : CodePoint} {line : Text} (hc : c ≠ '\n') (h : IsLine line) :
    IsLine (c :: line) := by
  cases line with
  | nil => exact List.not_mem_nil
  | cons d line =>
      rw [IsLine, List.dropLast_cons_cons, List.mem_cons, not_or]
      exact ⟨fun heq => hc heq.symm, h⟩

theorem isLine_append {t line : Text} (ht : CodePoint.char '\n' ∉ t) (h : IsLine line) :
    IsLine (t ++ line) := by
  induction t with
  | nil => exact h
  | cons c t ih =>
      rw [List.mem_cons, not_or] at ht
      exact isLine_cons (fun heq => ht.1 heq.symm) (ih ht.2)

theorem fedLines_append {t : Text} (h : CodePoint.char '\n' ∉ t) (r : Text) :
    fedLines (t ++ .char '\n' :: r) = (t ++ [CodePoint.char '\n']) :: fedLines r := by
  induction t with
  | nil =>
      rw [List.nil_append, fedLines, if_pos rfl]
      rfl
  | cons c t ih =>
      rw [List.mem_cons, not_or] at h
      rw [List.cons_append, fedLines, if_neg fun heq => h.1 heq.symm, ih h.2]
      rfl

theorem fed_of_mem_dropLast {t line : Text} (h : line ∈ (fedLines t).dropLast) :
    line.getLast? = some (.char '\n') := by
  induction t generalizing line with
  | nil => exact absurd h List.not_mem_nil
  | cons c r ih =>
      rw [fedLines] at h
      split at h
      · next hc =>
          cases hr : fedLines r with
          | nil =>
              rw [hr] at h
              exact absurd h List.not_mem_nil
          | cons l more =>
              rw [hr] at h ih
              rcases List.mem_cons.mp h with rfl | h
              · rw [hc]
                rfl
              · exact ih h
      · cases hr : fedLines r with
        | nil =>
            rw [hr] at h
            exact absurd h List.not_mem_nil
        | cons l more =>
            rw [hr] at h ih
            cases more with
            | nil => exact absurd h List.not_mem_nil
            | cons l' more =>
                rcases List.mem_cons.mp h with rfl | h
                · rw [List.getLast?_cons, ih List.mem_cons_self]
                  rfl
                · exact ih (List.mem_cons_of_mem l h)

/-- A line of a text without its line feed is the last one. -/
theorem getLast?_of_unfed {t line : Text} (hmem : line ∈ fedLines t)
    (h : line.getLast? ≠ some (.char '\n')) : (fedLines t).getLast? = some line := by
  cases hlast : (fedLines t).getLast? with
  | none =>
      rw [List.getLast?_eq_none_iff.mp hlast] at hmem
      exact absurd hmem List.not_mem_nil
  | some l =>
      rw [← List.dropLast_append_getLast? l hlast, List.mem_append, List.mem_singleton] at hmem
      rcases hmem with hmem | rfl
      · exact absurd (fed_of_mem_dropLast hmem) h
      · rfl

/-! ## The lines of a text for a diff -/

/-- Both rules cut the text into the same lines. -/
def EndsAtFeeds (t : Text) : Prop := t.linesWithEnds = fedLines t

/-- No character ends a line of the text but the line feed. -/
theorem endsAtFeeds_of_feeds {t : Text} (h : ∀ c ∈ t, isLineEnd c = true → c = '\n') :
    EndsAtFeeds t := by
  rw [EndsAtFeeds]
  fun_induction Text.linesWithEnds t with
  | case1 => rfl
  | case2 r _ => exact absurd (h '\r' List.mem_cons_self (by decide)) (by decide)
  | case3 c r _ hc ih =>
      rw [fedLines, if_pos (h c List.mem_cons_self hc), ih fun d hd => h d (List.mem_cons_of_mem c hd)]
  | case4 c r _ hc hr ih =>
      have hfeed : c ≠ '\n' := by
        rintro rfl
        exact hc rfl
      rw [fedLines, if_neg hfeed, ← ih fun d hd => h d (List.mem_cons_of_mem c hd), hr]
  | case5 c r _ hc l more hr ih =>
      have hfeed : c ≠ '\n' := by
        rintro rfl
        exact hc rfl
      rw [fedLines, if_neg hfeed, ← ih fun d hd => h d (List.mem_cons_of_mem c hd), hr]

theorem flatten_linesWithEnds (t : Text) : t.linesWithEnds.flatten = t := by
  fun_induction Text.linesWithEnds t with
  | case1 => rfl
  | case2 r ih =>
      rw [List.flatten_cons, ih]
      rfl
  | case3 c r _ _ ih =>
      rw [List.flatten_cons, ih]
      rfl
  | case4 c r _ _ hr ih =>
      rw [hr] at ih
      rw [← ih]
      rfl
  | case5 c r _ _ l more hr ih =>
      rw [hr] at ih
      rw [← ih]
      rfl

theorem isLine_of_mem_linesWithEnds {t line : Text} (h : line ∈ t.linesWithEnds) :
    IsLine line := by
  fun_induction Text.linesWithEnds t generalizing line with
  | case1 => exact absurd h List.not_mem_nil
  | case2 r ih =>
      rcases List.mem_cons.mp h with rfl | h
      · rw [IsLine]
        decide
      · exact ih h
  | case3 c r _ _ ih =>
      rcases List.mem_cons.mp h with rfl | h
      · exact List.not_mem_nil
      · exact ih h
  | case4 c r _ _ hr ih =>
      rw [List.mem_singleton.mp h]
      exact List.not_mem_nil
  | case5 c r _ hc l more hr ih =>
      rw [hr] at ih
      rcases List.mem_cons.mp h with rfl | h
      · refine isLine_cons ?_ (ih List.mem_cons_self)
        rintro rfl
        exact hc rfl
      · exact ih (List.mem_cons_of_mem l h)

/-! ## The lines of a diff -/

/-- The lines of the diff of two lists of lines. -/
def diffLines (file : Text) (old new : List Text) : List Text :=
  match hunks old new with
  | [] => []
  | hs => ("--- " ++ file ++ "\tbefore\n") :: ("+++ " ++ file ++ "\tafter\n") ::
      hs.flatMap (hunkLines old new)

variable {old new : List Text}

theorem shown_of_fed {line : Text} (h : line.getLast? = some (.char '\n')) : shown line = line := if_pos h

theorem headerLine_fed (oldLo oldHi newLo newHi : Nat) :
    (headerLine oldLo oldHi newLo newHi).getLast? = some (.char '\n') := by
  rw [headerLine, List.getLast?_append]
  rfl

theorem title_fed (front file : Text) {back : Text} (h : back.getLast? = some (.char '\n')) :
    (front ++ file ++ back).getLast? = some (.char '\n') := by
  rw [List.getLast?_append, h]
  rfl

theorem marked_eq (mark : CodePoint) (lines : List Text) (lo hi : Nat) :
    marked mark lines lo hi = (markedLines mark lines lo hi).flatMap shown := by
  rw [marked, markedLines, List.flatMap_map]

theorem hunkText_eq (old new : List Text) (hunk : List Stretch) :
    hunkText old new hunk = (hunkLines old new hunk).flatMap shown := by
  rw [hunkText, hunkLines]
  cases hunk.head? with
  | none => rfl
  | some first =>
      cases hunk.getLast? with
      | none => rfl
      | some last =>
          dsimp only
          rw [List.flatMap_cons, shown_of_fed (headerLine_fed _ _ _ _), headerLine,
            List.flatMap_assoc]
          refine congrArg _ (List.flatMap_congr fun s _ => ?_)
          rw [stretchLines]
          split
          · exact marked_eq _ _ _ _
          · rw [List.flatMap_append, marked_eq, marked_eq]

theorem unified_eq (file before after : Text) : unified file before after =
    (diffLines file before.linesWithEnds after.linesWithEnds).flatMap shown := by
  rw [unified, diffLines]
  cases hunks before.linesWithEnds after.linesWithEnds with
  | nil => rfl
  | cons hunk more =>
      dsimp only
      generalize hunk :: more = hs
      rw [List.flatMap_cons, List.flatMap_cons, shown_of_fed (title_fed _ file rfl),
        shown_of_fed (title_fed _ file rfl), List.flatMap_assoc]
      simp only [← hunkText_eq, List.append_assoc]

/-! ## What the diff shows -/

/-- What a line of a diff is: a line that tells of the texts or of a hunk, which has its line feed,
or a line of one of the texts behind its mark. -/
inductive Shown (old new : List Text) : Text → Prop where
  | head {mark : CodePoint} {line : Text} : line.head? = some mark → mark ≠ '\\' →
      IsLine line → line.getLast? = some (.char '\n') → Shown old new line
  | old {mark : CodePoint} {line : Text} : mark = ' ' ∨ mark = '-' → line ∈ old →
      Shown old new (mark :: line)
  | new {line : Text} : line ∈ new → Shown old new ('+' :: line)

theorem not_mem_rangeText (lo hi : Nat) : CodePoint.char '\n' ∉ rangeText lo hi := by
  have hnumber : ∀ n : Nat, CodePoint.char '\n' ∉ Text.ofString (toString n) :=
    fun n h => absurd (isDigit_of_mem_toString h) (by decide)
  rw [rangeText]
  split
  · exact hnumber _
  · split
    · rw [List.mem_append, not_or]
      exact ⟨hnumber _, by decide⟩
    · rw [List.mem_append, List.mem_append, not_or, not_or]
      exact ⟨⟨hnumber _, by decide⟩, hnumber _⟩

theorem isLine_headerLine (oldLo oldHi newLo newHi : Nat) :
    IsLine (headerLine oldLo oldHi newLo newHi) := by
  have hend : IsLine " @@\n" := by decide
  refine isLine_append ?_ hend
  simp only [List.mem_append, not_or]
  exact ⟨⟨⟨by decide, not_mem_rangeText _ _⟩, by decide⟩, not_mem_rangeText _ _⟩

theorem shown_of_mem_stretchLines {s : Stretch} {line : Text} (h : line ∈ stretchLines old new s) :
    Shown old new line := by
  have hmem : ∀ {mark : CodePoint} {lines : List Text} {lo hi : Nat},
      line ∈ markedLines mark lines lo hi → ∃ l ∈ lines, mark :: l = line := by
    intro mark lines lo hi h
    obtain ⟨l, hl, heq⟩ := List.mem_map.mp h
    exact ⟨l, List.mem_of_mem_drop (List.mem_of_mem_take hl), heq⟩
  rw [stretchLines] at h
  split at h
  · obtain ⟨l, hl, rfl⟩ := hmem h
    exact .old (.inl rfl) hl
  · rcases List.mem_append.mp h with h | h
    · obtain ⟨l, hl, rfl⟩ := hmem h
      exact .old (.inr rfl) hl
    · obtain ⟨l, hl, rfl⟩ := hmem h
      exact .new hl

theorem shown_of_mem_hunkLines {hunk : List Stretch} {line : Text}
    (h : line ∈ hunkLines old new hunk) : Shown old new line := by
  rw [hunkLines] at h
  split at h
  · rcases List.mem_cons.mp h with rfl | h
    · exact .head rfl (by decide) (isLine_headerLine _ _ _ _) (headerLine_fed _ _ _ _)
    · obtain ⟨s, -, h⟩ := List.mem_flatMap.mp h
      exact shown_of_mem_stretchLines h
  · exact absurd h List.not_mem_nil

theorem shown_of_mem_diffLines {file line : Text} (named : CodePoint.char '\n' ∉ file)
    (h : line ∈ diffLines file old new) : Shown old new line := by
  have htitle : ∀ {front back : Text}, CodePoint.char '\n' ∉ front → IsLine back →
      IsLine (front ++ file ++ back) := by
    intro front back hfront hback
    refine isLine_append ?_ hback
    rw [List.mem_append, not_or]
    exact ⟨hfront, named⟩
  rw [diffLines] at h
  split at h
  · exact absurd h List.not_mem_nil
  · rcases List.mem_cons.mp h with rfl | h
    · exact .head rfl (by decide) (htitle (by decide) (by decide)) (title_fed _ file rfl)
    · rcases List.mem_cons.mp h with rfl | h
      · exact .head rfl (by decide) (htitle (by decide) (by decide)) (title_fed _ file rfl)
      · obtain ⟨hunk, -, h⟩ := List.mem_flatMap.mp h
        exact shown_of_mem_hunkLines h

theorem Shown.isLine {line : Text} (h : Shown old new line) (hold : ∀ l ∈ old, IsLine l)
    (hnew : ∀ l ∈ new, IsLine l) : IsLine line := by
  cases h with
  | head _ _ h _ => exact h
  | old hmark hmem =>
      rcases hmark with rfl | rfl
      · exact isLine_cons (by decide) (hold _ hmem)
      · exact isLine_cons (by decide) (hold _ hmem)
  | new hmem => exact isLine_cons (by decide) (hnew _ hmem)

theorem Shown.head_ne {line : Text} (h : Shown old new line) :
    ∃ mark, line.head? = some mark ∧ mark ≠ '\\' := by
  cases h with
  | head hhead hmark _ _ => exact ⟨_, hhead, hmark⟩
  | old hmark _ =>
      rcases hmark with rfl | rfl
      · exact ⟨_, rfl, by decide⟩
      · exact ⟨_, rfl, by decide⟩
  | new _ => exact ⟨_, rfl, by decide⟩

/-- A shown line without a line feed is a line of one of the texts. -/
theorem Shown.unfed {line : Text} (h : Shown old new line)
    (hunfed : line.getLast? ≠ some (.char '\n')) : ∃ mark content, line = mark :: content ∧
      content.getLast? ≠ some (.char '\n') ∧
      ((mark = ' ' ∨ mark = '-') ∧ content ∈ old ∨ mark = '+' ∧ content ∈ new) := by
  have hcontent : ∀ {mark : CodePoint} {content : Text},
      (mark :: content).getLast? ≠ some (.char '\n') → content.getLast? ≠ some (.char '\n') := by
    intro mark content h heq
    rw [List.getLast?_cons, heq] at h
    exact h rfl
  cases h with
  | head _ _ _ hfed => exact absurd hfed hunfed
  | old hmark hmem => exact ⟨_, _, rfl, hcontent hunfed, .inl ⟨hmark, hmem⟩⟩
  | new hmem => exact ⟨_, _, rfl, hcontent hunfed, .inr ⟨rfl, hmem⟩⟩

/-! ## Notes -/

/-- A line as it is written: with the note behind it if it has no line feed. -/
def noted (line : Text) : List Text :=
  if line.getLast? = some (.char '\n') then [line] else [line ++ [.char '\n'], note]

theorem not_mem_of_unfed {line : Text} (h : IsLine line)
    (hunfed : line.getLast? ≠ some (.char '\n')) : CodePoint.char '\n' ∉ line := by
  intro hmem
  cases hlast : line.getLast? with
  | none =>
      rw [List.getLast?_eq_none_iff.mp hlast] at hmem
      exact List.not_mem_nil hmem
  | some c =>
      rw [← List.dropLast_append_getLast? c hlast, List.mem_append, List.mem_singleton] at hmem
      rcases hmem with hmem | rfl
      · exact h hmem
      · exact hunfed hlast

theorem shown_of_unfed {line : Text} (h : line.getLast? ≠ some (.char '\n')) :
    shown line = line ++ .char '\n' :: note := if_neg h

theorem fedLines_note (r : Text) : fedLines (note ++ r) = note :: fedLines r := by
  obtain ⟨t, ht, hnote⟩ : ∃ t, CodePoint.char '\n' ∉ t ∧ note = t ++ [CodePoint.char '\n'] :=
    ⟨note.dropLast, by decide, by decide⟩
  rw [hnote, List.append_assoc]
  exact fedLines_append ht r

/-- What is written is read as the same lines, with the notes among them. -/
theorem fedLines_shown {xs : List Text} (h : ∀ x ∈ xs, IsLine x) :
    fedLines (xs.flatMap shown) = xs.flatMap noted := by
  induction xs with
  | nil => rfl
  | cons x xs ih =>
      have hx : IsLine x := h x List.mem_cons_self
      have hrest := ih fun y hy => h y (List.mem_cons_of_mem x hy)
      rw [List.flatMap_cons, List.flatMap_cons, ← hrest]
      by_cases hfed : x.getLast? = some (.char '\n')
      · rw [shown_of_fed hfed, noted, if_pos hfed]
        obtain ⟨t, rfl⟩ := List.getLast?_eq_some_iff.mp hfed
        rw [IsLine, List.dropLast_concat] at hx
        rw [List.append_assoc]
        exact fedLines_append hx _
      · rw [shown_of_unfed hfed, noted, if_neg hfed, List.append_assoc, List.cons_append,
          fedLines_append (not_mem_of_unfed hx hfed), fedLines_note]
        rfl

theorem head?_noted {xs : List Text} (h : ∀ x ∈ xs, ∃ mark, x.head? = some mark ∧ mark ≠ '\\') :
    (xs.flatMap noted).head? ≠ some note := by
  cases xs with
  | nil => exact fun heq => nomatch heq
  | cons x xs =>
      obtain ⟨mark, hhead, hmark⟩ := h x List.mem_cons_self
      have hne : ∀ r : Text, x ++ r ≠ note := by
        intro r heq
        have := congrArg List.head? heq
        rw [List.head?_append, hhead] at this
        exact hmark (Option.some.inj this)
      rw [List.flatMap_cons, noted]
      split
      · intro heq
        exact hne [] (by rw [List.append_nil]; exact Option.some.inj heq)
      · intro heq
        exact hne _ (Option.some.inj heq)

theorem withoutNotes_noted {xs : List Text}
    (h : ∀ x ∈ xs, ∃ mark, x.head? = some mark ∧ mark ≠ '\\') :
    withoutNotes (xs.flatMap noted) = xs := by
  induction xs with
  | nil => rfl
  | cons x xs ih =>
      have hxs : ∀ y ∈ xs, ∃ mark, y.head? = some mark ∧ mark ≠ '\\' :=
        fun y hy => h y (List.mem_cons_of_mem x hy)
      have hnext := head?_noted hxs
      rw [List.flatMap_cons, noted]
      split
      · cases hrest : xs.flatMap noted with
        | nil =>
            rw [← ih hxs, hrest]
            rfl
        | cons y more =>
            rw [hrest] at hnext
            rw [List.singleton_append, withoutNotes, if_neg fun heq => hnext (congrArg some heq),
              ← hrest, ih hxs]
      · rw [List.cons_append, List.singleton_append, withoutNotes, if_pos rfl,
          List.dropLast_concat, ih hxs]

/-- A note stands behind a line that is shown and has no line feed. -/
theorem unfed_before_note {xs front back : List Text} {line : Text}
    (h : ∀ x ∈ xs, ∃ mark, x.head? = some mark ∧ mark ≠ '\\')
    (heq : xs.flatMap noted = front ++ line :: note :: back) :
    ∃ x ∈ xs, x.getLast? ≠ some (.char '\n') ∧ line = x ++ [CodePoint.char '\n'] := by
  induction xs generalizing front with
  | nil => exact absurd heq.symm (List.append_ne_nil_of_right_ne_nil front (List.cons_ne_nil _ _))
  | cons x xs ih =>
      have hxs : ∀ y ∈ xs, ∃ mark, y.head? = some mark ∧ mark ≠ '\\' :=
        fun y hy => h y (List.mem_cons_of_mem x hy)
      have hmore : ∀ front', xs.flatMap noted = front' ++ line :: note :: back →
          ∃ y ∈ x :: xs, y.getLast? ≠ some (.char '\n') ∧ line = y ++ [CodePoint.char '\n'] := by
        intro front' heq'
        obtain ⟨y, hy, hfound⟩ := ih hxs heq'
        exact ⟨y, List.mem_cons_of_mem x hy, hfound⟩
      have hnext : ∀ r, xs.flatMap noted ≠ note :: r := by
        intro r heq'
        exact head?_noted hxs (by rw [heq']; rfl)
      rw [List.flatMap_cons, noted] at heq
      split at heq
      · cases front with
        | nil => exact absurd (List.cons.inj heq).2 (hnext _)
        | cons first front => exact hmore front (List.cons.inj heq).2
      · next hunfed =>
          match front with
          | [] => exact ⟨x, List.mem_cons_self, hunfed, (List.cons.inj heq).1.symm⟩
          | [first] => exact absurd (List.cons.inj (List.cons.inj heq).2).2 (hnext _)
          | first :: second :: front => exact hmore front (List.cons.inj (List.cons.inj heq).2).2

/-! ## Diffs that apply -/

variable {file : Text}

/-- The lines of a diff are the lines it was put together from, with the notes among them. -/
theorem fedLines_unified (named : CodePoint.char '\n' ∉ file) (before after : Text) :
    fedLines (unified file before after) =
      (diffLines file before.linesWithEnds after.linesWithEnds).flatMap noted := by
  rw [unified_eq]
  exact fedLines_shown fun x hx => (shown_of_mem_diffLines named hx).isLine
    (fun _ => isLine_of_mem_linesWithEnds) fun _ => isLine_of_mem_linesWithEnds

/-- From the old lines a reader gets the new ones, whichever characters end them. -/
theorem patchLines_unified (named : CodePoint.char '\n' ∉ file) (before after : Text) :
    patchLines before.linesWithEnds (unified file before after) = some after.linesWithEnds := by
  have hlines : withoutNotes (fedLines (unified file before after)) =
      diffLines file before.linesWithEnds after.linesWithEnds := by
    rw [fedLines_unified named]
    exact withoutNotes_noted fun x hx => (shown_of_mem_diffLines named hx).head_ne
  have htitle : ∀ front back : Text,
      (front ++ file ++ back).dropPrefix? front = some (file ++ back) := by
    intro front back
    rw [List.append_assoc]
    exact List.dropPrefix?_append_of_beq _ (beq_self_eq_true front)
  have hhunked := hunked_hunks before.linesWithEnds after.linesWithEnds
  rw [patchLines, hlines, diffLines]
  generalize hunks before.linesWithEnds after.linesWithEnds = hs at hhunked ⊢
  cases hs with
  | nil =>
      cases hhunked with
      | done hends => exact congrArg some hends
  | cons hunk more =>
      obtain ⟨p, hp, hfinish⟩ := foldlM_hunked hhunked
      rw [Patching.midway, List.drop_zero, List.take_zero] at hp
      dsimp only
      rw [htitle, htitle]
      dsimp only [Option.bind_eq_bind, Option.bind_some]
      rw [hp]
      exact hfinish

/-- Where lines end at line feeds alone, a note stands behind the last line of a text. -/
theorem getLast?_of_note {before after line : Text} {front back : List Text}
    (named : CodePoint.char '\n' ∉ file) (hbefore : EndsAtFeeds before)
    (hafter : EndsAtFeeds after)
    (h : fedLines (unified file before after) = front ++ line :: note :: back) :
    ∃ (mark : CodePoint) (content : Text), line = mark :: content ++ [CodePoint.char '\n'] ∧
      ((mark = ' ' ∨ mark = '-') ∧ (fedLines before).getLast? = some content ∨
        mark = '+' ∧ (fedLines after).getLast? = some content) := by
  rw [fedLines_unified named] at h
  obtain ⟨x, hx, hunfed, rfl⟩ :=
    unfed_before_note (fun x hx => (shown_of_mem_diffLines named hx).head_ne) h
  obtain ⟨mark, content, rfl, hcontent, hmem⟩ := (shown_of_mem_diffLines named hx).unfed hunfed
  rw [hbefore, hafter] at hmem
  refine ⟨mark, content, rfl, ?_⟩
  rcases hmem with ⟨hmark, hmem⟩ | ⟨hmark, hmem⟩
  · exact .inl ⟨hmark, getLast?_of_unfed hmem hcontent⟩
  · exact .inr ⟨hmark, getLast?_of_unfed hmem hcontent⟩

/-- A diff makes the lines of the new text from the lines of the old one. Where the lines of both
texts end at line feeds alone, it makes the new text from the old one, and each note stands behind
the last line of one of the texts. -/
theorem unified_applies (named : CodePoint.char '\n' ∉ file) (before after : Text) :
    patchLines before.linesWithEnds (unified file before after) = some after.linesWithEnds ∧
      (EndsAtFeeds before → EndsAtFeeds after →
        patch before (unified file before after) = some after ∧
        ∀ front line back, fedLines (unified file before after) = front ++ line :: note :: back →
          ∃ (mark : CodePoint) (content : Text), line = mark :: content ++ [.char '\n'] ∧
            ((mark = ' ' ∨ mark = '-') ∧ (fedLines before).getLast? = some content ∨
              mark = '+' ∧ (fedLines after).getLast? = some content)) := by
  refine ⟨patchLines_unified named before after, fun hbefore hafter => ⟨?_, ?_⟩⟩
  · have hlines := patchLines_unified named before after
    have hwhole : after.linesWithEnds.flatten = after := flatten_linesWithEnds after
    rw [hbefore] at hlines
    rw [patch, hlines]
    dsimp only [Option.bind_eq_bind, Option.bind_some]
    rw [hwhole, hafter, if_pos rfl]
  · intro front line back h
    exact getLast?_of_note named hbefore hafter h

/-- A line without a line feed at the end of both texts, and a line in front of it that changes. -/
theorem unified_applies_unfed : CodePoint.char '\n' ∉ Text.ofString "a.js" ∧
    EndsAtFeeds "a\nb" ∧ EndsAtFeeds "c\nb" ∧
    patch "a\nb" (unified "a.js" "a\nb" "c\nb") = some (Text.ofString "c\nb") := by
  have hlines : EndsAtFeeds "a\nb" ∧ EndsAtFeeds "c\nb" :=
    ⟨endsAtFeeds_of_feeds (by decide), endsAtFeeds_of_feeds (by decide)⟩
  have hfile : CodePoint.char '\n' ∉ Text.ofString "a.js" := by decide
  have happly := (unified_applies hfile "a\nb" "c\nb").2 hlines.1 hlines.2
  exact ⟨hfile, hlines.1, hlines.2, happly.1⟩

/-- Where a carriage return alone ends a line, the note stands in the middle of the texts, the header
counts a line that there is not, and the diff does not apply. -/
theorem unified_carriage_return :
    fedLines (unified "file" "a\rb\n" "c\rb\n") =
      Text.ofStrings ["--- file\tbefore\n", "+++ file\tafter\n", "@@ -1,2 +1,2 @@\n", "-a\r\n",
        "\\ No newline at end of file\n", "+c\r\n", "\\ No newline at end of file\n", " b\n"] ∧
    fedLines "a\rb\n" = Text.ofStrings ["a\rb\n"] ∧ fedLines "c\rb\n" = Text.ofStrings ["c\rb\n"] ∧
    patch "a\rb\n" (unified "file" "a\rb\n" "c\rb\n") = none := by
  decide +kernel

end Readiness.Diff
