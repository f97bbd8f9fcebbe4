import Readiness.Proofs.WrappedLiterals

/-!
# The lines of a wrapped body

Wrapping a body moves its lines, and what is on them is not meant to change. It empties
lines of blanks and leaves some of them out, and so the lines to compare are those
that hold something, without the blanks at their ends (`solidLines`). Of these no line
is lost, none is written twice, and they stay in order (`wrapping_lines`).

The lines of the new text are its pieces between line feeds, and for that to be the lines
that were put together no line may have a line feed inside. Those of the body have none,
because the body was split at its line feeds. The lines around it are made up from the
indentation, which is spaces and tabs, and from the name of the function, which is
written as a literal with its line feeds escaped.
-/

namespace Readiness

namespace Script

/-- A line feed is escaped in a literal, and no other character is written as one. -/
theorem feed_not_mem_requoteChar (quote c : CodePoint) : CodePoint.char '\n' ∉ requoteChar quote c := by
  intro h
  rw [requoteChar] at h
  repeat' split at h
  all_goals simp_all [Text.ofString]

theorem feed_not_mem_requote {quote : CodePoint} (apart : quote ≠ .char '\n') (t : Text) :
    CodePoint.char '\n' ∉ requote quote t := by
  intro h
  rw [requote, requoteInside, List.cons_append, List.mem_cons, List.mem_append, List.mem_flatMap,
    List.mem_singleton] at h
  rcases h with h | ⟨c, -, h⟩ | h
  · exact apart h.symm
  · exact feed_not_mem_requoteChar quote c h
  · exact apart h.symm

end Script

namespace Rejection

open Script Text

/-! ## Lines that hold something -/

/-- The lines that hold more than blanks, without the blanks at their ends. -/
def solidLines (lines : List Text) : List Text := (lines.map trim).filter (!·.isEmpty)

variable {line written : Text} {more rest lines : List Text}

theorem isBlankLine_iff : isBlankLine line = true ↔ trim line = [] := by
  rw [isBlankLine, List.all_eq_true, trim_eq_nil]

theorem solidLines_blank (h : isBlankLine line = true) :
    solidLines (line :: more) = solidLines more := by
  simp [solidLines, isBlankLine_iff.mp h]

/-- Lines that are trimmed to the same text count as the same line. -/
theorem solidLines_congr (same : trim written = trim line)
    (h : solidLines rest = solidLines more) :
    solidLines (written :: rest) = solidLines (line :: more) := by
  simp only [solidLines] at h
  simp only [solidLines, List.map_cons, List.filter_cons, same, h]

example : solidLines ["  a;", "", " \t", "b  c "] = ([("a;" : Text), "b  c"] : List Text) := by
  decide

variable {outer unit : Text}

/-- Moving lines in changes none that holds something. The induction goes along the lines, for
whatever number and offset the first of them has: what is done with a line depends on
both, but every way to write it leaves what is trimmed of it. -/
theorem solidLines_indentedLines (outerBlank : ∀ c ∈ outer, isBlank c = true)
    (unitBlank : ∀ c ∈ unit, isBlank c = true) (spans : List (Nat × Nat)) (number offset : Nat)
    (lines : List Text) :
    solidLines (indentedLines outer unit spans number offset lines) = solidLines lines := by
  induction lines generalizing number offset with
  | nil => rfl
  | cons line more ih =>
      rw [indentedLines]
      cases hline : isBlankLine line with
      | true =>
          rw [solidLines_blank hline, if_pos rfl]
          split
          · rw [solidLines_blank rfl, ih]
          · exact ih _ _
      | false =>
          rw [if_neg Bool.false_ne_true]
          split
          · exact solidLines_congr rfl (ih _ _)
          · split
            · refine solidLines_congr ?_ (ih _ _)
              rw [List.append_assoc, List.append_assoc, trim_indented outerBlank,
                trim_indented unitBlank, trim_indented unitBlank, trim_trim]
            · exact solidLines_congr (trim_indented unitBlank line) (ih _ _)

/-! ## Lines without line feeds -/

theorem feed_not_mem_indent {t : Text} (h : ∀ c ∈ t, c = .char ' ' ∨ c = .char '\t') :
    CodePoint.char '\n' ∉ t := by
  intro hmem
  rcases h _ hmem with heq | heq <;> cases heq

theorem mem_of_mem_trim {t : Text} {c : CodePoint} (h : c ∈ trim t) : c ∈ t := by
  have hfront := (dropEndWhile_isPrefix isBlank (t.dropWhile isBlank)).subset h
  exact (List.dropWhile_suffix isBlank).subset hfront

theorem feed_not_mem_indentedLines (outerApart : CodePoint.char '\n' ∉ outer)
    (unitApart : CodePoint.char '\n' ∉ unit) (spans : List (Nat × Nat)) (number offset : Nat)
    (apart : ∀ line ∈ lines, CodePoint.char '\n' ∉ line) :
    ∀ line ∈ indentedLines outer unit spans number offset lines, CodePoint.char '\n' ∉ line := by
  induction lines generalizing number offset with
  | nil =>
      intro line h
      cases h
  | cons line more ih =>
      have hline := apart line List.mem_cons_self
      have hmore := ih (number + 1) (offset + line.length + 1)
        fun l hl => apart l (List.mem_cons_of_mem line hl)
      have htrimmed : CodePoint.char '\n' ∉ trim line := fun h => hline (mem_of_mem_trim h)
      rw [indentedLines]
      split
      · split
        · exact List.forall_mem_cons.mpr ⟨List.not_mem_nil, hmore⟩
        · exact hmore
      · split
        · exact List.forall_mem_cons.mpr ⟨hline, hmore⟩
        · split
          · refine List.forall_mem_cons.mpr ⟨?_, hmore⟩
            simp only [List.mem_append, not_or]
            exact ⟨⟨⟨outerApart, unitApart⟩, unitApart⟩, htrimmed⟩
          · refine List.forall_mem_cons.mpr ⟨?_, hmore⟩
            rw [List.mem_append, not_or]
            exact ⟨unitApart, hline⟩

theorem feed_not_mem_catchLines (name : Text) (payment : Bool) :
    ∀ line ∈ catchLines name payment, CodePoint.char '\n' ∉ line := by
  have hquoted : ∀ t, CodePoint.char '\n' ∉ requote '\'' t := fun t =>
    feed_not_mem_requote (by decide) t
  have hreport : ∀ t, CodePoint.char '\n' ∉
      (loggerExpression ++ ".error(" ++ requote '\'' t ++ ", error);" : Text) := by
    intro t h
    simp only [List.mem_append] at h
    rcases h with ((h | h) | h) | h
    · revert h
      decide
    · revert h
      decide
    · exact hquoted t h
    · revert h
      decide
  intro line h
  rw [catchLines] at h
  cases payment with
  | true =>
      rcases List.mem_cons.mp h with rfl | h
      · exact hreport _
      · rw [List.mem_singleton.mp h]
        decide
  | false =>
      rcases List.mem_cons.mp h with rfl | h
      · exact hreport _
      · rw [List.mem_singleton.mp h]
        decide

/-! ## The lines of the new text -/

variable {s : Script} {block : Place}

theorem feed_not_mem_outerIndent (n : Node) : CodePoint.char '\n' ∉ outerIndent s n :=
  feed_not_mem_indent fun _ h => mem_indentOfLine h

theorem feed_not_mem_indentUnit (n : Node) (base : Text) :
    CodePoint.char '\n' ∉ indentUnit s n base :=
  feed_not_mem_indent (indentUnit_ne_nil s n base).2

/-- The lines of the body where they stand in the new text. -/
def movedLines (s : Script) (block : Place) : List Text :=
  indentedLines (outerIndent s block.node) (indentUnit s block.node (outerIndent s block.node))
    (templateSpans block) 0 (block.node.start + 1) (innerLines s block.node)

theorem feed_not_mem_movedLines : ∀ line ∈ movedLines s block, CodePoint.char '\n' ∉ line :=
  feed_not_mem_indentedLines (feed_not_mem_outerIndent _) (feed_not_mem_indentUnit _ _) _ _ _
    fun _ => not_mem_splitLineFeeds

theorem solidLines_movedLines (s : Script) (block : Place) :
    solidLines (movedLines s block) = solidLines (innerLines s block.node) :=
  solidLines_indentedLines (fun _ h => isBlank_of_indent (mem_indentOfLine h))
    (indentUnit_blank s block.node _).2 _ _ _ _

theorem feed_not_mem_openingLines :
    ∀ line ∈ openingLines s block.node, CodePoint.char '\n' ∉ line := by
  rw [openingLines]
  refine List.forall_mem_cons.mpr ⟨by decide, List.forall_mem_singleton.mpr ?_⟩
  simp only [List.mem_append, not_or]
  exact ⟨⟨feed_not_mem_outerIndent _, feed_not_mem_indentUnit _ _⟩, by decide⟩

theorem feed_not_mem_closingLines (name : Text) (payment : Bool) :
    ∀ line ∈ closingLines s block.node name payment, CodePoint.char '\n' ∉ line := by
  have houter := feed_not_mem_outerIndent (s := s) block.node
  have hunit := feed_not_mem_indentUnit (s := s) block.node (outerIndent s block.node)
  intro line h
  rw [closingLines, List.cons_append, List.mem_cons, List.mem_append, List.mem_map, List.mem_pair]
    at h
  rcases h with rfl | ⟨l, hl, rfl⟩ | rfl | rfl
  all_goals simp only [List.mem_append, not_or]
  · exact ⟨⟨houter, hunit⟩, by decide⟩
  · exact ⟨⟨⟨houter, hunit⟩, hunit⟩, feed_not_mem_catchLines name payment l hl⟩
  · exact ⟨⟨houter, hunit⟩, by decide⟩
  · exact ⟨houter, by decide⟩

/-- The lines of the text that a block is replaced with are those that were put together. -/
theorem splitLineFeeds_wrappedBlock (name : Text) (payment : Bool) :
    splitLineFeeds (wrappedBlock s block name payment) =
      openingLines s block.node ++ movedLines s block ++ closingLines s block.node name payment := by
  have hjoin : wrappedBlock s block name payment = join "\n"
      (openingLines s block.node ++ movedLines s block ++ closingLines s block.node name payment) := by
    rw [wrappedBlock, tryLines, closingLines, List.append_assoc, List.append_assoc]
    rfl
  rw [hjoin]
  refine splitLineFeeds_join (List.cons_ne_nil _ _) fun line h => ?_
  rcases List.mem_append.mp h with h | h
  · rcases List.mem_append.mp h with h | h
    · exact feed_not_mem_openingLines line h
    · exact feed_not_mem_movedLines line h
  · exact feed_not_mem_closingLines name payment line h

/-- A body with braces is replaced by a text whose lines between the one that opens the `try` and
the one that opens the `catch` hold what the lines of the body hold, in the same order. -/
theorem wrapping_lines {f : Place} (body : f.child? .body = some block)
    (isBlock : block.node.kind = .block) (name : Text) (payment : Bool) :
    ∃ replacement inside,
      wrapping s f name payment =
        (Edit.ofRange block.node.start block.node.stop replacement).mapError .badRange ∧
      splitLineFeeds replacement =
        openingLines s block.node ++ inside ++ closingLines s block.node name payment ∧
      solidLines inside = solidLines (innerLines s block.node) := by
  refine ⟨wrappedBlock s block name payment, movedLines s block, ?_,
    splitLineFeeds_wrappedBlock name payment, solidLines_movedLines s block⟩
  rw [wrapping, body]
  dsimp only [Place.kind]
  rw [isBlock]

/-- The body of `Quiet.text` with its template over two lines. -/
theorem wrapping_lines_sample :
    ∃ s f block replacement inside, Script.parse Quiet.text = .ok (.ok s) ∧ f ∈ s.places ∧
      f.node.isAsync = true ∧ f.child? .body = some block ∧ block.node.kind = .block ∧
      wrapping s f "f" true =
        (Edit.ofRange block.node.start block.node.stop replacement).mapError .badRange ∧
      splitLineFeeds replacement =
        openingLines s block.node ++ inside ++ closingLines s block.node "f" true ∧
      solidLines inside = solidLines (innerLines s block.node) := by
  obtain ⟨hread, f, hf, hfacts⟩ := Quiet.text_facts
  obtain ⟨-, hasync, block, hbody, hblock, -⟩ := body_of_hasBody hfacts
  obtain ⟨replacement, inside, hwrapped⟩ := wrapping_lines hbody hblock "f" true
  exact ⟨_, f, block, replacement, inside, Script.parse_of_isRead hread, hf, hasync, hbody, hblock,
    hwrapped⟩

end Rejection

end Readiness
