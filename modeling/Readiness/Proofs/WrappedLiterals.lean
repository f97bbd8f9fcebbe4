import Readiness.Proofs.IndentedLines
import Readiness.Proofs.StatementTrees

/-!
# The literals of a wrapped body

When the body of a function is wrapped, its lines are moved one level in. The literals
in it stand between its braces, from their first quote to their last (`parse_isDelimited`),
and keep their order (`wrappedBlock_literals`); a literal on one line is not touched. One that runs over several lines is written as it was if every line that starts
inside it is left alone, and only then. For a template that is a matter of blank lines:
all lines inside it start inside a template, so they are kept, unless one has nothing
but blanks in it, which is emptied (`leftAlone_template`). A quoted string that is
continued over a line end has no such protection, and what it denotes changes
(`literals_changed`).
-/

namespace Readiness

namespace Text

theorem slice_eq_iff {t u : Text} {a : Nat} :
    t.slice a (a + u.length) = u ↔ u <+: t.drop a := by
  rw [slice, Nat.add_sub_cancel_left]
  refine ⟨fun h => ?_, fun h => (List.prefix_iff_eq_take.mp h).symm⟩
  rw [← h]
  exact List.take_prefix _ _

end Text

namespace Rejection

open Script Text

/-! ## The literals of a body and the lines around them -/

/-- The places of the templates and strings in a place. -/
def quotedPlaces (block : Place) : List Place :=
  block.walk.filter fun p => p.node.isTemplate || p.node.string?.isSome

/-- Whether a literal stands between the braces of a block, from its first quote to its last. -/
def isDelimited (s : Script) (block n : Node) : Bool :=
  block.start < n.start && n.stop < block.stop && n.stop ≤ s.text.length &&
    (s.textOf n).head?.any (!isBlank ·) && (s.textOf n).getLast?.any (!isBlank ·)

/-- The lines between the braces of a block. -/
def innerLines (s : Script) (block : Node) : List Text :=
  splitLineFeeds (s.text.slice (block.start + 1) (block.stop - 1))

/-- The indentation of the line that a block starts on. -/
def outerIndent (s : Script) (block : Node) : Text := indentOfLine s.text block.line

/-- The lines in front of the body of a wrapped block. -/
def openingLines (s : Script) (block : Node) : List Text :=
  ["\x7b", outerIndent s block ++ indentUnit s block (outerIndent s block) ++ "try \x7b"]

/-- The lines behind it. -/
def closingLines (s : Script) (block : Node) (name : Text) (payment : Bool) : List Text :=
  let base := outerIndent s block
  let unit := indentUnit s block base
  (base ++ unit ++ "\x7d catch (error) \x7b") ::
    (catchLines name payment).map (fun l => base ++ unit ++ unit ++ l) ++
      [base ++ unit ++ "\x7d", base ++ "\x7d"]

/-- Where an offset in a block goes when the block is wrapped. -/
def landing (s : Script) (block : Place) (x : Nat) : Nat :=
  (ended (openingLines s block.node)).length +
    landingIn (outerIndent s block.node) (indentUnit s block.node (outerIndent s block.node))
      (templateSpans block) 0 (block.node.start + 1) (innerLines s block.node) x

/-- Every line that starts inside of a node of the block is left alone, and so is the end of the
first line if it lies in the node. -/
def LeftAlone (s : Script) (block : Place) (n : Node) : Prop :=
  Undisturbed (templateSpans block) 0 (block.node.start + 1) (innerLines s block.node) n.start n.stop

variable {s : Script} {block : Place}

theorem wrappedBlock_eq (s : Script) (block : Place) (name : Text) (payment : Bool) :
    wrappedBlock s block name payment = ended (openingLines s block.node) ++
      indentedText (outerIndent s block.node) (indentUnit s block.node (outerIndent s block.node))
        (templateSpans block) 0 (block.node.start + 1) (innerLines s block.node)
        (join "\n" (closingLines s block.node name payment)) := by
  have hclosing : closingLines s block.node name payment ≠ [] := List.cons_ne_nil _ _
  rw [indentedText, ← List.append_assoc, ← ended_append, ← join_append hclosing, wrappedBlock,
    tryLines, closingLines, List.append_assoc, List.append_assoc]
  rfl

theorem mem_indentOfLine {t : Text} {line : Nat} {c : CodePoint} (h : c ∈ indentOfLine t line) :
    c = .char ' ' ∨ c = .char '\t' := by
  have hindent := List.mem_takeWhile_imp h
  rwa [Bool.or_eq_true, beq_iff_eq, beq_iff_eq] at hindent

/-- A level of indentation is made of spaces and tabs, and there is something in it. -/
theorem indentUnit_ne_nil (s : Script) (n : Node) (base : Text) :
    indentUnit s n base ≠ [] ∧ ∀ c ∈ indentUnit s n base, c = .char ' ' ∨ c = .char '\t' := by
  have hstandard : standardIndent ≠ [] ∧ ∀ c ∈ standardIndent, c = .char ' ' ∨ c = .char '\t' :=
    ⟨List.cons_ne_nil _ _, by decide⟩
  rw [indentUnit]
  split
  · exact hstandard
  · next first others =>
      dsimp only
      split
      · next hmore =>
          rw [Bool.and_eq_true, decide_eq_true_iff] at hmore
          refine ⟨fun hnil => ?_, fun c hc => mem_indentOfLine (List.mem_of_mem_drop hc)⟩
          have := List.drop_eq_nil_iff.mp hnil
          omega
      · exact hstandard

theorem isBlank_of_indent {c : CodePoint} (h : c = .char ' ' ∨ c = .char '\t') :
    isBlank c = true := by
  rcases h with rfl | rfl <;> rfl

theorem indentUnit_blank (s : Script) (n : Node) (base : Text) :
    indentUnit s n base ≠ [] ∧ ∀ c ∈ indentUnit s n base, isBlank c = true := by
  obtain ⟨hsome, hindent⟩ := indentUnit_ne_nil s n base
  exact ⟨hsome, fun c hc => isBlank_of_indent (hindent c hc)⟩

/-- A literal of a block with what stands around it between the braces. -/
theorem exists_split {n : Node} (h : isDelimited s block.node n = true) :
    ∃ w v d c, ended (innerLines s block.node) = w ++ (s.textOf n ++ v) ∧
      block.node.start + 1 + w.length = n.start ∧ (s.textOf n).length = n.stop - n.start ∧
      n.start < n.stop ∧ (s.textOf n).head? = some d ∧ isBlank d = false ∧
      (s.textOf n).getLast? = some c ∧ isBlank c = false := by
  simp only [isDelimited, Bool.and_eq_true, decide_eq_true_iff] at h
  obtain ⟨⟨⟨⟨hstart, hstop⟩, hlength⟩, hfirst⟩, hlast⟩ := h
  obtain ⟨d, hd, hdsolid⟩ := (Option.any_eq_true _ _).mp hfirst
  obtain ⟨c, hc, hcsolid⟩ := (Option.any_eq_true _ _).mp hlast
  have hcount : (s.textOf n).length = n.stop - n.start := Text.length_slice s.text hlength
  have hsome : s.textOf n ≠ [] := by
    intro hnil
    rw [hnil] at hd
    cases hd
  have hpos := List.length_pos_iff.mpr hsome
  have hsplit : s.text.slice (block.node.start + 1) (block.node.stop - 1) =
      s.text.slice (block.node.start + 1) n.start ++
        (s.textOf n ++ s.text.slice n.stop (block.node.stop - 1)) := by
    rw [Script.textOf, Text.slice_append_slice _ (by omega) (by omega),
      Text.slice_append_slice _ (by omega) (by omega)]
  refine ⟨s.text.slice (block.node.start + 1) n.start,
    s.text.slice n.stop (block.node.stop - 1) ++ [CodePoint.char '\n'], d, c, ?_, ?_, hcount,
    by omega, hd, ?_, hc, ?_⟩
  · rw [innerLines, ended_splitLineFeeds, hsplit, List.append_assoc, List.append_assoc]
  · rw [Text.length_slice s.text (by omega)]
    omega
  · rwa [Bool.not_eq_true'] at hdsolid
  · rwa [Bool.not_eq_true'] at hcsolid

/-- What becomes of the templates and strings of a block that is wrapped. Each is written as it was,
from where its first character goes on, if the lines leave it alone, and only then; and they
follow each other as they did. -/
theorem wrappedBlock_literals (name : Text) (payment : Bool)
    (delimited : ∀ p ∈ quotedPlaces block, isDelimited s block.node p.node = true) :
    (∀ p ∈ quotedPlaces block,
      (wrappedBlock s block name payment).slice (landing s block p.node.start)
          (landing s block p.node.start + (p.node.stop - p.node.start)) = s.textOf p.node ↔
        LeftAlone s block p.node) ∧
    ∀ p ∈ quotedPlaces block, ∀ q ∈ quotedPlaces block, p.node.start < q.node.start →
      landing s block p.node.start < landing s block q.node.start := by
  obtain ⟨hsome, hblank⟩ := indentUnit_blank s block.node (outerIndent s block.node)
  refine ⟨fun p hp => ?_, fun p hp q hq hlt => ?_⟩
  · obtain ⟨w, v, d, c, hsplit, hstart, hcount, hordered, hfirst, hfirstSolid, hlast, hlastSolid⟩ :=
      exists_split (delimited p hp)
    have hprefix := @prefix_landing_iff (outerIndent s block.node) _ (templateSpans block) 0
      (block.node.start + 1) _ (join "\n" (closingLines s block.node name payment)) hsome hblank
      (fun _ => not_mem_splitLineFeeds) _ _ _ _ _ hfirst hfirstSolid hlast hlastSolid hsplit
    have hstop : p.node.start + (s.textOf p.node).length = p.node.stop := by omega
    rw [hstart, hstop] at hprefix
    rw [← hcount, Text.slice_eq_iff, wrappedBlock_eq, landing, ← List.drop_drop, List.drop_left]
    exact hprefix
  · obtain ⟨w, v, d, -, hsplit, hstart, -, -, hfirst, hfirstSolid, -, -⟩ :=
      exists_split (delimited p hp)
    obtain ⟨w', v', c, -, hsplit', hstart', -, -, hsecond, hsecondSolid, -, -⟩ :=
      exists_split (delimited q hq)
    obtain ⟨t, ht⟩ := List.head?_eq_some_iff.mp hfirst
    obtain ⟨t', ht'⟩ := List.head?_eq_some_iff.mp hsecond
    rw [ht] at hsplit
    rw [ht'] at hsplit'
    have hprefix : w <+: w' := List.prefix_of_prefix_length_le ⟨_, hsplit.symm⟩ ⟨_, hsplit'.symm⟩
      (by omega)
    obtain ⟨between, rfl⟩ := hprefix
    rw [List.length_append] at hstart'
    cases between with
    | nil =>
        rw [List.length_nil] at hstart'
        omega
    | cons x m =>
        have hx := hsplit.symm.trans hsplit'
        rw [List.append_assoc, List.append_cancel_left_eq, List.cons_append, List.cons_append,
          List.cons.injEq] at hx
        rw [← hx.1, List.append_assoc, List.cons_append] at hsplit'
        have hlanding := @landingIn_lt (outerIndent s block.node)
          (indentUnit s block.node (outerIndent s block.node)) (templateSpans block) 0
          (block.node.start + 1) _ _ _ _ _ _ hfirstSolid hsecondSolid hsplit'
        have hsum : block.node.start + 1 + (w ++ d :: m).length = q.node.start := by
          rw [List.length_append, ← hstart', List.length_cons, List.length_cons]
        rw [hstart, hsum] at hlanding
        exact Nat.add_lt_add_left hlanding _

/-! ## The literals of a script that was parsed -/

section Parsed

variable {t : Text} {b e : Nat} {n : Node}

theorem delimited_of_fits (fits : n.Fits t b e)
    (literal : (n.isTemplate || n.string?.isSome) = true) :
    ∃ quote, isBlank quote = false ∧ Delimited t quote n.start n.stop := by
  rcases Bool.or_eq_true_iff.mp literal with htemplate | hstring
  · exact ⟨opener true, rfl, (fits.lies.isTemplate htemplate).delimited⟩
  · obtain ⟨v, hv⟩ := Option.isSome_iff_exists.mp hstring
    obtain ⟨quote, hquote, hdelimited⟩ := fits.quoted hv
    have hsolid : ∀ c ∈ stringQuotes, isBlank c = false := by decide
    exact ⟨quote, hsolid quote hquote, hdelimited⟩

/-- What is below a block stands between its braces. -/
theorem fits_below_block (fits : block.node.Fits t b e) (braces : block.node.kind = .block)
    {p : Place} (mem : p ∈ block.walk) :
    p = block ∨ p.node.Fits t (block.node.start + 1) (block.node.stop - 1) := by
  rcases Place.mem_walk_iff.mp mem with rfl | ⟨c, hc, hp⟩
  · exact .inl rfl
  · obtain ⟨r, hpart⟩ := Place.part_of_mem_childrenByStart hc
    exact .inr (Place.forall_mem_walk (fun _ h _ => h.part) c (fits.braced braces hpart) p hp)

/-- All literals in the body of a function of a script that was parsed stand between its braces. -/
theorem parse_isDelimited {f : Place} (parsed : Script.parse t = .ok (.ok s)) (mem : f ∈ s.places)
    (body : f.child? .body = some block) (braces : block.node.kind = .block) :
    ∀ p ∈ quotedPlaces block, isDelimited s block.node p.node = true := by
  intro p hp
  have htext := Script.text_of_parse parsed
  obtain ⟨hwalk, hliteral⟩ := List.mem_filter.mp hp
  have hblock : block.node.Fits t 0 t.length := by
    obtain ⟨r, hpart⟩ :=
      Place.part_of_mem_childrenByStart (Place.mem_childrenByStart_of_child? body)
    exact (fits_of_mem_places parsed mem).elim (·.part hpart) (·.part hpart)
  have hinside : p.node.Fits t (block.node.start + 1) (block.node.stop - 1) := by
    refine (fits_below_block hblock braces hwalk).resolve_left ?_
    rintro rfl
    rw [Node.isTemplate, Node.string?, braces] at hliteral
    cases hliteral
  obtain ⟨quote, hsolid, hlt, hwithin, hfirst, hlast⟩ := delimited_of_fits hinside hliteral
  obtain ⟨hstart, hstop⟩ := hinside.covers hlt
  have hbound := (hblock.covers (by omega)).2
  replace hlast := hlast.resolve_right (by omega)
  have hlength : (t.slice p.node.start p.node.stop).length = p.node.stop - p.node.start :=
    Text.length_slice t hwithin
  have hhead : (t.slice p.node.start p.node.stop).head? = some quote := by
    rw [List.head?_eq_getElem?, Text.getElem?_slice t (by omega)]
    exact hfirst
  have hend : (t.slice p.node.start p.node.stop).getLast? = some quote := by
    rw [List.getLast?_eq_getElem?, hlength, Text.getElem?_slice t (by omega),
      show p.node.start + (p.node.stop - p.node.start - 1) = p.node.stop - 1 by omega]
    exact hlast
  simp only [isDelimited, Script.textOf, htext, hhead, hend, Option.any_some, hsolid,
    Bool.not_false, and_true, Bool.and_eq_true, decide_eq_true_iff]
  omega

end Parsed

theorem leftAlone_of_oneLine {n : Node} (delimited : isDelimited s block.node n = true)
    (oneLine : CodePoint.char '\n' ∉ s.textOf n) : LeftAlone s block n := by
  obtain ⟨w, v, -, -, hsplit, hstart, hcount, -⟩ := exists_split delimited
  -- No line feed stands between the first character of the literal and its last one.
  have hclear : ∀ o, n.start ≤ o → o < n.stop →
      (ended (innerLines s block.node))[o - (block.node.start + 1)]? ≠ some (.char '\n') := by
    intro o hle hlt hfeed
    rw [hsplit, List.getElem?_append_right (by omega), List.getElem?_append_left (by omega)] at hfeed
    exact oneLine (List.mem_of_getElem? hfeed)
  refine ⟨fun p hp hlt hbelow => ?_, fun _ line hline hle hbelow => ?_⟩
  · exact absurd (feed_of_mem_linesFrom hp (by omega)) (hclear (p.1 - 1) (by omega) (by omega))
  · refine absurd ?_ (hclear (block.node.start + 1 + line.length) hle hbelow)
    obtain ⟨more, hmore⟩ := List.head?_eq_some_iff.mp hline
    rw [hmore, ended_cons, Nat.add_sub_cancel_left, List.getElem?_append_right (Nat.le_refl _),
      Nat.sub_self]
    rfl

/-- A template is left alone unless a line that starts inside it is made of blanks, or blanks are
taken off the end of the first line in it. -/
theorem leftAlone_template {p : Place} (mem : p ∈ block.walk) (template : p.node.isTemplate = true) :
    LeftAlone s block p.node ↔
      (∀ q ∈ linesFrom (block.node.start + 1) (innerLines s block.node),
        p.node.start < q.1 → q.1 < p.node.stop → isBlankLine q.2 = true → q.2 = []) ∧
      (trimsEnd (templateSpans block) 0 (block.node.start + 1) = true →
        ∀ line ∈ (innerLines s block.node).head?,
          p.node.start ≤ block.node.start + 1 + line.length →
          block.node.start + 1 + line.length < p.node.stop → dropEndWhile isBlank line = line) := by
  have hspan : (p.node.start, p.node.stop) ∈ templateSpans block :=
    List.mem_map_of_mem (List.mem_filter.mpr ⟨mem, template⟩)
  constructor
  · intro h
    refine ⟨fun q hq hstart hstop hline => ?_, h.first⟩
    rcases h.inner q hq hstart hstop with hnil | ⟨hsolid, -⟩
    · exact hnil
    · rw [hline] at hsolid
      cases hsolid
  · rintro ⟨hinner, hfirst⟩
    refine ⟨fun q hq hstart hstop => ?_, hfirst⟩
    cases hline : isBlankLine q.2 with
    | true => exact .inl (hinner q hq hstart hstop hline)
    | false =>
        refine .inr ⟨hline, List.any_eq_true.mpr ⟨_, hspan, ?_⟩⟩
        exact Bool.and_eq_true_iff.mpr ⟨decide_eq_true hstart, decide_eq_true hstop⟩

/-! ## Asynchronous functions with a block for a body -/

instance (spans : List (Nat × Nat)) (p : Nat × Text) : Decidable (Untouched spans p) :=
  inferInstanceAs (Decidable (_ ∨ _))

instance (spans : List (Nat × Nat)) (number offset : Nat) (lines : List Text) (start stop : Nat) :
    Decidable (Undisturbed spans number offset lines start stop) :=
  decidable_of_iff (_ ∧ _) ⟨fun h => ⟨h.1, h.2⟩, fun h => ⟨h.inner, h.first⟩⟩

instance (s : Script) (block : Place) (n : Node) : Decidable (LeftAlone s block n) :=
  inferInstanceAs (Decidable (Undisturbed _ _ _ _ _ _))

/-- Whether the kind is that of a block. -/
def isBlock (n : Node) : Bool :=
  match n.kind with
  | .block => true
  | _ => false

theorem kind_of_isBlock {n : Node} (h : isBlock n = true) : n.kind = .block := by
  rw [isBlock] at h
  split at h
  · assumption
  · cases h

/-- Whether a place is an asynchronous function with a block for a body, of which something
holds. -/
def hasBody (holds : Place → Bool) (f : Place) : Bool :=
  f.node.isFunction && f.node.isAsync &&
    (f.child? .body).any fun block => isBlock block.node && holds block

theorem body_of_hasBody {holds : Place → Bool} {f : Place} (h : hasBody holds f = true) :
    f.node.isFunction = true ∧ f.node.isAsync = true ∧ ∃ block, f.child? .body = some block ∧
      block.node.kind = .block ∧ holds block = true := by
  rw [hasBody, Bool.and_eq_true, Bool.and_eq_true] at h
  obtain ⟨⟨hfunction, hasync⟩, hblock⟩ := h
  obtain ⟨block, hchild, hholds⟩ := (Option.any_eq_true _ _).mp hblock
  rw [Bool.and_eq_true] at hholds
  exact ⟨hfunction, hasync, block, hchild, kind_of_isBlock hholds.1, hholds.2⟩

/-! A template over two lines. -/

namespace Quiet

def text : Text := "async function f()\x7b\nawait g(\"k\", `a\n b`);\n\x7d"

def holds (block : Place) : Bool :=
  (quotedPlaces block).all fun p => decide (LeftAlone (Script.ofText text) block p.node)

theorem text_facts : Script.isRead text = true ∧
    ∃ f ∈ (Script.ofText text).places, hasBody holds f = true := by
  unfold holds text
  rw [Text.ofString_ofList]
  decide +kernel

end Quiet

theorem wrappedBlock_literals_sample :
    ∃ s f block, Script.parse Quiet.text = .ok (.ok s) ∧ f ∈ s.places ∧ f.node.isAsync = true ∧
      f.child? .body = some block ∧
      (∀ p ∈ quotedPlaces block, isDelimited s block.node p.node = true) ∧
      ∀ p ∈ quotedPlaces block,
        (wrappedBlock s block "f" false).slice (landing s block p.node.start)
          (landing s block p.node.start + (p.node.stop - p.node.start)) = s.textOf p.node := by
  obtain ⟨hread, f, hf, hfacts⟩ := Quiet.text_facts
  obtain ⟨-, hasync, block, hbody, hbraces, hholds⟩ := body_of_hasBody hfacts
  rw [Quiet.holds, List.all_eq_true] at hholds
  have hparsed := Script.parse_of_isRead hread
  have hdelimited := parse_isDelimited hparsed hf hbody hbraces
  obtain ⟨hwritten, -⟩ := wrappedBlock_literals "f" false hdelimited
  exact ⟨_, f, block, hparsed, hf, hasync, hbody, hdelimited,
    fun p hp => (hwritten p hp).mpr (of_decide_eq_true (hholds p hp))⟩

/-! A template with a line of blanks in it, and a string that is continued on the next line. -/

namespace Continued

def text : Text := "async function f()\x7b\nawait g(`a\n  \nb`, \"c\\\nd\");\n\x7d"

/-- Whether a node is a literal whose text does not occur in the wrapped block. -/
def isLost (block : Place) (n : Node) : Bool :=
  !Text.occursIn ((Script.ofText text).textOf n)
    (wrappedBlock (Script.ofText text) block "f" false)

def holds (block : Place) : Bool :=
  (quotedPlaces block).any (fun p => p.node.isTemplate && isLost block p.node) &&
    (quotedPlaces block).any fun p =>
      p.node.string? == some (Text.ofString "cd") && isLost block p.node

theorem text_facts : Script.isRead text = true ∧
    ∃ f ∈ (Script.ofText text).places, hasBody holds f = true := by
  unfold holds isLost text
  repeat rw [Text.ofString_ofList]
  decide +kernel

end Continued

/-- Literals can be changed. The line of blanks in the template of this text is emptied, and the line
on which the string is continued gets blanks in front. Neither literal occurs in the block that
the body is replaced with. -/
theorem literals_changed :
    ∃ s f block p q, Script.parse Continued.text = .ok (.ok s) ∧ f ∈ s.places ∧
      f.node.isFunction = true ∧ f.node.isAsync = true ∧ f.child? .body = some block ∧
      block.node.kind = .block ∧
      p ∈ quotedPlaces block ∧ p.node.isTemplate = true ∧
      Text.occursIn (s.textOf p.node) (wrappedBlock s block "f" false) = false ∧
      q ∈ quotedPlaces block ∧ q.node.string? = some (Text.ofString "cd") ∧
      Text.occursIn (s.textOf q.node) (wrappedBlock s block "f" false) = false := by
  obtain ⟨hread, f, hf, hfacts⟩ := Continued.text_facts
  obtain ⟨hfunction, hasync, block, hbody, hblock, hholds⟩ := body_of_hasBody hfacts
  rw [Continued.holds, Bool.and_eq_true, List.any_eq_true, List.any_eq_true] at hholds
  obtain ⟨⟨p, hp, hlostTemplate⟩, q, hq, hlostString⟩ := hholds
  rw [Bool.and_eq_true] at hlostTemplate hlostString
  obtain ⟨htemplate, hlostTemplate⟩ := hlostTemplate
  obtain ⟨hstring, hlostString⟩ := hlostString
  exact ⟨_, f, block, p, q, Script.parse_of_isRead hread, hf, hfunction, hasync, hbody, hblock,
    hp, htemplate, Bool.not_eq_true' _ |>.mp hlostTemplate, hq, eq_of_beq hstring,
    Bool.not_eq_true' _ |>.mp hlostString⟩

end Rejection

end Readiness
