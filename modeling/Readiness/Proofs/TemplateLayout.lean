import Readiness.Proofs.ExpressionEnds
import Readiness.Proofs.QueryAssembly
import Readiness.Proofs.TextLines

/-!
# How a template lies in its text

A template is pieces and expressions in turns. Each piece covers the mark that opens it, its
characters, and the mark that ends it; between a piece and an expression there may be a gap, with
blanks, comments and parentheses in it. `Interleaved` is this layout, and what the chunks of a
template are follows from it by induction: the search for a mark finds the one of the piece, or one
in the gap, and no other.

That the parser lays its templates out like this is the invariant `Node.LiesIn` of whole trees. An
expression that turns out to be a pattern keeps it.
-/

namespace Readiness

/-! ## Marks in a text -/

namespace Text

/-- The first place where a character stands, when it stands at a known one. -/
theorem indexOf?_append_cons (q : CodePoint) (front rest : Text) :
    ∃ i, indexOf? [q] (front ++ q :: rest) = some i ∧ i ≤ front.length ∧
      (i = front.length ↔ q ∉ front) := by
  by_cases hmem : q ∈ front
  · obtain ⟨back, more, rfl, hfirst⟩ := List.eq_append_cons_of_mem hmem
    refine ⟨back.length, ?_, by simp, by simp⟩
    rw [List.append_assoc, List.cons_append, indexOf?_of_split hfirst]
  · exact ⟨front.length, indexOf?_of_split hmem, Nat.le_refl _, by simp [hmem]⟩

theorem isSome_lastIndexOf? (w t : Text) : (lastIndexOf? w t).isSome = occursIn w t := by
  rw [occursIn]
  induction t with
  | nil => rw [lastIndexOf?, indexOf?]
  | cons c r ih =>
      rw [lastIndexOf?, indexOf?]
      rw [← Option.isSome_map (f := (· + 1)) (x := indexOf? w r)] at ih
      cases hlast : lastIndexOf? w r with
      | none =>
          rw [hlast] at ih
          dsimp only
          split
          · rfl
          · exact ih
      | some i =>
          rw [hlast] at ih
          dsimp only
          split
          · rfl
          · exact ih

theorem lastIndexOf?_append {w t : Text} {i : Nat} (h : lastIndexOf? w t = some i) (front : Text) :
    lastIndexOf? w (front ++ t) = some (front.length + i) := by
  induction front with
  | nil => rw [List.nil_append, h, List.length_nil, Nat.zero_add]
  | cons c r ih =>
      rw [List.cons_append, lastIndexOf?, ih, List.length_cons]
      exact congrArg some (Nat.add_right_comm _ _ _)

theorem lastIndexOf?_le {w t : Text} {i : Nat} (h : lastIndexOf? w t = some i) :
    i + w.length ≤ t.length := by
  induction t generalizing i with
  | nil =>
      rw [lastIndexOf?] at h
      split at h
      · next hempty =>
          cases h
          simpa using hempty
      · cases h
  | cons c r ih =>
      rw [lastIndexOf?] at h
      split at h
      · next j hj =>
          cases h
          have := ih hj
          rw [List.length_cons]
          omega
      · split at h
        · next hprefix =>
            cases h
            rw [Nat.zero_add]
            exact (List.isPrefixOf_iff_prefix.mp hprefix).length_le
        · cases h

/-- A part of a text is another part around it only if it is all of it. -/
theorem slice_eq_slice_iff {t : Text} {a b c d : Nat} (front : a ≤ b) (inner : b ≤ c)
    (back : c ≤ d) (within : d ≤ t.length) : t.slice a d = t.slice b c ↔ a = b ∧ d = c := by
  refine ⟨fun h => ?_, fun ⟨hab, hdc⟩ => by rw [hab, hdc]⟩
  have hlength := congrArg List.length h
  rw [length_slice _ within, length_slice _ (Nat.le_trans back within)] at hlength
  omega

end Text

namespace Script

open Text

/-- The place of the last opening mark in front of an expression, when one stands at a known place
with a gap behind it. -/
theorem lastIndexOf?_opening (front gap : Text) :
    ∃ i, lastIndexOf? (ender false) (front ++ (ender false ++ gap)) = some (front.length + i) ∧
      i ≤ gap.length ∧ (i = 0 ↔ occursIn (ender false) gap = false) := by
  have hbrace : ∀ u : Text, (ender false).isPrefixOf (openBrace :: u) = false := fun _ => rfl
  have hdollar : (ender false).isPrefixOf (dollar :: openBrace :: gap) = true := rfl
  cases hgap : lastIndexOf? (ender false) gap with
  | none =>
      have hmark : lastIndexOf? (ender false) (ender false ++ gap) = some 0 := by
        show lastIndexOf? (ender false) (dollar :: openBrace :: gap) = _
        rw [lastIndexOf?, lastIndexOf?, hgap]
        simp only [hbrace, hdollar]
        rfl
      refine ⟨0, lastIndexOf?_append hmark front, Nat.zero_le _, ?_⟩
      rw [← isSome_lastIndexOf?, hgap]
      simp
  | some j =>
      have hmark : lastIndexOf? (ender false) (ender false ++ gap) = some (j + 2) := by
        show lastIndexOf? (ender false) (dollar :: openBrace :: gap) = _
        rw [lastIndexOf?, lastIndexOf?, hgap]
      refine ⟨j + 2, lastIndexOf?_append hmark front, ?_, ?_⟩
      · have := lastIndexOf?_le hgap
        exact this
      · rw [← isSome_lastIndexOf?, hgap]
        simp

/-! ## Pieces of a template -/

/-- The characters that a piece of a template is written with, between the marks around it. -/
def Node.pieceText (t : Text) (q : Node) : Text :=
  match q.kind with
  | .templateElement _ tail => t.slice (q.start + 1) (q.stop - (ender tail).length)
  | _ => []

/-- A piece of a template stands in a text, between the mark that opens it and the one that ends
it. -/
structure Piece (t : Text) (head tail : Bool) (q : Node) : Prop where
  kind : ∃ cooked, q.kind = .templateElement cooked tail
  written : ∃ front raw back : Text,
    t = front ++ (opener head :: (raw ++ (ender tail ++ back))) ∧ q.start = front.length ∧
      q.stop = front.length + 1 + raw.length + (ender tail).length

namespace Piece

variable {t : Text} {head tail : Bool} {q : Node}

theorem slice_split (front w back : Text) :
    (front ++ (w ++ back)).slice front.length (front.length + w.length) = w := by
  rw [slice, List.drop_left, Nat.add_sub_cancel_left, List.take_left]

theorem bounds (h : Piece t head tail q) :
    q.start + 1 + (ender tail).length ≤ q.stop ∧ q.stop ≤ t.length := by
  obtain ⟨front, raw, back, rfl, hstart, hstop⟩ := h.written
  simp only [List.length_append, List.length_cons]
  omega

theorem pieceText_eq (h : Piece t head tail q) :
    q.pieceText t = t.slice (q.start + 1) (q.stop - (ender tail).length) := by
  obtain ⟨cooked, hkind⟩ := h.kind
  rw [Node.pieceText, hkind]

theorem split (h : Piece t head tail q) : ∃ front back : Text,
    t = front ++ (opener head :: (q.pieceText t ++ (ender tail ++ back))) ∧
      q.start = front.length ∧
      q.stop = front.length + 1 + (q.pieceText t).length + (ender tail).length := by
  obtain ⟨front, raw, back, ht, hstart, hstop⟩ := h.written
  have hraw : q.pieceText t = raw := by
    have hlength : (front ++ [opener head]).length = front.length + 1 := List.length_append
    have hsplit : t = (front ++ [opener head]) ++ (raw ++ (ender tail ++ back)) := by
      rw [ht, List.append_assoc]
      rfl
    rw [h.pieceText_eq, hstop, Nat.add_sub_cancel, hstart, ← hlength, hsplit]
    exact slice_split _ _ _
  exact ⟨front, back, by rw [hraw]; exact ht, hstart, by rw [hraw]; exact hstop⟩

theorem slice_eq (h : Piece t head tail q) :
    t.slice q.start q.stop = opener head :: (q.pieceText t ++ ender tail) := by
  obtain ⟨front, back, ht, hstart, hstop⟩ := h.split
  have hsplit : t = front ++ ((opener head :: (q.pieceText t ++ ender tail)) ++ back) := by
    rw [List.cons_append, List.append_assoc]
    exact ht
  have hwhole : q.stop = front.length + (opener head :: (q.pieceText t ++ ender tail)).length := by
    rw [hstop, List.length_cons, List.length_append]
    omega
  generalize opener head :: (q.pieceText t ++ ender tail) = w at hsplit hwhole ⊢
  rw [hwhole, hstart, hsplit]
  exact slice_split _ _ _

theorem slice_ender (h : Piece t head tail q) :
    t.slice (q.stop - (ender tail).length) q.stop = ender tail := by
  obtain ⟨front, raw, back, ht, -, hstop⟩ := h.written
  have hlength : (front ++ opener head :: raw).length = q.stop - (ender tail).length := by
    rw [hstop, List.length_append, List.length_cons]
    omega
  have hsplit : t = (front ++ opener head :: raw) ++ (ender tail ++ back) := by
    rw [ht, List.append_assoc]
    rfl
  have hstop' : q.stop = (front ++ opener head :: raw).length + (ender tail).length := by
    omega
  rw [← hlength, hstop', hsplit]
  exact slice_split _ _ _

theorem getElem?_start (h : Piece t head tail q) : t[q.start]? = some (opener head) := by
  obtain ⟨front, raw, back, rfl, hstart, -⟩ := h.written
  rw [hstart, List.getElem?_append_right (Nat.le_refl _), Nat.sub_self]
  rfl

theorem getElem?_stop (h : Piece t head true q) : t[q.stop - 1]? = some (opener true) := by
  obtain ⟨front, raw, back, rfl, -, hstop⟩ := h.written
  have hmark : (ender true).length = 1 := rfl
  have hplace : q.stop - 1 - front.length = raw.length + 1 := by omega
  rw [List.getElem?_append_right (by omega), hplace, List.getElem?_cons_succ,
    List.getElem?_append_right (Nat.le_refl _), Nat.sub_self]
  rfl

end Piece

/-! ## Templates -/

/-- The pieces of a template with the expressions between them, one after the other in a text: the
first piece, the other pieces, and the expressions. The parser takes a piece with either mark
behind an expression, so all but the first may be opened by a backquote as well. -/
inductive Interleaved (t : Text) (stop : Nat) : Bool → Node → List Node → List Node → Prop
  | last {head : Bool} {q : Node} (piece : Piece t head true q) (ends : q.stop = stop) :
      Interleaved t stop head q [] []
  | more {head head' : Bool} {q e q' : Node} {qs es : List Node} (piece : Piece t head false q)
      (before : q.stop ≤ e.start) (behind : e.stop ≤ q'.start) (order : q.stop ≤ q'.start)
      (rest : Interleaved t stop head' q' qs es) :
      Interleaved t stop head q (q' :: qs) (e :: es)

namespace Interleaved

variable {t : Text} {stop : Nat} {head : Bool} {q : Node} {qs es : List Node}

theorem length_eq (h : Interleaved t stop head q qs es) : qs.length = es.length := by
  induction h with
  | last => rfl
  | more _ _ _ _ _ ih => exact congrArg (· + 1) ih

theorem first (h : Interleaved t stop head q qs es) : ∃ tail, Piece t head tail q := by
  cases h with
  | last piece => exact ⟨true, piece⟩
  | more piece => exact ⟨false, piece⟩

theorem start_lt (h : Interleaved t stop head q qs es) : q.start < stop := by
  induction h with
  | last piece ends =>
      have := piece.bounds
      omega
  | more piece _ _ order _ ih =>
      have := piece.bounds
      omega

theorem getElem?_stop (h : Interleaved t stop head q qs es) :
    t[stop - 1]? = some (opener true) ∧ stop ≤ t.length := by
  induction h with
  | last piece ends => exact ends ▸ ⟨piece.getElem?_stop, piece.bounds.2⟩
  | more _ _ _ _ _ ih => exact ih

/-- Each piece stands between two marks, of which the second tells whether it is the last. -/
theorem piece (h : Interleaved t stop head q qs es) {k : Nat} {p : Node}
    (here : (q :: qs)[k]? = some p) :
    ∃ head', Piece t head' (k == es.length) p ∧ (k = 0 → head' = head) := by
  induction h generalizing k with
  | @last head q piece ends =>
      cases k with
      | zero =>
          cases here
          exact ⟨head, piece, fun _ => rfl⟩
      | succ k => cases here
  | @more head _ q e q' qs es piece before behind order rest ih =>
      cases k with
      | zero =>
          cases here
          exact ⟨head, piece, fun _ => rfl⟩
      | succ k =>
          obtain ⟨head', hp, -⟩ := ih here
          have hlast : (k + 1 == (e :: es).length) = (k == es.length) := by
            rw [List.length_cons, Bool.eq_iff_iff, beq_iff_eq, beq_iff_eq]
            omega
          exact ⟨head', by rw [hlast]; exact hp, nofun⟩

end Interleaved

/-! ## Chunks -/

open templateChunks (go)

variable {t : Text} {n q e q' : Node} {qs es : List Node} {head : Bool} {from_ : Nat}

/-- A part of the text around the characters of a piece has them in it, and nothing else only if it
ends where they end. -/
theorem Piece.infix_slice {tail : Bool} (piece : Piece t head tail q) {stop : Nat}
    (early : from_ ≤ q.start + 1) (late : q.stop ≤ stop + (ender tail).length)
    (within : stop ≤ t.length) :
    q.pieceText t <:+: t.slice from_ stop ∧
      (t.slice from_ stop = q.pieceText t ↔
        from_ = q.start + 1 ∧ stop + (ender tail).length = q.stop) := by
  obtain ⟨hlong, hwithin⟩ := piece.bounds
  rw [piece.pieceText_eq, slice_eq_slice_iff early (by omega) (by omega) within]
  refine ⟨?_, by omega⟩
  rw [← slice_append_slice t early (b := q.start + 1) (c := stop) (by omega),
    ← slice_append_slice t (b := q.stop - (ender tail).length) (c := stop) (by omega) (by omega),
    ← List.append_assoc]
  exact ⟨_, _, rfl⟩

/-- The chunk from an offset up to the last opening mark in front of an expression. -/
def chunkBefore (t : Text) (from_ : Nat) (e : Node) : Text :=
  match lastIndexOf? (ender false) (t.slice from_ e.start) with
  | some i => t.slice from_ (from_ + i)
  | none => t.slice from_ e.start

/-- Where the chunk behind an expression starts. -/
def chunkBehind (t : Text) (n e : Node) : Nat :=
  match indexOf? [closeBrace] (t.slice e.stop n.stop) with
  | some i => e.stop + i + 1
  | none => e.stop

theorem go_cons : go t n from_ (e :: es) =
    chunkBefore t from_ e :: go t n (chunkBehind t n e) es := rfl

/-- The last opening mark in front of an expression is the one that the piece before it ends with,
unless another one stands between the two. -/
theorem chunkBefore_eq (piece : Piece t head false q) (before : q.stop ≤ e.start)
    (early : from_ ≤ q.start + 1) :
    ∃ stop, chunkBefore t from_ e = t.slice from_ stop ∧ q.stop ≤ stop + 2 ∧ stop ≤ t.length ∧
      (stop + 2 = q.stop ↔ occursIn (ender false) (t.slice q.stop e.start) = false) := by
  obtain ⟨hlong, hwithin⟩ := piece.bounds
  have htwo : (ender false).length = 2 := rfl
  obtain ⟨i, hi, -, hclear⟩ :=
    lastIndexOf?_opening (t.slice from_ (q.stop - 2)) (t.slice q.stop e.start)
  have hsplit : t.slice from_ (q.stop - 2) ++ (ender false ++ t.slice q.stop e.start) =
      t.slice from_ e.start := by
    rw [← piece.slice_ender, htwo, slice_append_slice t (by omega) before,
      slice_append_slice t (by omega) (by omega)]
  rw [hsplit, length_slice t (by omega)] at hi
  have hlast := lastIndexOf?_le hi
  rw [slice, List.length_take, List.length_drop, htwo] at hlast
  refine ⟨from_ + (q.stop - 2 - from_ + i), ?_, by omega, by omega, ?_⟩
  · rw [chunkBefore, hi]
  · rw [← hclear]
    omega

/-- The first closing brace behind an expression is the one that opens the piece behind it, unless
another one stands between the two. -/
theorem chunkBehind_le (opens : t[q'.start]? = some closeBrace) (behind : e.stop ≤ q'.start)
    (within : q'.start < n.stop) :
    chunkBehind t n e ≤ q'.start + 1 ∧
      (chunkBehind t n e = q'.start + 1 ↔ closeBrace ∉ t.slice e.stop q'.start) := by
  obtain ⟨hlength, hchar⟩ := List.getElem?_eq_some_iff.mp opens
  have hbrace : t.slice q'.start n.stop = closeBrace :: t.slice (q'.start + 1) n.stop := by
    have hcount : n.stop - q'.start = n.stop - (q'.start + 1) + 1 := by omega
    rw [slice, List.drop_eq_getElem_cons hlength, hchar, hcount, List.take_succ_cons, slice]
  have hsplit : t.slice e.stop q'.start ++ closeBrace :: t.slice (q'.start + 1) n.stop =
      t.slice e.stop n.stop := by
    rw [← hbrace, slice_append_slice t behind (Nat.le_of_lt within)]
  obtain ⟨i, hi, hgap, hclear⟩ :=
    indexOf?_append_cons closeBrace (t.slice e.stop q'.start) (t.slice (q'.start + 1) n.stop)
  rw [hsplit] at hi
  rw [length_slice t (Nat.le_of_lt hlength)] at hgap hclear
  rw [chunkBehind, hi, ← hclear]
  dsimp only
  omega

/-- The chunks of a template are its pieces, each with what stands in front of it from the first
closing brace behind the expression before it, and behind it up to the last opening mark in front
of the next expression. -/
theorem Interleaved.chunks (h : Interleaved t n.stop head q qs es) (from_ : Nat) :
    (go t n from_ es).length = es.length + 1 ∧
      ∀ k p chunk, (q :: qs)[k]? = some p → (go t n from_ es)[k]? = some chunk →
        (k = 0 → from_ ≤ q.start + 1) → (0 < k → t[p.start]? = some closeBrace) →
        p.pieceText t <:+: chunk ∧
        (chunk = p.pieceText t ↔
          (k = 0 → from_ = q.start + 1) ∧
          (∀ e, 0 < k → es[k - 1]? = some e → closeBrace ∉ t.slice e.stop p.start) ∧
          ∀ e, es[k]? = some e → occursIn (ender false) (t.slice p.stop e.start) = false) := by
  generalize hstop : n.stop = stop at h
  induction h generalizing from_ with
  | @last head q piece ends =>
      have hbounds := piece.bounds
      have hone : (ender true).length = 1 := rfl
      refine ⟨rfl, fun k p chunk hp hchunk early _ => ?_⟩
      cases k with
      | zero =>
          cases hp
          cases hchunk
          obtain ⟨hinside, hiff⟩ := piece.infix_slice (early rfl)
            (show q.stop ≤ n.stop - 1 + (ender true).length by omega) (by omega)
          refine ⟨hinside, hiff.trans ?_⟩
          simp
          omega
      | succ k => cases hp
  | @more head _ q e q' qs es piece before behind order rest ih =>
      obtain ⟨hlength, hchunks⟩ := ih (chunkBehind t n e)
      rw [go_cons]
      refine ⟨congrArg (· + 1) hlength, fun k p chunk hp hchunk early opens => ?_⟩
      cases k with
      | zero =>
          cases hp
          cases hchunk
          obtain ⟨stop', hchunk, hlate, hwithin, hend⟩ := chunkBefore_eq piece before (early rfl)
          obtain ⟨hinside, hiff⟩ := piece.infix_slice (early rfl) hlate hwithin
          rw [hchunk]
          refine ⟨hinside, hiff.trans ?_⟩
          rw [show (ender false).length = 2 from rfl, hend]
          simp
      | succ k =>
          have hnext := fun hq' : t[q'.start]? = some closeBrace =>
            chunkBehind_le hq' behind (by rw [hstop]; exact rest.start_lt)
          have hopens : k = 0 → t[q'.start]? = some closeBrace := by
            rintro rfl
            cases hp
            exact opens (Nat.succ_pos 0)
          obtain ⟨hinside, hiff⟩ := hchunks k p chunk hp hchunk (fun hk => (hnext (hopens hk)).1)
            fun _ => opens (Nat.succ_pos k)
          refine ⟨hinside, hiff.trans ?_⟩
          cases k with
          | zero =>
              cases hp
              simp [(hnext (hopens rfl)).2]
          | succ k => simp

/-! ## Trees -/

/-- The parts of a template lie in a text from the start of the template to its end. -/
def IsTemplate (t : Text) (span : Span) (children : List (Role × Node)) : Prop :=
  ∃ q qs es, children = Parser.many .quasi (q :: qs) ++ Parser.many .expression es ∧
    q.start = span.start ∧ Interleaved t span.stop true q qs es

/-- The templates of a tree lie in the text. -/
inductive Node.LiesIn (t : Text) : Node → Prop
  | mk {kind : Kind} {span : Span} {children : List (Role × Node)}
      (own : kind = .templateLiteral → IsTemplate t span children)
      (parts : ∀ c ∈ children, Node.LiesIn t c.2) : Node.LiesIn t (.mk kind span children)

namespace Node.LiesIn

theorem part (h : Node.LiesIn t n) {c : Role × Node} (mem : c ∈ n.children) : c.2.LiesIn t := by
  cases h with
  | mk _ parts => exact parts c mem

theorem isTemplate (h : Node.LiesIn t n) (template : n.isTemplate = true) :
    IsTemplate t n.span n.children := by
  cases h with
  | @mk kind span children own _ =>
      cases kind <;> first | exact own rfl | cases template

end Node.LiesIn

end Script

end Readiness
