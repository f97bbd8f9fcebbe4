import Readiness.Proofs.StatementTrees

/-!
# The chunks of a template

The chunks of a template are looked up in the text: each starts behind the first closing brace that
follows the expression before it and ends at the last opening mark in front of the expression
behind it. The marks that the lexer found are among the ones looked at, so every chunk has the
characters of its piece in it. It has more in it when the gap between a mark and an expression
looks like another mark, as a comment there can.
-/

namespace Readiness.Script

open Text

variable {t : Text} {n : Node}

/-! ## Nodes of a script -/

theorem filterMap_many (r r' : Role) (ns : List Node) :
    ((Parser.many r' ns).filterMap fun c => if c.1 = r then some c.2 else none) =
      if r' = r then ns else [] := by
  rw [Parser.many, List.filterMap_map]
  split
  · next h => simp [h]
  · next h => simp [h]

/-- The pieces and the expressions of a template are its parts. -/
theorem fields_of_parts {qs es : List Node}
    (h : n.children = Parser.many .quasi qs ++ Parser.many .expression es) :
    n.fields .quasi = qs ∧ n.fields .expression = es := by
  rw [Node.fields, Node.fields, h, List.filterMap_append, List.filterMap_append, filterMap_many,
    filterMap_many, filterMap_many, filterMap_many]
  exact ⟨List.append_nil _, rfl⟩

/-- The templates in every place of a script lie in its text. -/
theorem liesIn_of_mem_places {s : Script} {p : Place} (parsed : Script.parse t = .ok (.ok s))
    (mem : p ∈ s.places) : p.node.LiesIn s.text := by
  rw [Script.text_of_parse parsed]
  exact (fits_of_mem_places parsed mem).elim (·.liesIn) (·.lies)

/-! ## Pieces and chunks -/

/-- No closing brace stands between a piece of a template and the expression in front of it, and no
opening mark between the piece and the expression behind it. -/
def Node.IsClearAround (t : Text) (n : Node) (k : Nat) (q : Node) : Prop :=
  (∀ e, 0 < k → (n.fields .expression)[k - 1]? = some e → closeBrace ∉ t.slice e.stop q.start) ∧
    ∀ e, (n.fields .expression)[k]? = some e →
      occursIn (ender false) (t.slice q.stop e.start) = false

/-- A template has one chunk for each of its pieces. A piece that a backquote or a closing brace
opens is in its chunk, and the chunk is the piece exactly if no mark stands in the gaps around it.
The parser takes a piece with either mark behind an expression; of one that a backquote opens there
nothing is claimed. -/
theorem templateChunks_pieces {s : Script} {p : Place} (parsed : Script.parse t = .ok (.ok s))
    (mem : p ∈ s.places) (template : p.node.isTemplate = true) :
    (p.node.fields .quasi).length = (p.node.fields .expression).length + 1 ∧
      (templateChunks s.text p.node).length = (p.node.fields .expression).length + 1 ∧
      ∀ k q, (p.node.fields .quasi)[k]? = some q → ∃ head chunk,
        (templateChunks s.text p.node)[k]? = some chunk ∧
        s.text.slice q.start q.stop =
          opener head :: (q.pieceText s.text ++ ender (k == (p.node.fields .expression).length)) ∧
        (k = 0 → head = true) ∧
        ((0 < k → head = false) → q.pieceText s.text <:+: chunk ∧
          (chunk = q.pieceText s.text ↔ p.node.IsClearAround s.text k q)) := by
  obtain ⟨first, qs, es, hchildren, hstart, hlaid⟩ :=
    (liesIn_of_mem_places parsed mem).isTemplate template
  obtain ⟨hquasis, hexpressions⟩ := fields_of_parts hchildren
  obtain ⟨hlength, hchunks⟩ := Interleaved.chunks (n := p.node) hlaid (p.node.start + 1)
  rw [templateChunks, hquasis, hexpressions]
  refine ⟨congrArg (· + 1) hlaid.length_eq, hlength, fun k q hq => ?_⟩
  obtain ⟨head, hpiece, hfirst⟩ := hlaid.piece hq
  obtain ⟨chunk, hchunk⟩ : ∃ chunk, (templateChunks.go s.text p.node (p.node.start + 1) es)[k]? =
      some chunk := by
    have hbelow := (List.getElem?_eq_some_iff.mp hq).1
    rw [List.length_cons, hlaid.length_eq, ← hlength] at hbelow
    exact ⟨_, List.getElem?_eq_getElem hbelow⟩
  refine ⟨head, chunk, hchunk, hpiece.slice_eq, hfirst, fun hbraced => ?_⟩
  have hfrom : p.node.start + 1 = first.start + 1 := congrArg (· + 1) hstart.symm
  obtain ⟨hinside, hiff⟩ := hchunks k q chunk hq hchunk (fun _ => Nat.le_of_eq hfrom)
    fun hk => by
      rw [hpiece.getElem?_start, hbraced hk]
      rfl
  refine ⟨hinside, hiff.trans ?_⟩
  rw [Node.IsClearAround, hexpressions]
  exact ⟨fun h => h.2, fun h => ⟨fun _ => hfrom, h⟩⟩

namespace Spaced

/-- A template with a blank behind its expression. -/
def text : Text := "`a$\x7bx \x7db`"

def script : Script := Script.ofText text

theorem facts : Script.isRead text = true ∧
    ∃ p ∈ script.places, p.node.isTemplate = true ∧
      (p.node.fields .expression).length = 1 ∧ ∃ q ∈ (p.node.fields .quasi)[1]?,
        (script.text.slice q.start q.stop).head? = some closeBrace ∧
        ∀ e ∈ p.node.fields .expression, closeBrace ∉ script.text.slice e.stop q.start := by
  rw [script, text, Text.ofString_ofList]
  decide +kernel

end Spaced

theorem templateChunks_pieces_sample :
    ∃ s p q, Script.parse Spaced.text = .ok (.ok s) ∧ p ∈ s.places ∧ p.node.isTemplate = true ∧
      (p.node.fields .quasi)[1]? = some q ∧
      (templateChunks s.text p.node)[1]? = some (q.pieceText s.text) := by
  obtain ⟨hread, p, hp, htemplate, hone, q, hq, hopens, hgap⟩ := Spaced.facts
  have hparse : Script.parse Spaced.text = .ok (.ok Spaced.script) := Script.parse_of_isRead hread
  obtain ⟨-, -, hall⟩ := templateChunks_pieces hparse hp htemplate
  obtain ⟨head, chunk, hchunk, hslice, -, hpiece⟩ := hall 1 q hq
  have hhead : head = false := by
    cases head with
    | false => rfl
    | true =>
        rw [hslice] at hopens
        cases hopens
  have hclear : p.node.IsClearAround Spaced.script.text 1 q := by
    refine ⟨fun e _ he => hgap e (List.mem_of_getElem? he), fun e he => ?_⟩
    have hbelow := (List.getElem?_eq_some_iff.mp he).1
    omega
  rw [(hpiece fun _ => hhead).2.mpr hclear] at hchunk
  exact ⟨_, p, q, hparse, hp, htemplate, hq, hchunk⟩

namespace Commented

/-- A template with a comment behind its expression, and a closing brace in that. -/
def text : Text := "`a$\x7bx/*\x7d*/\x7db`"

def script : Script := Script.ofText text

theorem facts : Script.isRead text = true ∧
    ∃ p ∈ script.places, p.node.isTemplate = true ∧
      (p.node.fields .quasi).map (Node.pieceText script.text) = ["a", "b"] ∧
      templateChunks script.text p.node = ["a", "*/\x7db"] := by
  rw [script, text, Text.ofString_ofList]
  decide +kernel

end Commented

/-- A comment can hold what looks like the mark behind an expression; then a chunk starts in it. -/
theorem templateChunks_comment :
    ∃ s p, Script.parse Commented.text = .ok (.ok s) ∧ p ∈ s.places ∧ p.node.isTemplate = true ∧
      (p.node.fields .quasi).map (Node.pieceText s.text) = ["a", "b"] ∧
      templateChunks s.text p.node = ["a", "*/\x7db"] := by
  obtain ⟨hread, p, hp, htemplate, hpieces, hchunks⟩ := Commented.facts
  exact ⟨_, p, Script.parse_of_isRead hread, hp, htemplate, hpieces, hchunks⟩

end Readiness.Script
