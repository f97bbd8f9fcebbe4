import Readiness.Proofs.QuerySpellings
import Readiness.Proofs.TemplateReading

/-!
# The list of parameters

The parameters of a query are put into brackets with commas between them, and each of
them is the source text of expressions: the only expression of a run as it is written,
or a template around the whole run. `listText_reads` says what the parser makes of the
list. Wherever an expression may stand it reads an array, whose elements are those of
the parameters in turn, and it reads it without a look at what the expressions are.
All that it takes is that each of them is read inside of brackets.

Inside of brackets a comma ends an expression, and that is where the number of
elements may differ from that of the parameters. A sequence may be interpolated as it
stands, without parentheses of its own. In a template it stays one expression. A run
that is nothing but a sequence is its own parameter, and the list takes it apart. With
its parentheses it would have stayed whole.
-/

namespace Readiness.Query

open Script
open Readiness.Script.Parser (many)

/-! ## Parameters with what they were made of -/

/-- A parameter: a run of expressions, with the texts that were taken with it. -/
structure Parameter where
  run : List Text
  front : Text
  back : Text

namespace Parameter

/-- The parameter as it is written. -/
def text (p : Parameter) : Text := parameter p.run p.front p.back

/-- What the parameter is in a list of expressions, if `trees` is what each source text is: a single
expression is what its text is, anything else a template. -/
def elements (trees : Text → List Node) : Parameter → List Node
  | ⟨[source], [], []⟩ => trees source
  | p => [templateTree p.front p.back (p.run.map fun source => joined (trees source))]

end Parameter

/-- The run of a piece that is one. -/
def Piece.run? : Piece → Option (List Text)
  | .text _ => none
  | .values run => some run

/-- Whatever becomes of the quotes, a step adds one parameter with its run. -/
theorem Step.exists_parameter {p p' : Parameterized} {run : List Text} {t : Text}
    (h : Step p run t p') :
    ∃ param : Parameter, param.run = run ∧ p'.params = p.params ++ [param.text] := by
  cases h with
  | kept closed => exact ⟨⟨run, [], []⟩, rfl, rfl⟩
  | @taken q cut front back => exact ⟨⟨run, front, back⟩, rfl, rfl⟩

/-- The parameters of a query are those of the runs of its pieces, one after the other. -/
def Collects (pieces : List Piece) (p : Parameterized) : Prop :=
  ∃ params : List Parameter, p.params = params.map Parameter.text ∧
    params.map Parameter.run = pieces.filterMap Piece.run?

theorem Collects.step {before : List Piece} {run : List Text} {t : Text} {p p' : Parameterized}
    (h : Collects before p) (step : Step p run t p') :
    Collects (before ++ [Piece.values run, .text t]) p' := by
  obtain ⟨params, hparams, hruns⟩ := h
  obtain ⟨param, rfl, hnext⟩ := step.exists_parameter
  refine ⟨params ++ [param], ?_, ?_⟩
  · rw [hnext, hparams, List.map_append, List.map_singleton]
  · rw [List.map_append, hruns, List.filterMap_append]
    rfl

theorem exists_collects {pieces : List Piece} (h : Alternates pieces) :
    ∃ p, assemble pieces = .ok p ∧ Collects pieces p := by
  obtain ⟨full, hwoven, hsame, hfull⟩ := exists_full h
  obtain ⟨p, hp, ⟨params, hparams, hruns⟩, -⟩ := assemble_invariant (P := Collects) ⟨[], rfl, rfl⟩
    (fun _ => ⟨[], rfl, rfl⟩) (fun _ _ hbefore hstep => hbefore.step hstep) hwoven
  refine ⟨p, hsame.symm.trans hp, params, hparams, hruns.trans ?_⟩
  rcases hfull with rfl | rfl
  · rfl
  · rw [List.filterMap_append]
    exact List.append_nil _

theorem run_ne_nil {s : Script} {query : Node} {run : List Text}
    (h : .values run ∈ pieces s query) : run ≠ [] := by
  have hreverse := pieces_induction (P := fun l => ∀ run, .values run ∈ l → run ≠ [])
    (fun run h => by cases h) (fun l t ih => ?_) (fun l source ih => ?_) s query
  · exact hreverse run (List.mem_reverse.mpr h)
  · intro run hrun
    rcases l with _ | ⟨u | run', l⟩ <;> simp only [Piece.addText, List.mem_cons, reduceCtorEq,
      false_or] at hrun
    · cases hrun
    · exact ih run (List.mem_cons_of_mem _ hrun)
    · exact ih run (List.mem_cons.mpr hrun)
  · intro run hrun
    rcases l with _ | ⟨u | run', l⟩ <;> simp only [Piece.addValue, List.mem_cons, reduceCtorEq,
      false_or, Piece.values.injEq] at hrun
    · rcases hrun with rfl | hrun
      · exact List.cons_ne_nil _ _
      · cases hrun
    · rcases hrun with rfl | hrun
      · exact List.cons_ne_nil _ _
      · exact ih run (List.mem_cons_of_mem _ hrun)
    · rcases hrun with rfl | hrun
      · exact List.append_ne_nil_of_right_ne_nil _ (List.cons_ne_nil _ _)
      · exact ih run (List.mem_cons_of_mem _ hrun)

/-! ## Parameters in a list -/

theorem interpolations_eq (back source : Text) (more : List Text) :
    ender false ++ interpolations back [] source more =
      ((source :: more).map fun t => dollar :: openBrace :: (t ++ [closeBrace])).flatten ++
        (requoteInside backquote back ++ [backquote]) := by
  induction more generalizing source with
  | nil => simp [interpolations, ender]
  | cons next more ih =>
      rw [interpolations, ih, List.map_cons, List.flatten_cons]
      simp [ender, requoteInside]

theorem parameter_eq {source : Text} {more : List Text} {front back : Text}
    (built : more ≠ [] ∨ front ≠ [] ∨ back ≠ []) :
    parameter (source :: more) front back = backquote :: (requoteInside backquote front ++
      (ender false ++ interpolations back [] source more)) := by
  rw [interpolations_eq, parameter.eq_def]
  split
  · next hrun =>
      cases hrun
      simp at built
  · simp [Text.ofString]

section Reading

variable {c : Script.Context} {room : Nat} {trees : Text → List Node}

theorem Parameter.elements_built {source : Text} {more : List Text} {front back : Text}
    (built : more ≠ [] ∨ front ≠ [] ∨ back ≠ []) :
    Parameter.elements trees ⟨source :: more, front, back⟩ =
      [templateTree front back ((source :: more).map fun t => joined (trees t))] := by
  rw [Parameter.elements.eq_def]
  split
  · next hrun =>
      cases hrun
      simp at built
  · rfl

/-- A parameter is an item of the list around it, or as many as the only expression of its run. -/
theorem Parameter.items {p : Parameter} (hasRun : p.run ≠ [])
    (reads : ∀ t ∈ p.run, Items c.inside room t (trees t)) :
    Items c.inside (room + 17) p.text (p.elements trees) := by
  obtain ⟨run, front, back⟩ := p
  obtain ⟨source, more, rfl⟩ := List.exists_cons_of_ne_nil hasRun
  by_cases hbuilt : more ≠ [] ∨ front ≠ [] ∨ back ≠ []
  · rw [Parameter.elements_built hbuilt, Parameter.text, parameter_eq hbuilt]
    exact .one (reads_template (c := c.inside) reads front back)
  · push Not at hbuilt
    obtain ⟨rfl, rfl, rfl⟩ := hbuilt
    exact (reads source List.mem_cons_self).imp (Nat.le_add_right room 17)

theorem Parameter.elements_ne_nil {p : Parameter}
    (reads : ∀ t ∈ p.run, Items c.inside room t (trees t)) : p.elements trees ≠ [] := by
  rw [Parameter.elements.eq_def]
  split
  · next source => exact (reads source List.mem_cons_self).ne_nil
  · exact List.cons_ne_nil _ _

theorem Parameter.elements_length (p : Parameter) :
    (p.elements trees).length = 1 ↔
      ∀ source, p = ⟨[source], [], []⟩ → (trees source).length = 1 := by
  rw [Parameter.elements.eq_def]
  split
  · next source => exact ⟨fun h t ht => by cases ht; exact h, fun h => h source rfl⟩
  · next hnot => exact ⟨fun _ source h => absurd h (hnot source), fun _ => rfl⟩

section Lengths

variable {α β : Type} {f : α → List β} {l : List α}

theorem length_le_flatMap (h : ∀ a ∈ l, f a ≠ []) : l.length ≤ (l.flatMap f).length := by
  induction l with
  | nil => exact Nat.zero_le _
  | cons a l ih =>
      obtain ⟨ha, hl⟩ := List.forall_mem_cons.mp h
      have hpos := List.length_pos_iff.mpr ha
      have hrest := ih hl
      rw [List.flatMap_cons, List.length_append, List.length_cons]
      omega

theorem length_flatMap_eq_iff (h : ∀ a ∈ l, f a ≠ []) :
    (l.flatMap f).length = l.length ↔ ∀ a ∈ l, (f a).length = 1 := by
  induction l with
  | nil => simp
  | cons a l ih =>
      obtain ⟨ha, hl⟩ := List.forall_mem_cons.mp h
      have hpos := List.length_pos_iff.mpr ha
      have hrest := length_le_flatMap hl
      rw [List.flatMap_cons, List.length_append, List.length_cons, List.forall_mem_cons, ← ih hl]
      omega

end Lengths

/-- The list of parameters of a query, for whatever expressions its operands are. If the source text
of each operand is read inside of brackets as what `trees` says, with commas between the
expressions if there are several, then the list is read as one array. Its elements are those of the
parameters one after the other, which are as many as the runs of operands, and it has one for
each parameter exactly if no parameter is a sequence that stands by itself. -/
theorem listText_reads {s : Script} {query : Node}
    (reads : ∀ run, .values run ∈ pieces s query → ∀ t ∈ run, Items c.inside room t (trees t)) :
    ∃ (literal : Text) (params : List Parameter),
      parameterized s query = .ok (literal, params.map Parameter.text) ∧
      params.map Parameter.run = (pieces s query).filterMap Piece.run? ∧
      Reads c (room + 34) (listText (params.map Parameter.text))
        (.mk .arrayExpression default
          (many .element (params.flatMap (Parameter.elements trees)))) ∧
      ((params.flatMap (Parameter.elements trees)).length = params.length ↔
        ∀ source, ⟨[source], [], []⟩ ∈ params → (trees source).length = 1) := by
  obtain ⟨p, hp, params, hparams, hruns⟩ := exists_collects (alternates_pieces s query)
  have hrun : ∀ param ∈ params, .values param.run ∈ pieces s query := by
    intro param hparam
    have hmem : param.run ∈ (pieces s query).filterMap Piece.run? := by
      rw [← hruns]
      exact List.mem_map_of_mem hparam
    obtain ⟨piece, hpiece, hvalues⟩ := List.mem_filterMap.mp hmem
    cases piece with
    | text t => cases hvalues
    | values run =>
        cases hvalues
        exact hpiece
  have hreads : ∀ param ∈ params, ∀ t ∈ param.run, Items c.inside room t (trees t) :=
    fun param hparam => reads param.run (hrun param hparam)
  refine ⟨requote (quoteStyle s (parts query)) p.sql, params, ?_, hruns, ?_, ?_⟩
  · rw [parameterized, hp, ← hparams]
    rfl
  · refine reads_list (elements_join fun param hparam => ?_)
    exact Parameter.items (run_ne_nil (hrun param hparam)) (hreads param hparam)
  · rw [length_flatMap_eq_iff fun param hparam => Parameter.elements_ne_nil (hreads param hparam)]
    simp only [Parameter.elements_length]
    exact ⟨fun h source hsource => h _ hsource source rfl,
      fun h param hparam source hbare => h source (hbare ▸ hparam)⟩

end Reading

/-! A sequence in parentheses, and a value in a quoted string. -/

namespace Grouped

def script : Script := ⟨"\"n=\"+(a,b)+\" AND s='\"+c+\"%'\"", default, false, []⟩

def string (start stop : Nat) (t : Text) : Node :=
  .mk (.literal (.string t)) (Rows.span start stop) []

def pair : Node := .mk .sequence (Rows.span 6 9)
  [(.expression, Rows.name 6 "a"), (.expression, Rows.name 8 "b")]

def query : Node :=
  Rows.sum 28 (Rows.sum 23 (Rows.sum 21 (Rows.sum 10 (string 0 4 "n=") pair)
    (string 11 21 " AND s='")) (Rows.name 22 "c")) (string 24 28 "%'")

def params : List Text := ["(a,b)", "`$\x7bc\x7d%`"]

def built : List Piece :=
  [.text "n=", .values ["(a,b)"], .text " AND s='", .values ["c"], .text "%'"]

def name (t : Text) : Node := .mk (.identifier t) default []

/-- The sequence is one expression, and a name is itself. -/
def trees (t : Text) : List Node :=
  if t = "(a,b)" then [joined [name "a", name "b"]] else [name t]

theorem trees_length (t : Text) : (trees t).length = 1 := by
  rw [trees]
  split <;> rfl

theorem pieces_query : pieces script query = built := by decide +kernel

theorem isWord : ∀ t ∈ (["a", "b", "c"] : List Text), ∀ x ∈ t,
    isIdentifierPart x = true ∧ x ≠ '\\' := by
  decide

theorem plainName {t : Text} (h : t ∈ (["a", "b", "c"] : List Text)) : PlainName t := by
  have hword : IsWord t := isWord t h
  simp only [List.mem_cons, List.not_mem_nil, or_false] at h
  rcases h with rfl | rfl | rfl
  · exact ⟨⟨_, _, rfl, rfl⟩, hword, by decide, rfl, by decide⟩
  · exact ⟨⟨_, _, rfl, rfl⟩, hword, by decide, rfl, by decide⟩
  · exact ⟨⟨_, _, rfl, rfl⟩, hword, by decide, rfl, by decide⟩

theorem reads_plain (c : Script.Context) {t : Text} (h : t ∈ (["a", "b", "c"] : List Text)) :
    Reads c 14 t (name t) := reads_name (plainName h) c

theorem items_pair (c : Script.Context) : Items c 14 "a,b" [name "a", name "b"] := by
  have ha : Reads c 14 "a" (name "a") := reads_plain c (by decide)
  have hb : Reads c 14 "b" (name "b") := reads_plain c (by decide)
  exact .more ha 0 (.one hb)

theorem reads (c : Script.Context) {run : List Text} (h : .values run ∈ pieces script query) :
    ∀ t ∈ run, Items c 31 t (trees t) := by
  rw [pieces_query] at h
  simp only [built, List.mem_cons, reduceCtorEq, Piece.values.injEq, List.not_mem_nil, or_false,
    false_or] at h
  intro t ht
  rcases h with rfl | rfl
  · obtain rfl := List.mem_singleton.mp ht
    exact .one (reads_group (items_pair c.inside))
  · obtain rfl := List.mem_singleton.mp ht
    exact .one ((reads_plain c (by decide)).imp (by decide))

end Grouped

theorem listText_reads_sample :
    ∃ literal elements,
      parameterized Grouped.script Grouped.query = .ok (literal, ["(a,b)", "`$\x7bc\x7d%`"]) ∧
      Reads default 65 (listText ["(a,b)", "`$\x7bc\x7d%`"])
        (.mk .arrayExpression default (many .element elements)) ∧
      elements.length = 2 := by
  obtain ⟨literal, params, hparams, -, hlist, hlength⟩ :=
    listText_reads fun run hrun => Grouped.reads (Context.inside default) hrun
  have hrepaired : (parameterized Grouped.script Grouped.query).toOption.map Prod.snd =
      some Grouped.params := by decide +kernel
  have htexts : params.map Parameter.text = Grouped.params := by
    rw [hparams] at hrepaired
    exact Option.some.inj hrepaired
  rw [htexts] at hparams hlist
  refine ⟨literal, _, hparams, hlist, (hlength.mpr fun t _ => Grouped.trees_length t).trans ?_⟩
  rw [← List.length_map, htexts]
  rfl

/-! A sequence in a template. -/

namespace Comma

def text : Text := "run(`x$\x7ba,b\x7d`)"

def built : List Piece := [.text "x", .values ["a,b"], .text []]

def repaired : Text := "run(\"x?\", [a,b])"

def result : Text × List Text := ("\"x?\"", ["a,b"])

def isArray (n : Node) : Bool :=
  match n.kind with
  | .arrayExpression => true
  | _ => false

theorem kind_of_isArray {n : Node} (h : isArray n = true) : n.kind = .arrayExpression := by
  rw [isArray] at h
  split at h
  · assumption
  · cases h

/-- Whether a node is the list of the parameters with two elements in it. -/
def isPair (n : Node) : Bool :=
  isArray n && (Script.ofText repaired).textOf n == listText ["a,b"] &&
    (n.fields .element).length == 2

theorem text_facts :
    Script.isRead text = true ∧ Script.isRead repaired = true ∧
      (∃ call ∈ (Script.ofText text).places, isCandidate call = true ∧
        (target (Script.ofText text) call).toOption.any (fun n =>
          pieces (Script.ofText text) n == built &&
            (parameterized (Script.ofText text) n).toOption == some result) = true) ∧
      ∃ list ∈ (Script.ofText repaired).places, isPair list.node = true := by
  unfold isPair text repaired
  repeat rw [Text.ofString_ofList]
  decide +kernel

end Comma

/-- A parameter can become two elements of the list. The template of this text interpolates a
sequence as it stands. That is one run of operands, so the query has one placeholder and one
parameter, and the array in the repaired text has two elements. -/
theorem sequence_taken_apart :
    ∃ s call query s' list, Script.parse Comma.text = .ok (.ok s) ∧ call ∈ s.places ∧
      isCandidate call = true ∧ target s call = .ok query ∧
      pieces s query = [.text "x", .values ["a,b"], .text []] ∧
      parameterized s query = .ok ("\"x?\"", ["a,b"]) ∧
      Script.parse "run(\"x?\", [a,b])" = .ok (.ok s') ∧ list ∈ s'.places ∧
      list.node.kind = .arrayExpression ∧ s'.textOf list.node = listText ["a,b"] ∧
      (list.node.fields .element).length = 2 := by
  obtain ⟨hread, hrepaired, ⟨call, hcall, hcandidate, hquery⟩, list, hlist, hpair⟩ :=
    Comma.text_facts
  obtain ⟨query, htarget, hquery⟩ := (Option.any_eq_true _ _).mp hquery
  rw [Bool.and_eq_true, beq_iff_eq, beq_iff_eq] at hquery
  simp only [Comma.isPair, Bool.and_eq_true, beq_iff_eq] at hpair
  obtain ⟨⟨harray, htext⟩, hlength⟩ := hpair
  exact ⟨_, call, query, _, list, Script.parse_of_isRead hread, hcall,
    hcandidate, ok_of_toOption htarget, hquery.1, ok_of_toOption hquery.2,
    Script.parse_of_isRead hrepaired, hlist, Comma.kind_of_isArray harray,
    htext, hlength⟩

end Readiness.Query
