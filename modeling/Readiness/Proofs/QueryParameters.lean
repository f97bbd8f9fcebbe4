import Readiness.Proofs.EditFrame
import Readiness.Proofs.RepairErasure
import Readiness.Proofs.ScriptRepair
import Readiness.Proofs.StableSort

/-!
# Where the parameters of a repaired query go

A query that is built from text and values is repaired in two places: the text gets
a placeholder for each run of values, and the call that runs the query gets the
values as its second argument. When the text is built in the call itself, the two
places are one argument apart and belong together.

They do not when the call runs a variable. The text is then that of the variable's
declaration, and the issue leads to one of the calls that run it. `attempt_parameters`
says what a repair that succeeds does in either case, and it says it of one call: the
numbers of placeholders and of parameters agree, the parameters go to the call that
the issue led to, and whatever else stands outside of the two edits is kept as it is
written. What is kept so includes every other call that runs the variable. Such a call
has an issue of its own, but by the time its turn comes the variable's text is built
from nothing any more, the repair fails, and the call stays without parameters for the
placeholders that it runs now.
-/

namespace Readiness.Query

open Script Repair

/-! ## One parameter for each run of values -/

/-- Whether a piece is a run of expressions. -/
def Piece.isValues : Piece → Bool
  | .text _ => false
  | .values _ => true

theorem assembleFrom_params {p : Parameterized} :
    ∀ {pieces : List Piece} {sql : Text} {params : List Text} {skip : Nat},
      assembleFrom sql params skip pieces = .ok p →
      p.params.length = params.length + pieces.countP Piece.isValues := by
  intro pieces
  induction pieces with
  | nil =>
      intro sql params skip h
      rw [assembleFrom] at h
      cases h
      exact List.length_reverse
  | cons piece more ih =>
      intro sql params skip h
      rw [assembleFrom.eq_def] at h
      rw [List.countP_cons]
      cases piece with
      | text t =>
          have hmore := ih h
          simpa only [Piece.isValues, Bool.false_eq_true, if_false, Nat.add_zero] using hmore
      | values run =>
          simp only at h
          cases hunquoted : unquoted sql more with
          | error b => rw [hunquoted] at h; cases h
          | ok around =>
              rw [hunquoted] at h
              have hmore := ih h
              rw [List.length_cons] at hmore
              simp only [Piece.isValues, if_true]
              omega

theorem parameterized_params {s : Script} {query : Node} {literal : Text} {params : List Text}
    (h : parameterized s query = .ok (literal, params)) :
    params.length = (pieces s query).countP Piece.isValues := by
  rw [parameterized, assemble] at h
  cases hp : assembleFrom [] [] 0 (pieces s query) with
  | error b => rw [hp] at h; cases h
  | ok p =>
      rw [hp] at h
      cases h
      simpa only [List.length_nil, Nat.zero_add] using assembleFrom_params hp

/-! ## The proposal -/

theorem propose_ok {s : Script} {i : Issue} {p : Proposal} (h : propose s i = .ok p) :
    ∃ call query literal params main more,
      nearest? (s.places.filter isCandidate) i.line i.column = some call ∧
      isParameterized call.node = false ∧ target s call = .ok query ∧
      parameterized s query = .ok (literal, params) ∧ replacement query literal = .ok main ∧
      (if params.isEmpty then .ok [] else insertion s call.node params) = .ok more ∧
      p.edits = main :: more := by
  rw [propose] at h
  split at h
  · next call hcall =>
      cases hparameterized : isParameterized call.node with
      | true =>
          simp only [hparameterized, if_true] at h
          cases h
      | false =>
          simp only [hparameterized, Bool.false_eq_true, if_false] at h
          obtain ⟨query, hquery, h⟩ := exists_of_bind_ok h
          obtain ⟨⟨literal, params⟩, hparams, h⟩ := exists_of_bind_ok h
          obtain ⟨main, hmain, h⟩ := exists_of_bind_ok h
          have hparams := ok_of_mapError hparams
          cases hempty : params.isEmpty with
          | true =>
              simp only [hempty, if_true] at h
              cases h
              exact ⟨call, query, literal, params, main, [], hcall, hparameterized, hquery,
                hparams, hmain, if_pos hempty, rfl⟩
          | false =>
              simp only [hempty, Bool.false_eq_true, if_false] at h
              obtain ⟨more, hmore, h⟩ := exists_of_bind_ok h
              cases h
              refine ⟨call, query, literal, params, main, more, hcall, hparameterized, hquery,
                hparams, hmain, ?_, rfl⟩
              rw [if_neg (Bool.eq_false_iff.mp hempty)]
              exact hmore
  · cases h

/-- Parameters as they are written. -/
def listText (params : List Text) : Text := "[" ++ Text.join ", " params ++ "]"

/-- The edits that make parameters the second argument of a call: behind its only argument
with the parentheses around it, or in front of the second one. -/
inductive Inserts (s : Script) (call : Node) (params : List Text) : Edit → Prop where
  | behind {first : Node} {start stop : Nat} (only : call.arguments = [first])
      (span : argumentSpan s call first = .ok (start, stop)) :
      Inserts s call params (Edit.insert stop (", " ++ listText params))
  | inFront {first second : Node} {more : List Node} {start stop : Nat}
      (several : call.arguments = first :: second :: more)
      (span : argumentSpan s call second = .ok (start, stop)) :
      Inserts s call params (Edit.insert start (listText params ++ ", "))

theorem insertion_ok {s : Script} {call : Node} {params : List Text} {more : List Edit}
    (arguments : call.arguments ≠ []) (h : insertion s call params = .ok more) :
    ∃ e, Inserts s call params e ∧ more = [e] := by
  rw [insertion] at h
  split at h
  · next first second rest hargs =>
      obtain ⟨⟨start, stop⟩, hspan, h⟩ := exists_of_bind_ok h
      cases h
      exact ⟨_, .inFront hargs hspan, rfl⟩
  · next first rest hnot hargs =>
      obtain ⟨⟨start, stop⟩, hspan, h⟩ := exists_of_bind_ok h
      cases h
      cases rest with
      | nil => exact ⟨_, .behind hargs hspan, rfl⟩
      | cons second rest => exact absurd rfl (hnot second rest)
  · next hargs => exact absurd hargs arguments

theorem target_arguments {s : Script} {call : Place} {query : Node}
    (h : target s call = .ok query) : call.node.arguments ≠ [] := by
  intro hargs
  have hnone : builtText? s call = none := by rw [builtText?, hargs]
  rw [target, hnone, hargs] at h
  cases h

theorem replacement_ok {n : Node} {t : Text} {e : Edit} (h : replacement n t = .ok e) :
    e.start = n.start ∧ e.stop = n.stop ∧ e.replacement = t :=
  Edit.ofRange_ok (ok_of_mapError h)

/-- What the repair of a query does that succeeds. The runs of values in the query's text give
way to placeholders, one for each parameter. The parameters become the second
argument of the one call that the issue led to, and there is such an edit whenever
there is a parameter. Whatever else lies outside of the two edits stays as it is
written, other calls that run the same text among it: they get no parameters. -/
theorem attempt_parameters {t u explanation : Text} {i : Issue} {edits : List Edit}
    (type : i.type = IssueType.sqlInjection)
    (applied : (attempt scriptGrammar scriptEngine t i).verdict = .applied edits u explanation) :
    ∃ s call query literal params main, Script.parse t = .ok (.ok s) ∧
      nearest? (s.places.filter isCandidate) i.line i.column = some call ∧
      target s call = .ok query ∧ parameterized s query = .ok (literal, params) ∧
      params.length = (pieces s query).countP Piece.isValues ∧
      main.start = query.start ∧ main.stop = query.stop ∧ main.replacement = literal ∧
      (params = [] ∧ edits = [main] ∨
        params ≠ [] ∧ ∃ e, Inserts s call.node params e ∧ edits = [main, e]) ∧
      ∀ n : Node, n.start ≤ n.stop → n.stop ≤ t.length →
        Edit.Outside edits n.start n.stop →
        u.slice (Edit.landing edits n.start) (Edit.landing edits n.start + (n.stop - n.start)) =
          s.textOf n := by
  obtain ⟨f, s, hf, hread, hpropose, haccept⟩ := attempt_proposal applied
  rw [fixerFor?_sqlInjection type] at hf
  cases hf
  have hparse := scriptGrammar_read.mp hread
  obtain ⟨call, query, literal, params, main, more, hcall, -, hquery, hparams, hmain, hmore,
    hedits⟩ := propose_ok hpropose
  obtain ⟨hstart, hstop, hliteral⟩ := replacement_ok hmain
  refine ⟨s, call, query, literal, params, main, hparse, hcall, hquery, hparams,
    parameterized_params hparams, hstart, hstop, hliteral, ?_, ?_⟩
  · cases params with
    | nil =>
        cases hmore
        exact .inl ⟨rfl, hedits⟩
    | cons first rest =>
        obtain ⟨e, he, rfl⟩ := insertion_ok (target_arguments hquery) hmore
        exact .inr ⟨List.cons_ne_nil _ _, e, he, hedits⟩
  · intro n hordered hlength houtside
    rw [Script.textOf, Script.text_of_parse hparse]
    exact Edit.slice_landing (accept_ok haccept).1 hordered hlength houtside

/-! Two calls that run the text of one variable. -/

namespace Shared

def text : Text := "var q=\"SELECT \"+id;\nrun(q);\nrun(q)"

def repaired : Text := "var q=\"SELECT ?\";\nrun(q);\nrun(q, [id])"

def firstMark : Issue.Mark := ⟨IssueType.sqlInjection, 2, some 0⟩

def secondMark : Issue.Mark := ⟨IssueType.sqlInjection, 3, some 0⟩

def main : Edit := ⟨6, 18, "\"SELECT ?\"", by decide⟩

def proposed : Proposal where
  edits := [main, Edit.insert 33 ", [id]"]
  explanation := "Converted string concatenation to parameterized query to prevent SQL injection"

/-- Both calls are found, they run what `main` is to replace, and how the second one is to be
repaired. -/
theorem text_facts :
    Script.isPlain text = true ∧
      (((Script.ofText text).found "input.js").map Issue.mark = [firstMark, secondMark] ∧
        ∃ d ∈ (Script.ofText text).places, declares d.node "q" = true ∧
          (d.node.field? .init).map (fun e => (e.start, e.stop)) =
            some (main.start, main.stop)) ∧
      (Query.fixer.propose (Script.ofText text)
        (Issue.someAt secondMark.line secondMark.column)).toOption = some proposed := by
  rw [text, Text.ofString_ofList]
  decide +kernel

/-- The repaired text is what the edits write. The first call still runs the variable, but its text
is no longer built from values. -/
theorem repaired_facts :
    Edit.apply text proposed.edits = .ok repaired ∧ Script.isPlain repaired = true ∧
      ((∃ d ∈ (Script.ofText repaired).places, declares d.node "q" = true ∧
          (d.node.field? .init).bind Node.string? = some (Text.ofString "SELECT ?")) ∧
        ∃ call ∈ (Script.ofText repaired).places, isCandidate call = true ∧
          call.node.line = 2 ∧
          call.node.arguments.map Node.identifier? = [some (Text.ofString "q")]) ∧
      (Query.fixer.propose (Script.ofText repaired) (Issue.someAt 2 (some 0))).toOption = none := by
  refine ⟨?applied, ?_⟩
  case applied =>
    rw [text, repaired]
    repeat rw [Text.ofString_ofList]
    rw [Edit.apply, proposed, Edit.sorted, StableSort.mergeSort_pair]
    decide +kernel
  rw [repaired, Text.ofString_ofList]
  decide +kernel

/-- The call further down is repaired first. -/
theorem text_issues : ∃ a j i, scanTextFor none text "input.js" = .ok a ∧
    processingOrder a.issues = [j, i] ∧ j.mark = secondMark ∧ i.mark = firstMark := by
  refine scan_pair text_facts.1 text_facts.2.1.1 ?_
  rw [StableSort.mergeSort_pair, if_pos (by decide), StableSort.mergeSort_pair,
    if_neg (by decide)]

theorem attempt_second {j : Issue} (h : j.mark = secondMark) :
    attempt scriptGrammar scriptEngine text j =
      ⟨j, text, .applied proposed.edits repaired proposed.explanation⟩ := by
  obtain ⟨hplain, -, hpropose⟩ := text_facts
  obtain ⟨happly, hrepaired, -⟩ := repaired_facts
  exact attempt_of_proposal (fixerFor?_sqlInjection (congrArg Issue.Mark.type h))
    (read_of_isPlain hplain) (Query.propose_of_mark hpropose h) (accept_of_isPlain happly hrepaired)

theorem attempt_first {i : Issue} (type : i.type = IssueType.sqlInjection) (line : i.line = 2)
    (column : i.column = some 0) :
    (attempt scriptGrammar scriptEngine repaired i).succeeded = false := by
  obtain ⟨-, hplain, -, hpropose⟩ := repaired_facts
  rw [← line, ← column] at hpropose
  exact Query.attempt_declined hplain type hpropose

/-- How the edits of the second call's repair move lines. -/
def shifts : List LineShift := LineShift.ofEdits text proposed.edits

theorem carried_first {i : Issue} (line : i.line = 2) : (carried shifts i).line = 2 := by
  refine line_carried ?_
  rw [line]
  decide

end Shared

theorem attempt_parameters_sample :
    ∃ j : Issue, j.type = IssueType.sqlInjection ∧
      (attempt scriptGrammar scriptEngine Shared.text j).verdict =
        .applied Shared.proposed.edits Shared.repaired Shared.proposed.explanation ∧
      ∃ s call query literal params, Script.parse Shared.text = .ok (.ok s) ∧
        target s call = .ok query ∧ parameterized s query = .ok (literal, params) ∧
        params ≠ [] := by
  obtain ⟨-, j, -, -, -, hj, -⟩ := Shared.text_issues
  have hattempt := Shared.attempt_second hj
  have htype : j.type = IssueType.sqlInjection := congrArg Issue.Mark.type hj
  have hverdict := congrArg Attempt.verdict hattempt
  obtain ⟨s, call, query, literal, params, main, hparse, -, hquery, hparams, -, -, -, -, hedits,
    -⟩ := attempt_parameters htype hverdict
  refine ⟨j, htype, hverdict, s, call, query, literal, params, hparse, hquery, hparams, ?_⟩
  rcases hedits with ⟨-, hone⟩ | ⟨hsome, -⟩
  · cases hone
  · exact hsome

/-- A repair can leave a call without the parameters of its query. Both calls of this
text run the text of the variable `q`. The repair of the second one puts a
placeholder there and succeeds, the one of the first one fails, and the first call
still runs the variable, now with a placeholder and nothing to put in its place. -/
theorem call_without_parameters :
    ∃ (a : Analysis) (j i : Issue) (r : Repaired) (s s' : Script) (d d' call : Place),
      scanTextFor none Shared.text "input.js" = .ok a ∧ processingOrder a.issues = [j, i] ∧
      Script.parse Shared.text = .ok (.ok s) ∧
      d ∈ s.places ∧ declares d.node "q" = true ∧
      (attempt scriptGrammar scriptEngine Shared.text j).edits =
        [Shared.main, Edit.insert 33 ", [id]"] ∧
      (d.node.field? .init).map (fun e => (e.start, e.stop)) =
        some (Shared.main.start, Shared.main.stop) ∧
      repair scriptGrammar scriptEngine "input.js" Shared.text a.issues = .ok r ∧
      r.ledger.map (·.success) = [true, false] ∧
      Script.parse r.text = .ok (.ok s') ∧
      d' ∈ s'.places ∧ declares d'.node "q" = true ∧
      (d'.node.field? .init).bind Node.string? = some (Text.ofString "SELECT ?") ∧
      call ∈ s'.places ∧ isCandidate call = true ∧
      call.node.arguments.map Node.identifier? = [some (Text.ofString "q")] := by
  obtain ⟨a, j, i, hscan, horder, hj, hi⟩ := Shared.text_issues
  obtain ⟨hplain, ⟨-, d, hd, hdeclares, hinit⟩, -⟩ := Shared.text_facts
  obtain ⟨-, hplain', ⟨⟨d', hd', hdeclares', hinit'⟩, hcalled⟩, -⟩ := Shared.repaired_facts
  obtain ⟨call, hcall, hcandidate, -, harguments⟩ := hcalled
  obtain ⟨htype, hline, hcolumn⟩ := Issue.Mark.mk.inj hi
  have hattempt := Shared.attempt_second hj
  have hfirst := Shared.attempt_first (i := carried Shared.shifts i) htype
    (Shared.carried_first hline) hcolumn
  have hlast : (attempt scriptGrammar scriptEngine Shared.repaired (carried Shared.shifts i)).after =
      Shared.repaired := (Attempt.after_of_failed hfirst).trans (attempt_before _ _ _ _)
  have hattempts : attempts scriptGrammar (fun _ => scriptEngine) Shared.text a.issues =
      [attempt scriptGrammar scriptEngine Shared.text j,
        attempt scriptGrammar scriptEngine Shared.repaired (carried Shared.shifts i)] := by
    have hpair := attempts_pair (g := scriptGrammar) (e := fun _ => scriptEngine)
      (t := Shared.text) horder
    rw [hattempt] at hpair ⊢
    exact hpair
  have hrepair := repairInTurns_parsed (read_of_isPlain hplain) (fun _ => scriptEngine)
    "input.js" a.issues
  rw [hattempts] at hrepair
  refine ⟨a, j, i, _, Script.ofText Shared.text, Script.ofText Shared.repaired, d, d', call, hscan,
    horder, Script.parse_of_isPlain hplain, hd, hdeclares, ?_, hinit, hrepair, ?_, ?_,
    hd', hdeclares', hinit', hcall, hcandidate, harguments⟩
  · rw [hattempt]
    rfl
  · simp only [List.map_cons, List.map_nil, entry_success, hfirst, hattempt]
    rfl
  · rw [lastText, lastText, lastText, hlast]
    exact Script.parse_of_isPlain hplain'

end Readiness.Query
