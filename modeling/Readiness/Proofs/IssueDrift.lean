import Readiness.Proofs.EditFrame
import Readiness.Proofs.ScriptRepair
import Readiness.Proofs.StableSort

/-!
# How far the line of a pending issue is off

Between two turns an issue that is still to come is known by the line where it
was last noted, and the edits of a turn move that line: by what each edit that
ends on a line above puts in and takes out. Its node moves too, but by all edits
that end before it, on whichever line. The difference between the two is what
the edits do that end before the node on the very line of the node, its
`stray`. It can be any number: a range that starts many lines up may end
there.

So the line is exact as long as edits that end on the line of a node and before
it keep the number of lines, and in particular as long as repairs go from the
bottom up and touch nothing before the nodes that are still to come.
-/

namespace Readiness

/-- The line of an offset, where line feeds part lines. -/
def lineAt (t : Text) (o : Nat) : Nat := lineFeeds (t.take o) + 1

theorem lineAt_mono (t : Text) {a b : Nat} (h : a ≤ b) : lineAt t a ≤ lineAt t b :=
  Nat.succ_le_succ (lineFeeds_take_le t h)

namespace Edit

/-- The edits that end before an offset and on its line. -/
def beside (t : Text) (es : List Edit) (o : Nat) : List Edit :=
  (before es o).filter fun e => decide (lineAt t e.stop = lineAt t o)

end Edit

namespace LineShift

open Edit

/-- How many more line feeds the edits put in than they take out that end before
an offset and on its line. -/
def stray (t : Text) (es : List Edit) (o : Nat) : Int := ((beside t es o).map (gained t)).sum

/-- The edits that move the line of an offset are those that end before the offset
on another line. -/
theorem filter_endsAbove {t : Text} {es : List Edit} {o : Nat} :
    es.filter (endsAbove t (lineAt t o)) =
      (before es o).filter fun e => !decide (lineAt t e.stop = lineAt t o) := by
  rw [before, List.filter_filter]
  refine List.filter_congr fun e _ => ?_
  rw [Bool.eq_iff_iff, endsAbove, decide_eq_true_iff, Bool.and_eq_true, Bool.not_eq_true',
    decide_eq_false_iff_not, decide_eq_true_iff, Int.ofNat_lt]
  change lineAt t e.stop < lineAt t o ↔ _
  constructor
  · intro hlt
    refine ⟨Nat.ne_of_lt hlt, ?_⟩
    by_contra hbehind
    have := lineAt_mono t (Nat.le_of_not_le hbehind)
    omega
  · rintro ⟨hne, hle⟩
    exact Nat.lt_of_le_of_ne (lineAt_mono t hle) hne

/-- What edits gain before an offset is gained above its line or beside it. -/
theorem sum_endsAbove_add_stray (t : Text) (es : List Edit) (o : Nat) :
    ((es.filter (endsAbove t (lineAt t o))).map (gained t)).sum + stray t es o =
      ((before es o).map (gained t)).sum := by
  have hperm := (List.filter_append_perm (fun e => decide (lineAt t e.stop = lineAt t o))
    (before es o)).map (gained t)
  rw [filter_endsAbove, stray, beside, ← hperm.sum_eq, List.map_append, List.sum_append, add_comm]

/-- The line of an offset moves to the line of its landing but for the stray. -/
theorem move_lineAt {t u : Text} {edits : List Edit} (h : Edit.apply t edits = .ok u) {o : Nat}
    (ho : o ≤ t.length) (clear : Clear edits o) :
    move (ofEdits t edits) (lineAt t o) =
      (lineAt u (landing edits o) : Int) - stray t edits o := by
  have hfeeds := lineFeeds_take_landing h ho clear
  have hsum := sum_endsAbove_add_stray t edits o
  have hline : (lineAt t o : Int) = lineFeeds (t.take o) + 1 := rfl
  have hlanding : (lineAt u (landing edits o) : Int) =
      lineFeeds (u.take (landing edits o)) + 1 := rfl
  rw [move_ofEdits]
  omega

/-- Edits that keep the number of lines are off by nothing. -/
theorem stray_of_exact {t : Text} {es : List Edit} {o : Nat}
    (h : ∀ e ∈ es, e.stop ≤ o → lineAt t e.stop = lineAt t o → gained t e = 0) :
    stray t es o = 0 := by
  refine List.sum_eq_zero fun d hd => ?_
  obtain ⟨e, he, rfl⟩ := List.mem_map.mp hd
  obtain ⟨hbefore, hline⟩ := List.mem_filter.mp he
  obtain ⟨hmem, hstop⟩ := mem_before.mp hbefore
  exact h e hmem hstop (of_decide_eq_true hline)

end LineShift

namespace Repair

variable {Tree : Type}

/-! ## One turn -/

/-- By how many lines an attempt leaves the line of an offset off. -/
def Attempt.stray (a : Attempt) (o : Nat) : Int := LineShift.stray a.before a.edits o

/-- The line of an issue that stood where it was noted, after an attempt for another
one that keeps clear of its place. -/
theorem carried_line (g : Grammar Tree) (e : Engine Tree) (t : Text) (i : Issue) {j : Issue}
    {o : Nat} (ho : o ≤ t.length) (clear : Edit.Clear (attempt g e t i).edits o)
    (line : j.line = lineAt t o) :
    ((carried (attempt g e t i).shifts j).line : Int) =
      lineAt (attempt g e t i).after (Edit.landing (attempt g e t i).edits o) -
        (attempt g e t i).stray o := by
  have hmove := LineShift.move_lineAt (attempt_apply g e t i) ho clear
  have hnonneg := attempt_shifts_nonneg g e t i j.line
  have hline : (carried (attempt g e t i).shifts j).line =
      (LineShift.move (attempt g e t i).shifts j.line).toNat := rfl
  rw [hline, Int.toNat_of_nonneg hnonneg, Attempt.shifts_eq, attempt_before, line, hmove,
    Attempt.stray, attempt_before]

/-- What a turn does to an issue that is still to come and was noted on the line of its
node `n`: when the edits keep clear of the node, which goes on as `n'`, the issue is
off by the attempt's stray. So it is within a line of its node, which is as near as
fixers look, exactly as long as the stray is at most one line. -/
theorem turn_drift (g : Grammar Script) (e : Engine Script) (t : Text) (i : Issue)
    {more : List Issue} (made : List Attempt) {k : Nat} {j : Issue} {n n' : Script.Node}
    (pending : more[k]? = some j) (recorded : j.line = n.line)
    (line : n.line = lineAt t n.start) (inText : n.start ≤ n.stop ∧ n.stop ≤ t.length)
    (outside : Edit.Outside (attempt g e t i).edits n.start n.stop)
    (start' : n'.start = Edit.landing (attempt g e t i).edits n.start)
    (line' : n'.line = lineAt (attempt g e t i).after n'.start) :
    ∃ (r : Run) (j' : Issue), Run.turn g e ⟨t, i :: more, made⟩ = .ok r ∧
      r.text = (attempt g e t i).after ∧ r.pending[k]? = some j' ∧ j'.id = j.id ∧
      (j'.line : Int) = n'.line - (attempt g e t i).stray n.start ∧
      (((j'.line : Int) ≤ n'.line + 1 ∧ (n'.line : Int) ≤ j'.line + 1) ↔
        -1 ≤ (attempt g e t i).stray n.start ∧ (attempt g e t i).stray n.start ≤ 1) := by
  have hstart : n.start ≤ t.length := Nat.le_trans inText.1 inText.2
  have hdrift := carried_line g e t i hstart (outside.clear inText.1) (recorded.trans line)
  rw [← start', ← line'] at hdrift
  refine ⟨_, carried (attempt g e t i).shifts j, turn_cons g e t i more made, rfl, ?_, rfl,
    hdrift, ?_⟩
  · rw [allCarried, List.getElem?_map, pending]
    rfl
  · omega

/-! ## Whole runs -/

/-- Where an offset is after some attempts. -/
def landingAfter (o : Nat) : List Attempt → Nat
  | [] => o
  | a :: more => landingAfter (Edit.landing a.edits o) more

/-- None of the attempts reaches across an offset, nor do they put in or take out lines right
before it. -/
def Undisturbed (o : Nat) : List Attempt → Prop
  | [] => True
  | a :: more => o ≤ a.before.length ∧ Edit.Clear a.edits o ∧ a.stray o = 0 ∧
      Undisturbed (Edit.landing a.edits o) more

/-- Repairs further down disturb nothing further up. -/
theorem undisturbed_of_behind {o : Nat} :
    ∀ {attempts : List Attempt},
      (∀ a ∈ attempts, o ≤ a.before.length ∧ ∀ e ∈ a.edits, o ≤ e.start ∧ o < e.stop) →
      Undisturbed o attempts ∧ landingAfter o attempts = o := by
  intro attempts
  induction attempts with
  | nil => exact fun _ => ⟨trivial, rfl⟩
  | cons a more ih =>
      intro h
      obtain ⟨hlength, hbehind⟩ := h a List.mem_cons_self
      obtain ⟨hcalm, hlanding⟩ := ih fun b hb => h b (List.mem_cons_of_mem a hb)
      have hstays : Edit.landing a.edits o = o :=
        Edit.landing_of_behind fun e he => (hbehind e he).2
      have hstray : a.stray o = 0 := LineShift.stray_of_exact fun e he hstop _ =>
        absurd hstop (Nat.not_le.mpr (hbehind e he).2)
      rw [Undisturbed, landingAfter, hstays]
      exact ⟨⟨hlength, fun e he => .inr (hbehind e he).1, hstray, hcalm⟩, hlanding⟩

/-- An issue that was noted on the line of its node and is not disturbed by the attempts
for the issues before it is on the line of its node when its turn comes. -/
theorem course_undisturbed (g : Grammar Tree) (e : Nat → Engine Tree) (t : Text)
    (issues : List Issue) :
    ∀ (k : Nat) (i : Issue) (o : Nat), issues[k]? = some i → i.line = lineAt t o →
      Undisturbed o ((course g e t issues).take k) →
      ∃ a, (course g e t issues)[k]? = some a ∧ a.issue.id = i.id ∧
        a.issue.line = lineAt a.before (landingAfter o ((course g e t issues).take k)) := by
  fun_induction course g e t issues with
  | case1 e t =>
      intro k i o hi
      cases hi
  | case2 e t i more a ih =>
      intro k j o hj hline hcalm
      cases k with
      | zero =>
          cases hj
          have hissue : a.issue = i := attempt_issue g (e 0) t i
          have hbefore : a.before = t := attempt_before g (e 0) t i
          refine ⟨a, rfl, by rw [hissue], ?_⟩
          rw [hissue, hbefore]
          exact hline
      | succ k =>
          obtain ⟨ho, hclear, hstray, hcalm⟩ := hcalm
          have hlater : (allCarried a.shifts more)[k]? = some (carried a.shifts j) := by
            rw [List.getElem?_cons_succ] at hj
            rw [allCarried, List.getElem?_map, hj]
            rfl
          have hbefore : a.before = t := attempt_before g (e 0) t i
          have hcarried : (carried a.shifts j).line = lineAt a.after (Edit.landing a.edits o) := by
            have hdrift := carried_line g (e 0) t i (hbefore ▸ ho) hclear hline
            change ((carried a.shifts j).line : Int) =
              lineAt a.after (Edit.landing a.edits o) - a.stray o at hdrift
            omega
          exact ih k (carried a.shifts j) (Edit.landing a.edits o) hlater hcarried hcalm

/-- How far an issue that is still to come is off. What a turn does to one that was noted on the line
of its node is `turn_drift`. Over a run, one that is not disturbed by the attempts for the issues
before it is on the line of its node when its turn comes; and attempts further down do not
disturb it, nor do they move the node. -/
theorem issue_drift (g : Grammar Script) (t : Text) :
    (∀ (e : Engine Script) (i : Issue) (more : List Issue) (made : List Attempt) (k : Nat)
      (j : Issue) (n n' : Script.Node), more[k]? = some j → j.line = n.line →
      n.line = lineAt t n.start → n.start ≤ n.stop ∧ n.stop ≤ t.length →
      Edit.Outside (attempt g e t i).edits n.start n.stop →
      n'.start = Edit.landing (attempt g e t i).edits n.start →
      n'.line = lineAt (attempt g e t i).after n'.start →
      ∃ (r : Run) (j' : Issue), Run.turn g e ⟨t, i :: more, made⟩ = .ok r ∧
        r.text = (attempt g e t i).after ∧ r.pending[k]? = some j' ∧ j'.id = j.id ∧
        (j'.line : Int) = n'.line - (attempt g e t i).stray n.start ∧
        (((j'.line : Int) ≤ n'.line + 1 ∧ (n'.line : Int) ≤ j'.line + 1) ↔
          -1 ≤ (attempt g e t i).stray n.start ∧ (attempt g e t i).stray n.start ≤ 1)) ∧
    ∀ (e : Nat → Engine Script) (issues : List Issue) (k : Nat) (i : Issue) (o : Nat),
      issues[k]? = some i → i.line = lineAt t o →
      (Undisturbed o ((course g e t issues).take k) →
        ∃ a, (course g e t issues)[k]? = some a ∧ a.issue.id = i.id ∧
          a.issue.line = lineAt a.before (landingAfter o ((course g e t issues).take k))) ∧
      ((∀ a ∈ (course g e t issues).take k,
          o ≤ a.before.length ∧ ∀ e ∈ a.edits, o ≤ e.start ∧ o < e.stop) →
        ∃ a, (course g e t issues)[k]? = some a ∧ a.issue.id = i.id ∧
          a.issue.line = lineAt a.before o) := by
  refine ⟨fun e i more made k j n n' pending recorded line inText outside start' line' =>
    turn_drift g e t i made pending recorded line inText outside start' line', ?_⟩
  intro e issues k i o listed line
  refine ⟨course_undisturbed g e t issues k i o listed line, fun behind => ?_⟩
  obtain ⟨hcalm, hlanding⟩ := undisturbed_of_behind behind
  have hturn := course_undisturbed g e t issues k i o listed line hcalm
  rwa [hlanding] at hturn

/-! A query whose text is built over three lines, and behind it, on the last of them, a
chain that lets rejections pass. -/

namespace Drifting

open Script

def text : Text := "var q=\"SELECT \"+\n\nid;p.then(f);run(q)"

def repaired : Text := "var q=\"SELECT ?\";p.then(f);run(q, [id])"

def queryMark : Issue.Mark := ⟨IssueType.sqlInjection, 3, some 13⟩

def chainMark : Issue.Mark := ⟨IssueType.unhandledPromise, 3, some 3⟩

def proposed : Proposal where
  edits := [⟨6, 20, "\"SELECT ?\"", by decide⟩, Edit.insert 36 ", [id]"]
  explanation := "Converted string concatenation to parameterized query to prevent SQL injection"

/-- The query and the chain are found, and how the query is to be repaired. -/
theorem text_facts :
    Script.isPlain text = true ∧
      (((Script.ofText text).found "input.js").map Issue.mark = [queryMark, chainMark] ∧
        ∃ p ∈ (Script.ofText text).places, p.node.isMethodCall "then" = true ∧
          p.node.start = 21 ∧ p.node.stop = 30 ∧ p.node.line = 3 ∧ p.node.column = some 3) ∧
      (Query.fixer.propose (Script.ofText text)
        (Issue.someAt queryMark.line queryMark.column)).toOption = some proposed := by
  rw [text, Text.ofString_ofList]
  decide +kernel

/-- The chain is on line one then, and on the third line there is none, nor next to it. -/
theorem repaired_facts :
    Script.isPlain repaired = true ∧
      (∃ p ∈ (Script.ofText repaired).places, p.node.isMethodCall "then" = true ∧
        p.node.start = 17 ∧ p.node.line = 1) ∧
      ¬ ∃ p ∈ (Script.ofText repaired).places.filter fun p => p.node.isMethodCall "then",
        p.node.line ≤ 3 + 1 ∧ 3 ≤ p.node.line + 1 := by
  rw [repaired, Text.ofString_ofList]
  decide +kernel

theorem repaired_length : 17 ≤ repaired.length := by
  rw [repaired, Text.ofString_ofList]
  decide +kernel

/-- The chain is listed first, the query is repaired first. -/
theorem text_issues : ∃ a q c, scanTextFor none text "input.js" = .ok a ∧
    processingOrder a.issues = [q, c] ∧ q.mark = queryMark ∧ c.mark = chainMark := by
  refine scan_pair text_facts.1 text_facts.2.1.1 ?_
  rw [StableSort.mergeSort_pair, if_neg (by decide), StableSort.mergeSort_pair,
    if_neg (by decide)]

/-- What the edits of the query's repair write. The chain lands on line one, and they are off by the
two lines that they take out. -/
theorem edits_facts : Edit.apply text proposed.edits = .ok repaired ∧
    lineAt text 21 = 3 ∧ 30 ≤ text.length ∧ Edit.landing proposed.edits 21 = 17 ∧
    lineAt repaired 17 = 1 ∧ LineShift.stray text proposed.edits 21 = -2 := by
  rw [text, repaired]
  repeat rw [Text.ofString_ofList]
  rw [Edit.apply, proposed, Edit.sorted, StableSort.mergeSort_pair]
  decide +kernel

theorem attempt_query {q : Issue} (h : q.mark = queryMark) :
    attempt scriptGrammar scriptEngine text q =
      ⟨q, text, .applied proposed.edits repaired proposed.explanation⟩ := by
  obtain ⟨hplain, -, hpropose⟩ := text_facts
  have happly := edits_facts.1
  exact attempt_of_proposal (fixerFor?_sqlInjection (congrArg Issue.Mark.type h))
    (read_of_isPlain hplain) (Query.propose_of_mark hpropose h) (accept_of_isPlain happly repaired_facts.1)

theorem attempt_lost {c : Issue} (type : c.type = IssueType.unhandledPromise)
    (line : c.line = 3) :
    (attempt scriptGrammar scriptEngine repaired c).succeeded = false := by
  obtain ⟨hplain, -, hfar⟩ := repaired_facts
  have hnone : nearest? ((Script.ofText repaired).places.filter
      fun p => p.node.isMethodCall "then") c.line c.column = none := by
    rwa [← Option.not_isSome_iff_eq_none, nearest?_isSome, line]
  obtain ⟨fault, hpropose⟩ : ∃ fault,
      Rejection.fixer.propose (Script.ofText repaired) c = .error fault := by
    simp only [Rejection.fixer, type, beq_self_eq_true, if_true, Rejection.proposeHandler, hnone]
    exact ⟨_, rfl⟩
  rw [attempt_of_fault (fixerFor?_unhandledPromise type) (read_of_isPlain hplain) hpropose]
  rfl

theorem proposed_outside : Edit.Outside proposed.edits 21 30 := by
  intro e he
  simp only [proposed, List.mem_cons, List.not_mem_nil, or_false] at he
  rcases he with rfl | rfl
  · exact .inl (by decide)
  · exact .inr (by decide)

/-- How the edits of the query's repair move lines. -/
def shifts : List LineShift := LineShift.ofEdits text proposed.edits

theorem carried_chain {c : Issue} (line : c.line = 3) : (carried shifts c).line = 3 := by
  refine line_carried ?_
  rw [line]
  decide

end Drifting

/-- The chain is off by two lines after the turn of the query. On the repaired text, where the chain is
not found, its turn leaves an issue alone that is noted on the line of the chain. -/
theorem issue_drift_sample :
    (∃ (q c c' : Issue) (n n' : Script.Node) (r : Run), c.line = n.line ∧
      Edit.Outside (attempt scriptGrammar scriptEngine Drifting.text q).edits n.start n.stop ∧
      Run.turn scriptGrammar scriptEngine ⟨Drifting.text, [q, c], []⟩ = .ok r ∧
      r.pending[0]? = some c' ∧ (c'.line : Int) = n'.line + 2) ∧
    ∃ (c x : Issue) (a : Attempt), x.line = lineAt Drifting.repaired 17 ∧
      (course scriptGrammar (fun _ => scriptEngine) Drifting.repaired [c, x])[1]? = some a ∧
      a.issue.id = x.id ∧ a.issue.line = lineAt a.before 17 := by
  obtain ⟨-, q, c, -, -, hq, hc⟩ := Drifting.text_issues
  obtain ⟨-, ⟨-, p, -, -, hstart, hstop, hline, -⟩, -⟩ := Drifting.text_facts
  obtain ⟨-, ⟨p', -, -, hstart', hline'⟩, -⟩ := Drifting.repaired_facts
  obtain ⟨-, htextLine, hlength, hlands, hrepairedLine, hoff⟩ := Drifting.edits_facts
  have hattempt := Drifting.attempt_query hq
  have hrecorded : c.line = p.node.line := (congrArg Issue.Mark.line hc).trans hline.symm
  have hcounted : p.node.line = lineAt Drifting.text p.node.start := by
    rw [hline, hstart]
    exact htextLine.symm
  have hinText : p.node.start ≤ p.node.stop ∧ p.node.stop ≤ Drifting.text.length := by
    rw [hstart, hstop]
    exact ⟨by decide, hlength⟩
  have houtside : Edit.Outside (attempt scriptGrammar scriptEngine Drifting.text q).edits
      p.node.start p.node.stop := by
    rw [hattempt, hstart, hstop]
    exact Drifting.proposed_outside
  have hlanding : p'.node.start =
      Edit.landing (attempt scriptGrammar scriptEngine Drifting.text q).edits p.node.start := by
    rw [hattempt, hstart, hstart']
    exact hlands.symm
  have hcounted' : p'.node.line =
      lineAt (attempt scriptGrammar scriptEngine Drifting.text q).after p'.node.start := by
    rw [hattempt, hline', hstart']
    exact hrepairedLine.symm
  have hpending : [c][0]? = some c := rfl
  obtain ⟨r, c', hturn, -, hc', -, hdrift, -⟩ := (issue_drift scriptGrammar Drifting.text).1
    scriptEngine q [c] [] 0 c p.node p'.node hpending hrecorded hcounted hinText houtside hlanding
    hcounted'
  have hstray : (attempt scriptGrammar scriptEngine Drifting.text q).stray p.node.start = -2 := by
    rw [hattempt, hstart]
    exact hoff
  refine ⟨⟨q, c, c', p.node, p'.node, r, hrecorded, houtside, hturn, hc', by omega⟩, ?_⟩
  -- the attempt for the chain fails on the other text, so it disturbs nothing
  let x : Issue := Sample.issue "top" 1
  obtain ⟨htype, hlineOf, -⟩ := Issue.Mark.mk.inj hc
  have hfailed := Drifting.attempt_lost htype hlineOf
  have hlisted : [c, x][1]? = some x := rfl
  have hbehind : ∀ a ∈ (course scriptGrammar (fun _ => scriptEngine) Drifting.repaired [c, x]).take 1,
      17 ≤ a.before.length ∧ ∀ e ∈ a.edits, 17 ≤ e.start ∧ 17 < e.stop := by
    rw [course, List.take_succ_cons, List.take_zero, List.forall_mem_singleton, attempt_before,
      Attempt.edits_of_failed hfailed]
    exact ⟨Drifting.repaired_length, List.forall_mem_nil _⟩
  obtain ⟨a, ha, hid, hline⟩ := ((issue_drift scriptGrammar Drifting.repaired).2
    (fun _ => scriptEngine) [c, x] 1 x 17 hlisted hrepairedLine.symm).2 hbehind
  exact ⟨c, x, a, hrepairedLine.symm, ha, hid, hline⟩

/-- Issues of a scan can drift past the line next to their node's. The chain of this text
stands outside of the edits for the query and is noted on its own line when the turn of the query
comes; after that turn it starts on line one, is looked for on line three, and its repair
fails. -/
theorem drift_exceeds_tolerance :
    ∃ (a : Analysis) (q c c' : Issue) (s s' : Script) (p p' : Script.Place) (r : Run),
      scanTextFor none Drifting.text "input.js" = .ok a ∧
      Script.parse Drifting.text = .ok (.ok s) ∧
      processingOrder a.issues = [q, c] ∧
      p ∈ s.places ∧ p.node.isMethodCall "then" = true ∧
      c.line = p.node.line ∧ c.column = p.node.column ∧
      Edit.Outside (attempt scriptGrammar scriptEngine Drifting.text q).edits
        p.node.start p.node.stop ∧
      (Run.start Drifting.text a.issues).turn scriptGrammar scriptEngine = .ok r ∧
      r.pending = [c'] ∧ c'.id = c.id ∧
      Script.parse r.text = .ok (.ok s') ∧
      p' ∈ s'.places ∧ p'.node.isMethodCall "then" = true ∧
      p'.node.start = Edit.landing
        (attempt scriptGrammar scriptEngine Drifting.text q).edits p.node.start ∧
      p'.node.line + 1 < c'.line ∧
      (attempt scriptGrammar scriptEngine r.text c').succeeded = false := by
  obtain ⟨a, q, c, hscan, horder, hq, hc⟩ := Drifting.text_issues
  obtain ⟨hplain, ⟨-, p, hmem, hthen, hstart, hstop, hline, hcolumn⟩, -⟩ := Drifting.text_facts
  obtain ⟨hplain', ⟨p', hmem', hthen', hstart', hline'⟩, -⟩ := Drifting.repaired_facts
  obtain ⟨htype, hlineOf, hcolumnOf⟩ := Issue.Mark.mk.inj hc
  have hattempt := Drifting.attempt_query hq
  have hcarried := Drifting.carried_chain hlineOf
  have hturn := turn_cons scriptGrammar scriptEngine Drifting.text q [c] []
  refine ⟨a, q, c, carried Drifting.shifts c, Script.ofText Drifting.text,
    Script.ofText Drifting.repaired, p, p',
    ⟨Drifting.repaired, [carried Drifting.shifts c],
      [attempt scriptGrammar scriptEngine Drifting.text q]⟩,
    hscan, Script.parse_of_isPlain hplain, horder, hmem, hthen,
    hlineOf.trans hline.symm, hcolumnOf.trans hcolumn.symm, ?_, ?_, rfl, rfl,
    Script.parse_of_isPlain hplain', hmem', hthen', ?_, ?_,
    Drifting.attempt_lost htype hcarried⟩
  · rw [hattempt, hstart, hstop]
    exact Drifting.proposed_outside
  · rw [hattempt] at hturn ⊢
    rw [Run.start, horder]
    exact hturn
  · rw [hattempt, hstart, hstart']
    exact Drifting.edits_facts.2.2.2.1.symm
  · rw [hline', hcarried]
    decide

end Repair
end Readiness
