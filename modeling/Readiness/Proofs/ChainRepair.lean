import Readiness.Proofs.Findings
import Readiness.Proofs.QueryParameters
import Readiness.Proofs.RepairErasure
import Readiness.Proofs.RepairLedger
import Readiness.Proofs.SecretRead
import Readiness.Proofs.StatementTrees

/-!
# Repairs that succeed and change nothing

A repair of a chain that already handles rejections succeeds without an edit, and
no other repair does. The detector reports no such chain: whatever it finds wrong
with a `then` call, the fixer would find wrong too, if it looked at the same call.
It looks at the nearest call, though, and that is the first one that starts where
the reported one does. All calls of a chain start at one place, and the chain that
the detector sees is shorter than what starts there: it ends at the first read of
a property that is not called. So a handler on one side of such a read is taken
for one on the other.
-/

namespace Readiness

namespace Script

/-! ## Steps that come from the callee -/

namespace Place

/-- The steps from a node up that say to come from a callee come from the callee. -/
def ComesFromCallees : Node → List Step → Prop
  | _, [] => True
  | n, s :: more =>
    (s.role = .callee → s.parent.field? .callee = some n) ∧ ComesFromCallees s.parent more

theorem lookup_callee {children : List (Role × Node)} {n : Node}
    (one : callees children ≤ 1)
    (mem : (Role.callee, n) ∈ children) : children.lookup .callee = some n := by
  induction children with
  | nil => cases mem
  | cons child more ih =>
      obtain ⟨r, c⟩ := child
      rw [callees, List.countP_cons] at one
      by_cases hr : r = .callee
      · subst hr
        have hnone : more.countP (fun c => c.1 == .callee) = 0 := by
          rw [if_pos (beq_self_eq_true Role.callee)] at one
          omega
        rcases List.mem_cons.mp mem with hhead | hmore
        · cases hhead
          exact List.lookup_cons_self
        · exact absurd (beq_self_eq_true Role.callee) (List.countP_eq_zero.mp hnone _ hmore)
      · have hother : (Role.callee == r) = false := beq_eq_false_iff_ne.mpr (Ne.symm hr)
        rcases List.mem_cons.mp mem with hhead | hmore
        · cases hhead
          exact absurd rfl hr
        · rw [List.lookup_cons, hother]
          exact ih (Nat.le_trans (Nat.le_add_right _ _) one) hmore

mutual

theorem comesFromCallees_within (above : List Step) :
    ∀ n : Node, n.hasOneCallee = true → ComesFromCallees n above →
      ∀ p ∈ within above n, ComesFromCallees p.node p.above
  | .mk kind span children, one, steps, p, hp => by
      rw [Node.hasOneCallee, Bool.and_eq_true, decide_eq_true_iff] at one
      rw [within] at hp
      rcases List.mem_cons.mp hp with rfl | hp
      · exact steps
      · obtain ⟨q, hq, hp⟩ := List.mem_flatMap.mp hp
        exact comesFromCallees_childPlaces (.mk kind span children) above 0 children one.2
          (fun c hc => lookup_callee one.1 hc) steps q (List.mem_mergeSort.mp hq) p hp

theorem comesFromCallees_childPlaces (parent : Node) (above : List Step) (number : Nat) :
    ∀ children : List (Role × Node), Node.haveOneCallee children = true →
      (∀ c, (Role.callee, c) ∈ children → parent.field? .callee = some c) →
      ComesFromCallees parent above →
      ∀ q ∈ childPlaces parent above number children, ∀ p ∈ q.2, ComesFromCallees p.node p.above
  | [], _, _, _, q, hq, _, _ => by
      rw [childPlaces] at hq
      cases hq
  | (r, c) :: more, one, fields, steps, q, hq, p, hp => by
      rw [Node.haveOneCallee, Bool.and_eq_true] at one
      rw [childPlaces] at hq
      rcases List.mem_cons.mp hq with rfl | hq
      · have hstep : ComesFromCallees c (⟨parent, r, number⟩ :: above) :=
          ⟨fun hr => fields c (hr ▸ List.mem_cons_self), steps⟩
        exact comesFromCallees_within _ c one.1 hstep p hp
      · exact comesFromCallees_childPlaces parent above (number + 1) more one.2
          (fun d hd => fields d (List.mem_cons_of_mem _ hd)) steps q hq p hp

end

theorem isMethodCall_of_mem_chainAbove {above : List Step} {n : Node}
    (steps : ComesFromCallees n above) {called : Option Text × Place}
    (mem : called ∈ chainAbove.go above) (name : Text) :
    called.2.node.isMethodCall name = (called.1 == some name) := by
  induction above using chainAbove.go.induct generalizing n with
  | case1 m c more hlink ih =>
      rw [chainAbove.go, if_pos hlink] at mem
      simp only [Bool.and_eq_true, beq_iff_eq] at hlink
      obtain ⟨⟨⟨hmember, -⟩, hcall⟩, hrole⟩ := hlink
      obtain ⟨-, hcallee, hmore⟩ := steps
      rcases List.mem_cons.mp mem with rfl | hlater
      · simp only [Node.isMethodCall, hcall, hcallee hrole, hmember, Bool.true_and]
      · exact ih hmore hlater
  | case2 m c more hlink =>
      rw [chainAbove.go, if_neg hlink] at mem
      cases mem
  | case3 above hshort =>
      rw [chainAbove.go] at mem
      · cases mem
      · exact hshort

end Place

/-- The steps of the places of a script. -/
theorem comesFromCallees_places {s : Script} (one : s.program.hasOneCallee = true) {p : Place}
    (mem : p ∈ s.places) : Place.ComesFromCallees p.node p.above := by
  rw [places, Place.walk_eq_within] at mem
  exact Place.comesFromCallees_within [] s.program one trivial p mem

end Script

namespace Rejection

open Script Repair

/-- A `then` call that is reported has a chain that does not handle rejections. -/
theorem handlesRejections_of_letsRejectionsPass {p : Place}
    (steps : Place.ComesFromCallees p.node p.above) (passes : letsRejectionsPass p = true) :
    handlesRejections p = false := by
  rw [letsRejectionsPass] at passes
  simp only [Bool.and_eq_true, decide_eq_true_eq, Bool.not_eq_true'] at passes
  obtain ⟨⟨⟨-, hfew⟩, hlast⟩, hcatch⟩ := passes
  rw [handlesRejections]
  simp only [hcatch, Bool.or_false, Bool.and_eq_false_iff, decide_eq_false_iff_not, Nat.not_le]
  cases htop : p.chainAbove.getLast? with
  | none =>
      right
      rw [Place.chainTop, htop]
      exact hfew
  | some called =>
      left
      have hmem : called ∈ p.chainAbove := List.mem_of_getLast? htop
      have hname := List.all_eq_true.mp hlast called hmem
      have htop' : p.chainTop = called.2 := by
        rw [Place.chainTop, htop]
        rfl
      rw [htop', Place.isMethodCall_of_mem_chainAbove steps hmem]
      exact Bool.not_eq_true' _ ▸ hname

theorem chainIssue_ok {s : Script} {context : Readiness.Context} {file : Text} {p : Place}
    {i : Issue} (h : chainIssue? s context file p = .ok (some i)) :
    letsRejectionsPass p = true ∧
      i.mark = ⟨IssueType.unhandledPromise, p.node.line, p.node.column⟩ := by
  refine ⟨?_, (reports_of_chainIssue? h).mark⟩
  rw [chainIssue?] at h
  split at h
  · cases h
  · next hpasses => rwa [Bool.not_eq_true', Bool.not_eq_false] at hpasses

theorem proposeWrapping_ok {s : Script} {i : Issue} {p : Proposal}
    (h : proposeWrapping s i = .ok p) : ∃ edit, p.edits = [edit] := by
  rw [proposeWrapping] at h
  split at h
  · next f _ =>
      split at h
      · cases h
      · obtain ⟨name, -, h⟩ := exists_of_bind_ok h
        obtain ⟨payment, -, h⟩ := exists_of_bind_ok h
        obtain ⟨edit, -, h⟩ := exists_of_bind_ok h
        cases h
        exact ⟨edit, rfl⟩
  · cases h

theorem proposeHandler_ok {s : Script} {i : Issue} {p : Proposal}
    (h : proposeHandler s i = .ok p) :
    ∃ q, nearest? (s.places.filter fun p => p.node.isMethodCall "then") i.line i.column = some q ∧
      p = chainProposal q := by
  rw [proposeHandler] at h
  split at h
  · next q hq =>
      cases h
      exact ⟨q, hq, rfl⟩
  · cases h

theorem chainProposal_edits (q : Place) :
    (chainProposal q).edits = [] ↔ handlesRejections q = true := by
  rw [chainProposal]
  cases handlesRejections q with
  | true => exact ⟨fun _ => rfl, fun _ => rfl⟩
  | false => exact ⟨nofun, nofun⟩

/-- The attempts that succeed without an edit, whatever the text and the issue: those for a
chain whose nearest `then` call handles rejections. -/
theorem attempt_silent (t : Text) (i : Issue) :
    (∃ explanation, (attempt scriptGrammar scriptEngine t i).verdict =
        .applied [] t explanation) ↔
      i.type = IssueType.unhandledPromise ∧ ∃ s q, Script.parse t = .ok (.ok s) ∧
        nearest? (s.places.filter fun p => p.node.isMethodCall "then") i.line i.column = some q ∧
        handlesRejections q = true := by
  constructor
  · rintro ⟨explanation, hverdict⟩
    obtain ⟨f, s, hf, hread, hpropose, -⟩ := attempt_proposal hverdict
    have hparse := scriptGrammar_read.mp hread
    rcases fixerFor?_cases hf with ⟨-, rfl⟩ | ⟨htype, rfl⟩ | ⟨-, rfl⟩
    · obtain ⟨-, -, -, -, main, more, -, -, -, -, -, -, hedits⟩ := Query.propose_ok hpropose
      cases hedits
    · rw [Rejection.fixer] at hpropose
      simp only at hpropose
      split at hpropose
      · next hchain =>
          obtain ⟨q, hq, hproposal⟩ := proposeHandler_ok hpropose
          have hedits : (chainProposal q).edits = [] := by rw [← hproposal]
          exact ⟨eq_of_beq hchain, s, q, hparse, hq, (chainProposal_edits q).mp hedits⟩
      · obtain ⟨edit, hedits⟩ := proposeWrapping_ok hpropose
        cases hedits
    · obtain ⟨-, -, -, edit, -, -, hedits, -⟩ := Secret.propose_ok hpropose
      cases hedits
  · rintro ⟨htype, s, q, hparse, hq, hhandles⟩
    have hpropose : Rejection.fixer.propose s i = .ok (chainProposal q) := by
      simp only [Rejection.fixer, htype, beq_self_eq_true, if_true, proposeHandler, hq]
      rfl
    have hedits := (chainProposal_edits q).mpr hhandles
    have haccept : accept scriptGrammar t (scriptGrammar.problems s) (chainProposal q).edits =
        .ok t := by
      rw [hedits, accept, Edit.apply_nil]
      rfl
    have hattempt := attempt_of_proposal (fixerFor?_unhandledPromise htype)
      (scriptGrammar_read.mpr hparse) hpropose haccept
    rw [hedits] at hattempt
    exact ⟨(chainProposal q).explanation, congrArg Attempt.verdict hattempt⟩

theorem attempts_silent {t : Text} {issues : List Issue} {a : Attempt}
    (mem : a ∈ attempts scriptGrammar (fun _ => scriptEngine) t issues) :
    (∃ explanation, a.verdict = .applied [] a.before explanation) ↔
      a.issue.type = IssueType.unhandledPromise ∧ ∃ s q, Script.parse a.before = .ok (.ok s) ∧
        nearest? (s.places.filter fun p => p.node.isMethodCall "then") a.issue.line
          a.issue.column = some q ∧
        handlesRejections q = true := by
  obtain ⟨k, hk⟩ := eq_attempt_of_mem_course mem
  have hsilent := attempt_silent a.before a.issue
  rwa [← hk] at hsilent

/-- After a run that succeeds without edits all along, a scan finds what it found before. -/
theorem rescan_of_silent {t : Text} {s : Script} (parses : Script.parse t = .ok (.ok s))
    (file : Text) (types : List Text)
    (silent : ∀ a ∈ attempts scriptGrammar (fun _ => scriptEngine) t
      (Issue.wanted types (s.analysis none file).issues),
      ∃ explanation, a.verdict = .applied [] a.before explanation) :
    ∃ previews r, repairText t file types = .ok ⟨s.analysis none file, previews, r⟩ ∧ r.text = t ∧
      r.ledger.length = (Issue.wanted types (s.analysis none file).issues).length ∧
      (∀ entry ∈ r.ledger, entry.success = true) ∧
      scanTextFor none r.text file = .ok (s.analysis none file) := by
  obtain ⟨previews, hrepair⟩ := repairText_of_parse parses file types
  have hstill := lastText_of_still (leads_course scriptGrammar (fun _ => scriptEngine) t
    (processingOrder (Issue.wanted types (s.analysis none file).issues))) fun a ha => by
      obtain ⟨explanation, hverdict⟩ := silent a ha
      rw [Attempt.altered, Attempt.after_of_applied hverdict, bne_self_eq_false]
  rw [← attempts] at hstill
  refine ⟨previews, _, hrepair, hstill, ?_, fun entry hentry => ?_, ?_⟩
  · rw [List.length_map, attempts, course_length]
    exact List.length_mergeSort _
  · obtain ⟨a, ha, rfl⟩ := List.mem_map.mp hentry
    obtain ⟨explanation, hverdict⟩ := silent a ha
    rw [entry_success, Attempt.succeeded, hverdict]
  · dsimp only
    rw [hstill]
    exact scanTextFor_of_parse parses none file

/-- What the repair does about a `then` call that a scan reports. It looks at a `then` call
that starts where the reported one does. If that one handles rejections, the repair
succeeds and changes nothing, and it is another call than the one that was
reported. If it does not, a repair that succeeds puts a handler at the end of its chain. -/
theorem attempt_chain {t : Text} {s : Script} {context : Readiness.Context} {file : Text}
    {p : Place} {x i : Issue} (parses : Script.parse t = .ok (.ok s))
    (place : p ∈ s.places)
    (reported : chainIssue? s context file p = .ok (some x)) (same : i.mark = x.mark) :
    ∃ q ∈ s.places, q.node.isMethodCall "then" = true ∧ q.node.line = p.node.line ∧
      (p.node.column.isSome → q.node.column = p.node.column) ∧
      ((∃ explanation, (attempt scriptGrammar scriptEngine t i).verdict =
        .applied [] t explanation) ↔ handlesRejections q = true) ∧
      (handlesRejections q = true → q ≠ p) ∧
      (handlesRejections q = false → ∀ edits u explanation,
        (attempt scriptGrammar scriptEngine t i).verdict = .applied edits u explanation →
        u = t.take q.chainTop.node.stop ++ (handlerText ++ t.drop q.chainTop.node.stop)) := by
  obtain ⟨hpasses, hmark⟩ := chainIssue_ok reported
  obtain ⟨htype, hline, hcolumn⟩ := Issue.Mark.mk.inj (same.trans hmark)
  have hthen : p.node.isMethodCall "then" = true := by
    rw [letsRejectionsPass] at hpasses
    simp only [Bool.and_eq_true] at hpasses
    exact hpasses.1.1.1
  obtain ⟨q, hq, hmem, hqline, hqcolumn⟩ :=
    nearest?_of_mem (List.mem_filter.mpr ⟨place, hthen⟩ :
      p ∈ s.places.filter fun p => p.node.isMethodCall "then")
  rw [← hline, ← hcolumn] at hq
  obtain ⟨hqplace, hqthen⟩ := List.mem_filter.mp hmem
  refine ⟨q, hqplace, hqthen, hqline, hqcolumn, ?_, ?_, ?_⟩
  · rw [attempt_silent]
    constructor
    · rintro ⟨-, s', q', hparse', hq', hhandles⟩
      rw [parses] at hparse'
      cases hparse'
      rw [hq] at hq'
      cases hq'
      exact hhandles
    · intro hhandles
      exact ⟨htype, s, q, parses, hq, hhandles⟩
  · rintro hhandles rfl
    have hsteps := comesFromCallees_places (parse_hasOneCallee parses) place
    have hnot := handlesRejections_of_letsRejectionsPass hsteps hpasses
    rw [hhandles] at hnot
    cases hnot
  · intro hhandles edits u explanation hverdict
    obtain ⟨f, s', hf, hread, hpropose, haccept⟩ := attempt_proposal hverdict
    rw [fixerFor?_unhandledPromise htype] at hf
    cases hf
    rw [scriptGrammar_read.mp hread] at parses
    cases parses
    simp only [Rejection.fixer, htype, beq_self_eq_true, if_true] at hpropose
    obtain ⟨q', hq', hproposal⟩ := proposeHandler_ok hpropose
    rw [hq] at hq'
    cases hq'
    rw [chainProposal, hhandles] at hproposal
    cases hproposal
    exact (Edit.apply_singleton (accept_ok haccept).1).2

/-- Repairs that succeed and change nothing. In a run they are those for chains whose nearest `then`
call handles rejections, of all kinds of issues. A run of them leaves what the scan reported. For
a `then` call that is reported, the nearest one starts where it does, and is another one if it
handles rejections; if it does not, a repair that succeeds puts a handler at the end of its
chain. -/
theorem chain_repairs (t : Text) :
    (∀ issues : List Issue, ∀ a ∈ attempts scriptGrammar (fun _ => scriptEngine) t issues,
        (∃ explanation, a.verdict = .applied [] a.before explanation) ↔
          a.issue.type = IssueType.unhandledPromise ∧ ∃ s q, Script.parse a.before = .ok (.ok s) ∧
            nearest? (s.places.filter fun p => p.node.isMethodCall "then") a.issue.line
              a.issue.column = some q ∧
            handlesRejections q = true) ∧
    ∀ s : Script, Script.parse t = .ok (.ok s) →
      (∀ (file : Text) (types : List Text),
        (∀ a ∈ attempts scriptGrammar (fun _ => scriptEngine) t
            (Issue.wanted types (s.analysis none file).issues),
          ∃ explanation, a.verdict = .applied [] a.before explanation) →
        ∃ previews r, repairText t file types = .ok ⟨s.analysis none file, previews, r⟩ ∧
          r.text = t ∧
          r.ledger.length = (Issue.wanted types (s.analysis none file).issues).length ∧
          (∀ entry ∈ r.ledger, entry.success = true) ∧
          scanTextFor none r.text file = .ok (s.analysis none file)) ∧
      ∀ (context : Readiness.Context) (file : Text), ∀ p ∈ s.places, ∀ x i : Issue,
        chainIssue? s context file p = .ok (some x) → i.mark = x.mark →
        ∃ q ∈ s.places, q.node.isMethodCall "then" = true ∧ q.node.line = p.node.line ∧
          (p.node.column.isSome → q.node.column = p.node.column) ∧
          ((∃ explanation, (attempt scriptGrammar scriptEngine t i).verdict =
            .applied [] t explanation) ↔ handlesRejections q = true) ∧
          (handlesRejections q = true → q ≠ p) ∧
          (handlesRejections q = false → ∀ edits u explanation,
            (attempt scriptGrammar scriptEngine t i).verdict = .applied edits u explanation →
            u = t.take q.chainTop.node.stop ++ (handlerText ++ t.drop q.chainTop.node.stop)) :=
  ⟨fun _ _ => attempts_silent, fun _ parses => ⟨rescan_of_silent parses,
    fun _ _ _ place _ _ reported same => attempt_chain parses place reported same⟩⟩

/-! A chain that goes on behind the read of a property. -/

namespace Interrupted

def text : Text := "p.then(f).x.then(g,h)"

def reportedMark : Issue.Mark := ⟨IssueType.unhandledPromise, 1, some 0⟩

/-- The inner chain is reported, and the repair comes to the outer call. -/
theorem text_facts :
    Script.isPlain text = true ∧
      ((Script.ofText text).found "input.js").map Issue.mark = [reportedMark] ∧
      (∃ p ∈ (Script.ofText text).places,
        ((chainIssue? (Script.ofText text) {} "input.js" p).toOption.bind id).map Issue.mark =
          some reportedMark) ∧
      (nearest? ((Script.ofText text).places.filter fun p => p.node.isMethodCall "then") 1
        (some 0)).map handlesRejections = some true := by
  rw [text, Text.ofString_ofList]
  decide +kernel

theorem attempt_reported {i : Issue} (h : i.mark = reportedMark) :
    ∃ explanation, (attempt scriptGrammar scriptEngine text i).verdict =
      .applied [] text explanation := by
  obtain ⟨htype, hline, hcolumn⟩ := Issue.Mark.mk.inj h
  obtain ⟨hplain, -, -, hnearest⟩ := text_facts
  obtain ⟨q, hq, hhandles⟩ := Option.map_eq_some_iff.mp hnearest
  refine (attempt_silent text i).mpr ⟨htype, _, q, Script.parse_of_isPlain hplain, ?_, hhandles⟩
  rw [hline, hcolumn]
  exact hq

theorem listed : ∃ i, ((Script.ofText text).analysis none "input.js").issues = [i] ∧
    i.mark = reportedMark := by
  obtain ⟨hplain, hfound, -⟩ := text_facts
  obtain ⟨x, hx, hxmark⟩ := List.map_eq_singleton_iff.mp hfound
  obtain ⟨a, i, hscan, hissues, -, hmark, -⟩ := scan_singleton hplain hx
  rw [scanTextFor_of_parse (Script.parse_of_isPlain hplain) none] at hscan
  cases hscan
  exact ⟨i, hissues, hmark.trans hxmark⟩

theorem all_silent : ∀ a ∈ attempts scriptGrammar (fun _ => scriptEngine) text
    (Issue.wanted [] ((Script.ofText text).analysis none "input.js").issues),
    ∃ explanation, a.verdict = .applied [] a.before explanation := by
  obtain ⟨i, hissues, hmark⟩ := listed
  rw [hissues, Issue.wanted, List.isEmpty_nil, if_pos rfl,
    attempts_singleton (List.mergeSort_singleton i), List.forall_mem_singleton, attempt_before]
  exact attempt_reported hmark

end Interrupted

/-- The text stays as it is, with the issue that it had; the call that was looked at is another one
than the reported one. -/
theorem chain_repairs_sample :
    ∃ (s : Script) (p : Place) (x : Issue) (explanation : Text),
      Script.parse Interrupted.text = .ok (.ok s) ∧ p ∈ s.places ∧
      chainIssue? s {} "input.js" p = .ok (some x) ∧
      (attempt scriptGrammar scriptEngine Interrupted.text x).verdict =
        .applied [] Interrupted.text explanation ∧
      (∃ q ∈ s.places, q.node.isMethodCall "then" = true ∧ q.node.line = p.node.line ∧ q ≠ p) ∧
      ∃ previews r, repairText Interrupted.text "input.js" [] =
          .ok ⟨s.analysis none "input.js", previews, r⟩ ∧
        scanTextFor none r.text "input.js" = .ok (s.analysis none "input.js") := by
  obtain ⟨hplain, -, ⟨p, place, hreported⟩, -⟩ := Interrupted.text_facts
  obtain ⟨x, hx, hmark⟩ := Option.map_eq_some_iff.mp hreported
  obtain ⟨found, hfound, rfl⟩ := Option.bind_eq_some_iff.mp hx
  have hissue := ok_of_toOption hfound
  obtain ⟨explanation, hverdict⟩ := Interrupted.attempt_reported hmark
  obtain ⟨hrescan, hchain⟩ := (chain_repairs _).2 _ (Script.parse_of_isPlain hplain)
  obtain ⟨q, hq, hthen, hline, -, hsilent, hother, -⟩ := hchain {} "input.js" p place x x hissue rfl
  obtain ⟨previews, r, hrepair, -, -, -, hagain⟩ := hrescan "input.js" [] Interrupted.all_silent
  exact ⟨_, p, x, explanation, Script.parse_of_isPlain hplain, place, hissue, hverdict,
    ⟨q, hq, hthen, hline, hother (hsilent.mp ⟨explanation, hverdict⟩)⟩, previews, r, hrepair, hagain⟩

/-- A repair can succeed throughout and leave what a scan reports. The inner `then` call of this
text has no handler. Its repair looks at the outer one, which starts where the inner one
does and has two arguments, and finds nothing to do; the text stays as it was, and so
does what is wrong with it. -/
theorem repaired_chain_reported :
    ∃ (analysis again : Analysis) (previews : List Preview) (r : Repaired) (i : Issue),
      repairText Interrupted.text "input.js" [] = .ok ⟨analysis, previews, r⟩ ∧
      r.ledger.map (·.success) = [true] ∧
      scanTextFor none r.text "input.js" = .ok again ∧
      i ∈ again.issues ∧ i.type = IssueType.unhandledPromise := by
  obtain ⟨hplain, -⟩ := Interrupted.text_facts
  obtain ⟨i, hissues, hmark⟩ := Interrupted.listed
  obtain ⟨previews, r, hrepair, -, hlength, hsuccess, hagain⟩ :=
    rescan_of_silent (Script.parse_of_isPlain hplain) "input.js" [] Interrupted.all_silent
  refine ⟨_, _, previews, r, i, hrepair, ?_, hagain, hissues ▸ List.mem_singleton_self i,
    congrArg Issue.Mark.type hmark⟩
  rw [hissues] at hlength
  obtain ⟨entry, hentry⟩ := List.length_eq_one_iff.mp hlength
  rw [hentry, List.map_singleton, hsuccess entry (hentry ▸ List.mem_singleton_self entry)]

end Rejection

end Readiness
