import Readiness.Proofs.ChainRepair

/-!
# Which call a report leads back to

A detector reports a call by the line and column where it starts, and the fixer
looks for a call that starts there. The position is no key: all calls of a chain
of methods start where its first name does. Of those that start at the position
the fixer takes the first in source order, and that is the outermost one. So it
comes back to the call that was reported just when no call of the kind that it
looks for starts at the same place and comes earlier. The fixer and the detector
agree on what a candidate is, and so it always comes to some call that starts there.
-/

namespace Readiness

namespace Script

/-! ## The first candidate at a position -/

/-- Whether a place starts where another one does. Where a column is missing, the line decides. -/
def Place.startsWith (p q : Place) : Bool :=
  q.node.line == p.node.line && (p.node.column.isNone || q.node.column == p.node.column)

theorem Place.startsWith_self (p : Place) : p.startsWith p = true := by
  rw [startsWith, beq_self_eq_true, beq_self_eq_true, Bool.or_true, Bool.and_self]

/-- Looking for a candidate at its own position finds the first one that starts there. -/
theorem nearest?_eq_find? {candidates : List Place} {p : Place} (mem : p ∈ candidates) :
    nearest? candidates p.node.line p.node.column = candidates.find? p.startsWith := by
  have hexact : p ∈ candidates.filter (·.node.line == p.node.line) :=
    List.mem_filter.mpr ⟨mem, beq_self_eq_true _⟩
  cases hcolumn : p.node.column with
  | none =>
      have hstarts : p.startsWith = fun q => q.node.line == p.node.line := by
        funext q
        rw [Place.startsWith, hcolumn, Option.isNone_none, Bool.true_or, Bool.and_true]
      have hfirst : (candidates.filter (·.node.line == p.node.line)).head? =
          candidates.find? (·.node.line == p.node.line) := List.head?_filter
      rw [hstarts, ← hfirst, nearest?]
      cases hlist : candidates.filter (·.node.line == p.node.line) with
      | nil =>
          rw [hlist] at hexact
          cases hexact
      | cons q more => rfl
  | some c =>
      have hstarts : p.startsWith = fun q => q.node.line == p.node.line && q.node.column == some c := by
        funext q
        rw [Place.startsWith, hcolumn, Option.isNone_some, Bool.false_or]
      have hfind : (candidates.filter (·.node.line == p.node.line)).find? (·.node.column == some c) =
          candidates.find? p.startsWith := by
        rw [List.find?_filter, hstarts]
        simp only [Bool.decide_and, Bool.decide_eq_true]
      have hsome : (candidates.find? p.startsWith).isSome = true := by
        rw [List.find?_isSome]
        exact ⟨p, mem, p.startsWith_self⟩
      obtain ⟨q, hq⟩ := Option.isSome_iff_exists.mp hsome
      rw [nearest?, Option.bind_some, hfind, hq]

/-- It is the candidate itself just when no earlier one starts there. -/
theorem nearest?_eq_self {candidates : List Place} {p : Place} (mem : p ∈ candidates) :
    nearest? candidates p.node.line p.node.column = some p ↔
      ∃ before behind, candidates = before ++ p :: behind ∧
        ∀ q ∈ before, p.startsWith q = false := by
  rw [nearest?_eq_find? mem, List.find?_eq_some_iff_append]
  simp only [p.startsWith_self, true_and, Bool.not_eq_true']

/-- Where a position leads when it is that of a candidate: to the first candidate that starts there.
That is the candidate itself just when no earlier one does. -/
theorem nearest?_of_start {candidates : List Place} {p : Place} (mem : p ∈ candidates) :
    ∃ q, nearest? candidates p.node.line p.node.column = some q ∧
      candidates.find? p.startsWith = some q ∧
      (q = p ↔ ∃ before behind, candidates = before ++ p :: behind ∧
        ∀ b ∈ before, p.startsWith b = false) := by
  obtain ⟨q, hq, -⟩ := nearest?_of_mem mem
  refine ⟨q, hq, ?_, ?_⟩
  · rw [← nearest?_eq_find? mem, hq]
  · rw [← nearest?_eq_self mem, hq, Option.some.injEq]

end Script

namespace Query

open Script

theorem isCandidate_of_issue? {s : Script} {authentication : Bool} {file : Text} {p : Place}
    {x : Issue} (h : issue? s authentication file p = .ok (some x)) : isCandidate p = true := by
  rw [issue?] at h
  split at h
  · cases h
  · next hcall =>
      rw [Bool.or_eq_true, not_or, Bool.not_eq_true', Bool.not_eq_false] at hcall
      exact hcall.1

end Query

/-! ## Reports and repairs -/

/-- The call that the fixer takes for a report of a detector. It is a call of the kind that was
reported, and it starts where the reported one does. It is the reported call just when no
call of that kind starts there and comes before it. -/
theorem call_of_report {s : Script} {context : Readiness.Context} {file : Text}
    {wrappers : List Text} {x i : Issue} (same : i.mark = x.mark) :
    (x ∈ Query.detector.findings s context file →
      ∃ p ∈ s.places.filter Query.isCandidate,
        Query.issue? s (Query.isAuthentication context file) file p = .ok (some x) ∧
        ∃ q, Script.nearest? (s.places.filter Query.isCandidate) i.line i.column = some q ∧
          (s.places.filter Query.isCandidate).find? p.startsWith = some q ∧
          (q = p ↔ ∃ before behind, s.places.filter Query.isCandidate = before ++ p :: behind ∧
            ∀ b ∈ before, p.startsWith b = false)) ∧
    (x ∈ (Rejection.detector wrappers).findings s context file →
      x.type = IssueType.unhandledPromise →
      ∃ p ∈ s.places.filter fun p => p.node.isMethodCall "then",
        Rejection.chainIssue? s context file p = .ok (some x) ∧
        ∃ q, Script.nearest? (s.places.filter fun p => p.node.isMethodCall "then") i.line i.column =
            some q ∧
          (s.places.filter fun p => p.node.isMethodCall "then").find? p.startsWith = some q ∧
          (q = p ↔ ∃ before behind,
            (s.places.filter fun p => p.node.isMethodCall "then") = before ++ p :: behind ∧
              ∀ b ∈ before, p.startsWith b = false)) := by
  constructor
  · intro hx
    rw [Detector.findings] at hx
    split at hx
    · next found hfound =>
        obtain ⟨p, hplace, hissue⟩ := exists_of_mem_filterMapM hfound hx
        have hmark := (Query.reports_of_issue? hissue).mark
        obtain ⟨-, hline, hcolumn⟩ := Issue.Mark.mk.inj (same.trans hmark)
        have hmem := List.mem_filter.mpr ⟨hplace, Query.isCandidate_of_issue? hissue⟩
        refine ⟨p, hmem, hissue, ?_⟩
        rw [hline, hcolumn]
        exact Script.nearest?_of_start hmem
    · cases hx
  · intro hx htype
    rw [Detector.findings] at hx
    split at hx
    · next found hfound =>
        obtain ⟨functions, hfunctions, hfound⟩ := exists_of_bind_ok hfound
        obtain ⟨chains, hchains, hfound⟩ := exists_of_bind_ok hfound
        cases hfound
        rcases List.mem_append.mp hx with hx | hx
        · obtain ⟨f, -, hissue⟩ := exists_of_mem_filterMapM hfunctions hx
          have hother : x.type = IssueType.noErrorHandling :=
            congrArg Issue.Mark.type (Rejection.reports_of_functionIssue? hissue).mark
          exact absurd (hother.symm.trans htype) (by decide)
        · obtain ⟨p, hplace, hissue⟩ := exists_of_mem_filterMapM hchains hx
          obtain ⟨hpasses, hmark⟩ := Rejection.chainIssue_ok hissue
          obtain ⟨-, hline, hcolumn⟩ := Issue.Mark.mk.inj (same.trans hmark)
          have hthen : p.node.isMethodCall "then" = true := by
            rw [Rejection.letsRejectionsPass] at hpasses
            simp only [Bool.and_eq_true] at hpasses
            exact hpasses.1.1.1
          have hmem : p ∈ s.places.filter fun p => p.node.isMethodCall "then" :=
            List.mem_filter.mpr ⟨hplace, hthen⟩
          refine ⟨p, hmem, hissue, ?_⟩
          rw [hline, hcolumn]
          exact Script.nearest?_of_start hmem
    · cases hx

namespace Query

open Script Repair

/-! A query call at the start of a chain that goes on with another one. -/

namespace Chained

def text : Text := "run(\"a\"+b).get(1)"

def mark : Issue.Mark := ⟨IssueType.sqlInjection, 1, some 0⟩

/-- The inner call is reported, and it is the second candidate: the outer one comes first, which is
no query that is built from values. -/
theorem text_facts :
    Script.isPlain text = true ∧
      ((Script.ofText text).found "input.js").map Issue.mark = [mark] ∧
      (Query.detector.findings (Script.ofText text) {} "input.js").map Issue.mark = [mark] ∧
      ((Script.ofText text).places.filter isCandidate).map (fun p =>
          (p.node.line, p.node.column,
            ((issue? (Script.ofText text) false "input.js" p).toOption.map Option.isSome))) =
        [(1, some 0, some false), (1, some 0, some true)] ∧
      (Query.fixer.propose (Script.ofText text)
        (Issue.someAt mark.line mark.column)).toOption = none := by
  rw [text, Text.ofString_ofList]
  decide +kernel

theorem candidates : ∃ (p q : Place) (x : Issue),
    (Script.ofText text).places.filter isCandidate = [q, p] ∧
      issue? (Script.ofText text) false "input.js" p = .ok (some x) ∧ x.mark = mark ∧
      issue? (Script.ofText text) false "input.js" q = .ok none ∧ p.startsWith q = true := by
  obtain ⟨-, -, -, hcandidates, -⟩ := text_facts
  obtain ⟨q, more, hlist, hq, hmore⟩ := List.map_eq_cons_iff.mp hcandidates
  obtain ⟨p, more, rfl, hp, hmore⟩ := List.map_eq_cons_iff.mp hmore
  rw [List.map_eq_nil_iff.mp hmore] at hlist
  obtain ⟨hqline, hqcolumn, hqissue⟩ : q.node.line = 1 ∧ q.node.column = some 0 ∧ _ = _ := by
    simpa only [Prod.mk.injEq] using hq
  obtain ⟨hpline, hpcolumn, hpissue⟩ : p.node.line = 1 ∧ p.node.column = some 0 ∧ _ = _ := by
    simpa only [Prod.mk.injEq] using hp
  obtain ⟨found, hfound, hsome⟩ := Option.map_eq_some_iff.mp hpissue
  obtain ⟨x, rfl⟩ := Option.isSome_iff_exists.mp hsome
  obtain ⟨other, hother, hnone⟩ := Option.map_eq_some_iff.mp hqissue
  obtain rfl : other = none := Option.isNone_iff_eq_none.mp (Option.isSome_eq_false_iff.mp hnone)
  have hissue := ok_of_toOption hfound
  have hmark := (reports_of_issue? hissue).mark
  rw [hpline, hpcolumn] at hmark
  refine ⟨p, q, x, hlist, hissue, hmark, ok_of_toOption hother, ?_⟩
  rw [Place.startsWith, hqline, hqcolumn, hpline, hpcolumn]
  rfl

end Chained

theorem call_of_report_sample :
    ∃ (x i : Issue) (p q : Place), i.mark = x.mark ∧
      x ∈ Query.detector.findings (Script.ofText Chained.text) {} "input.js" ∧
      issue? (Script.ofText Chained.text)
        (isAuthentication {} "input.js") "input.js" p = .ok (some x) ∧
      nearest? ((Script.ofText Chained.text).places.filter isCandidate) i.line i.column =
        some q := by
  obtain ⟨-, -, hfindings, -⟩ := Chained.text_facts
  obtain ⟨x, more, hx, -, -⟩ := List.map_eq_cons_iff.mp hfindings
  have hmem : x ∈ Query.detector.findings (Script.ofText Chained.text) {} "input.js" :=
    hx ▸ List.mem_cons_self
  have hsame : x.mark = x.mark := rfl
  obtain ⟨hqueries, -⟩ := @call_of_report (Script.ofText Chained.text) {} "input.js" [] x x hsame
  obtain ⟨p, -, hissue, q, hq, -⟩ := hqueries hmem
  exact ⟨x, x, p, q, rfl, hmem, hissue, hq⟩

/-- A fixer can come to another call than the one that was reported. The outer call of this chain
starts where the inner one does and comes first, and it is no query that is built from values:
the inner one is, and is reported, and its repair fails. -/
theorem report_leads_elsewhere :
    ∃ (a : Analysis) (i x : Issue) (s : Script) (p q : Place) (r : Repaired),
      Script.parse Chained.text = .ok (.ok s) ∧
      scanTextFor none Chained.text "input.js" = .ok a ∧ a.issues = [i] ∧
      p ∈ s.places ∧ issue? s false "input.js" p = .ok (some x) ∧ x.mark = i.mark ∧
      issue? s false "input.js" q = .ok none ∧
      nearest? (s.places.filter isCandidate) i.line i.column = some q ∧
      repair scriptGrammar scriptEngine "input.js" Chained.text a.issues = .ok r ∧
      r.ledger.map (·.success) = [false] ∧ r.text = Chained.text := by
  obtain ⟨hplain, hfound, -, -, hpropose⟩ := Chained.text_facts
  obtain ⟨y, more, hy, hymark, hmore⟩ := List.map_eq_cons_iff.mp hfound
  rw [List.map_eq_nil_iff.mp hmore] at hy
  obtain ⟨a, i, hscan, hissues, horder, himark, -⟩ := scan_singleton hplain hy
  have hmark : i.mark = Chained.mark := himark.trans hymark
  obtain ⟨p, q, x, hcandidates, hissue, hxmark, hother, hstart⟩ := Chained.candidates
  have hmem : p ∈ (Script.ofText Chained.text).places.filter isCandidate := by
    rw [hcandidates]
    exact List.mem_cons_of_mem q (List.mem_singleton_self p)
  have hnearest : nearest? ((Script.ofText Chained.text).places.filter isCandidate) i.line
      i.column = some q := by
    have hpmark := (reports_of_issue? hissue).mark
    obtain ⟨-, hline, hcolumn⟩ := Issue.Mark.mk.inj (hmark.trans (hxmark.symm.trans hpmark))
    rw [hline, hcolumn, nearest?_eq_find? hmem, hcandidates, List.find?_cons_of_pos hstart]
  have hread := read_of_isPlain hplain
  have hfailed : (attempt scriptGrammar scriptEngine Chained.text i).succeeded = false := by
    rw [← hmark] at hpropose
    exact Query.attempt_declined hplain (congrArg Issue.Mark.type hmark) hpropose
  have hrepair := repairInTurns_parsed hread (fun _ => scriptEngine) "input.js" a.issues
  rw [attempts_singleton horder] at hrepair
  refine ⟨a, i, x, Script.ofText Chained.text, p, q, _, Script.parse_of_isPlain hplain, hscan,
    hissues, List.mem_of_mem_filter hmem, hissue, hxmark.trans hmark.symm, hother, hnearest,
    hrepair, ?_, ?_⟩
  · rw [List.map_cons, List.map_nil, List.map_cons, List.map_nil, entry_success, hfailed]
  · rw [lastText, lastText, Attempt.after_of_failed hfailed, attempt_before]

end Query

end Readiness
