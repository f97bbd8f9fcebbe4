import Readiness.Proofs.RepairRun
import Readiness.Proofs.TreeWalk
import Readiness.Repair

/-!
# Repairs of scripts

The theorems about runs take any language and any fixers. This file fills in the
language of scripts and the fixers for it: which fixer an issue goes to, and
what its proposal has to do with what the attempt does.

It also says what it takes to find the node of an issue again, which is the
common start of all fixers: `nearest?` finds a candidate if one is at most a line
away from where the issue was noted, and it prefers one that starts exactly
there.
-/

namespace Readiness

/-! ## Results -/

section Results

variable {ε ε' α β : Type}

theorem ok_of_toOption {x : Except ε α} {a : α} (h : x.toOption = some a) : x = .ok a := by
  cases x with
  | error e => cases h
  | ok b => cases h; rfl

theorem ok_of_mapError {f : ε → ε'} {x : Except ε α} {a : α} (h : x.mapError f = .ok a) :
    x = .ok a := by
  cases x with
  | error e => cases h
  | ok b => cases h; rfl

theorem exists_of_bind_ok {x : Except ε α} {f : α → Except ε β} {b : β}
    (h : (x >>= f) = .ok b) : ∃ a, x = .ok a ∧ f a = .ok b := by
  cases x with
  | error e => cases h
  | ok a => exact ⟨a, rfl, h⟩

theorem exists_of_mem_filterMapM {f : α → Except ε (Option β)} {l : List α} {kept : List β} {b : β}
    (h : l.filterMapM f = .ok kept) (mem : b ∈ kept) : ∃ a ∈ l, f a = .ok (some b) := by
  induction l generalizing kept with
  | nil =>
      rw [List.filterMapM_nil] at h
      cases h
      cases mem
  | cons a l ih =>
      rw [List.filterMapM_cons] at h
      obtain ⟨found, hfound, h⟩ := exists_of_bind_ok h
      have hlater : ∀ {kept : List β}, l.filterMapM f = .ok kept → b ∈ kept →
          ∃ a' ∈ a :: l, f a' = .ok (some b) := by
        intro kept hkept hmem
        obtain ⟨a', ha', hf⟩ := ih hkept hmem
        exact ⟨a', List.mem_cons_of_mem a ha', hf⟩
      cases found with
      | none => exact hlater h mem
      | some c =>
          obtain ⟨more, hmore, h⟩ := exists_of_bind_ok h
          cases h
          rcases List.mem_cons.mp mem with rfl | mem
          · exact ⟨a, List.mem_cons_self, hfound⟩
          · exact hlater hmore mem

end Results

namespace Script

/-! ## The nearest candidate -/

theorem nearest?_mem {candidates : List Place} {line : Nat} {column : Option Int} {p : Place}
    (h : nearest? candidates line column = some p) : p ∈ candidates := by
  rw [nearest?] at h
  split at h
  · next hfound =>
      cases h
      obtain ⟨c, -, hc⟩ := Option.bind_eq_some_iff.mp hfound
      exact List.mem_of_mem_filter (List.mem_of_find?_eq_some hc)
  · next hexact =>
      cases h
      exact List.mem_of_mem_filter (hexact ▸ List.mem_cons_self)
  · exact List.mem_of_find?_eq_some h

theorem nearest?_near {candidates : List Place} {line : Nat} {column : Option Int} {p : Place}
    (h : nearest? candidates line column = some p) :
    p.node.line ≤ line + 1 ∧ line ≤ p.node.line + 1 := by
  rw [nearest?] at h
  split at h
  · next hfound =>
      cases h
      obtain ⟨c, -, hc⟩ := Option.bind_eq_some_iff.mp hfound
      have hline := eq_of_beq (List.mem_filter.mp (List.mem_of_find?_eq_some hc)).2
      omega
  · next hexact =>
      cases h
      obtain ⟨-, hline⟩ := List.mem_filter.mp (hexact ▸ List.mem_cons_self : p ∈ _)
      have hline := eq_of_beq hline
      omega
  · have hline := List.find?_some h
    simp only [Bool.or_eq_true, beq_iff_eq] at hline
    omega

/-- Where the candidates are that a line leads to: at most one line away. -/
theorem nearest?_isSome {candidates : List Place} {line : Nat} {column : Option Int} :
    (nearest? candidates line column).isSome = true ↔
      ∃ p ∈ candidates, p.node.line ≤ line + 1 ∧ line ≤ p.node.line + 1 := by
  constructor
  · intro h
    obtain ⟨p, hp⟩ := Option.isSome_iff_exists.mp h
    exact ⟨p, nearest?_mem hp, nearest?_near hp⟩
  · rintro ⟨p, hmem, hle, hge⟩
    rw [nearest?]
    split
    · rfl
    · rfl
    · next hnone =>
        have hne : p.node.line ≠ line := by
          intro hline
          have hin : p ∈ candidates.filter (·.node.line == line) :=
            List.mem_filter.mpr ⟨hmem, beq_iff_eq.mpr hline⟩
          rw [hnone] at hin
          cases hin
        rw [List.find?_isSome]
        refine ⟨p, hmem, ?_⟩
        simp only [Bool.or_eq_true, beq_iff_eq]
        omega

/-- Where a candidate stands, one is found that starts there. -/
theorem nearest?_of_mem {candidates : List Place} {p : Place} (mem : p ∈ candidates) :
    ∃ q, nearest? candidates p.node.line p.node.column = some q ∧ q ∈ candidates ∧
      q.node.line = p.node.line ∧ (p.node.column.isSome → q.node.column = p.node.column) := by
  have hexact : p ∈ candidates.filter (·.node.line == p.node.line) :=
    List.mem_filter.mpr ⟨mem, beq_self_eq_true _⟩
  have hsome : (nearest? candidates p.node.line p.node.column).isSome = true :=
    nearest?_isSome.mpr ⟨p, mem, by omega, by omega⟩
  obtain ⟨q, hq⟩ := Option.isSome_iff_exists.mp hsome
  refine ⟨q, hq, nearest?_mem hq, ?_⟩
  rw [nearest?] at hq
  split at hq
  · next hfound =>
      cases hq
      obtain ⟨c, hc, hfind⟩ := Option.bind_eq_some_iff.mp hfound
      obtain ⟨-, hline⟩ := List.mem_filter.mp (List.mem_of_find?_eq_some hfind)
      refine ⟨eq_of_beq hline, fun _ => ?_⟩
      have hcolumn := List.find?_some hfind
      rw [hc]
      exact eq_of_beq hcolumn
  · next hnone hfirst =>
      cases hq
      have hin : q ∈ candidates.filter (·.node.line == p.node.line) := hfirst ▸ List.mem_cons_self
      refine ⟨eq_of_beq (List.mem_filter.mp hin).2, fun hcolumn => ?_⟩
      obtain ⟨c, hc⟩ := Option.isSome_iff_exists.mp hcolumn
      rw [hc, Option.bind_some] at hnone
      have hother := List.find?_eq_none.mp hnone p hexact
      rw [hc] at hother
      exact absurd (beq_self_eq_true _) hother
  · next hnone hnil =>
      rw [hnil] at hexact
      cases hexact

end Script

/-! ## Scripts that were read -/

theorem Script.text_of_parse {t : Text} {s : Script} (h : Script.parse t = .ok (.ok s)) :
    s.text = t := by
  rw [Script.parse] at h
  cases hm : Script.parseAs true t with
  | error b => rw [hm] at h; cases h
  | ok first =>
      rw [hm] at h
      cases first with
      | ok r => cases h; rfl
      | error f =>
          cases hc : Script.parseAs false t with
          | error b => simp only [hc] at h; cases h
          | ok second =>
              simp only [hc] at h
              cases second with
              | ok r => cases h; rfl
              | error f' => cases h

theorem scriptGrammar_read {t : Text} {s : Script} :
    scriptGrammar.read t = .ok (.ok s) ↔ Script.parse t = .ok (.ok s) := by
  have hread : scriptGrammar.read t =
      (Script.parse t).bind fun parsed => .ok (parsed.mapError Script.Failure.message) := rfl
  rw [hread]
  cases Script.parse t with
  | error b => exact ⟨nofun, nofun⟩
  | ok parsed =>
      cases parsed with
      | error f => exact ⟨nofun, nofun⟩
      | ok s' => exact ⟨fun h => by cases h; rfl, fun h => by cases h; rfl⟩

/-! ## Scans -/

theorem scanTextFor_of_parse {t : Text} {s : Script} (h : Script.parse t = .ok (.ok s))
    (category : Option Category) (file : Text) :
    scanTextFor category t file = .ok (s.analysis category file) := by
  rw [scanTextFor, h]
  rfl

/-- What orders the issues of a file, in scans and in repairs: kind, line and column. -/
structure Issue.Mark where
  type : Text
  line : Nat
  column : Option Int
deriving DecidableEq

namespace Issue

/-- The mark of an issue. -/
def mark (i : Issue) : Mark := ⟨i.type, i.line, i.column⟩

/-- The issue of a rule stands at its node. -/
theorem mark_of_rule {r : Rule} {file : Text} {n : Script.Node} {severity : Severity}
    {message snippet : Text} {facts : List (Text × Json)} {i : Issue}
    (h : r.issue file n severity message facts snippet = .ok i) :
    i.mark = ⟨r.type, n.line, n.column⟩ := by
  rw [Rule.issue] at h
  obtain ⟨_, -, h⟩ := exists_of_bind_ok h
  cases h
  rfl

/-- Whether an issue with a mark is listed before one with another, or may be. -/
def Mark.listedFirst (a b : Mark) : Bool :=
  if a.line ≠ b.line then a.line < b.line
  else if a.column.getD 0 ≠ b.column.getD 0 then a.column.getD 0 < b.column.getD 0
  else a.type ≤ b.type

/-- Whether an issue with a mark is repaired before one with another, or may be. -/
def Mark.comesFirst (a b : Mark) : Bool :=
  decide (b.line < a.line ∨ b.line = a.line ∧ b.column.getD 0 ≤ a.column.getD 0)

theorem map_mark_listed (issues : List Issue) :
    (Issue.listed issues).map mark = (issues.map mark).mergeSort Mark.listedFirst :=
  List.map_mergeSort fun _ _ _ _ => rfl

theorem map_mark_numberedAfter (seen : List Text) (issues : List Issue) :
    (Issue.numberedAfter seen issues).map mark = issues.map mark := by
  induction issues generalizing seen with
  | nil => rfl
  | cons i more ih =>
      rw [numberedAfter, List.map_cons, List.map_cons, ih]
      rfl

theorem map_mark_processingOrder (issues : List Issue) :
    (Repair.processingOrder issues).map mark = (issues.map mark).mergeSort Mark.comesFirst :=
  List.map_mergeSort fun _ _ _ _ => rfl

end Issue

/-- What the detectors find in a script, before it is listed. -/
def Script.found (s : Script) (file : Text) : List Issue :=
  let project : Readiness.Context := { routes := s.routes file }
  s.findings (detectors []) none (project.forFile (some s) file) file

theorem Script.map_mark_analysis (s : Script) (file : Text) :
    (s.analysis none file).issues.map Issue.mark =
      ((s.found file).map Issue.mark).mergeSort Issue.Mark.listedFirst :=
  (Issue.map_mark_numberedAfter [] _).trans (Issue.map_mark_listed _)

/-! ## Who repairs what -/

/-- Some issue at a place, to stand for any other one there. -/
def Issue.someAt (line : Nat) (column : Option Int) : Issue :=
  { Repair.Sample.issue "" line with location := ⟨"", line, column⟩ }

/-- How a query is repaired depends on the place of the issue, and on nothing else of it. -/
theorem Query.propose_congr (s : Script) {i j : Issue} (line : i.line = j.line)
    (column : i.column = j.column) : Query.fixer.propose s i = Query.fixer.propose s j := by
  change Query.propose s i = Query.propose s j
  unfold Query.propose
  rw [line, column]

theorem Query.propose_of_mark {s : Script} {m : Issue.Mark} {p : Repair.Proposal}
    (h : (Query.fixer.propose s (Issue.someAt m.line m.column)).toOption = some p) {j : Issue}
    (mark : j.mark = m) : Query.fixer.propose s j = .ok p := by
  subst mark
  exact (Query.propose_congr s rfl rfl).trans (ok_of_toOption h)

theorem fixerFor?_sqlInjection {i : Issue} (h : i.type = IssueType.sqlInjection) :
    scriptEngine.fixerFor? i = some Query.fixer := by
  have hfixer : scriptEngine.fixers.lookup IssueType.sqlInjection = some Query.fixer := rfl
  rw [Repair.Engine.fixerFor?, h, hfixer]
  simp only [Query.fixer, h, beq_self_eq_true, if_true]

theorem fixerFor?_unhandledPromise {i : Issue} (h : i.type = IssueType.unhandledPromise) :
    scriptEngine.fixerFor? i = some Rejection.fixer := by
  have hfixer : scriptEngine.fixers.lookup IssueType.unhandledPromise = some Rejection.fixer := rfl
  rw [Repair.Engine.fixerFor?, h, hfixer]
  simp only [Rejection.fixer, h, beq_self_eq_true, Bool.or_true, if_true]

/-- Every fixer of the engine gets issues of its own kinds only. -/
theorem fixerFor?_cases {i : Issue} {f : Repair.Fixer Script}
    (h : scriptEngine.fixerFor? i = some f) :
    i.type = IssueType.sqlInjection ∧ f = Query.fixer ∨
      (i.type = IssueType.noErrorHandling ∨ i.type = IssueType.unhandledPromise) ∧
        f = Rejection.fixer ∨
      i.type = IssueType.hardcodedSecret ∧ f = Secret.fixer := by
  have hfixers : scriptEngine.fixers =
      [(IssueType.sqlInjection, Query.fixer), (IssueType.noErrorHandling, Rejection.fixer),
        (IssueType.unhandledPromise, Rejection.fixer),
        (IssueType.hardcodedSecret, Secret.fixer)] := rfl
  rw [Repair.Engine.fixerFor?, hfixers] at h
  split at h
  · next found hfound =>
      split at h
      · cases h
        obtain ⟨before, behind, hsplit, -⟩ := List.lookup_eq_some_iff.mp hfound
        have hmem : (i.type, f) ∈ before ++ (i.type, f) :: behind :=
          List.mem_append_right before List.mem_cons_self
        rw [← hsplit] at hmem
        simp only [List.mem_cons, Prod.mk.injEq, List.not_mem_nil, or_false] at hmem
        rcases hmem with ⟨htype, rfl⟩ | ⟨htype, rfl⟩ | ⟨htype, rfl⟩ | ⟨htype, rfl⟩
        · exact .inl ⟨htype, rfl⟩
        · exact .inr (.inl ⟨.inl htype, rfl⟩)
        · exact .inr (.inl ⟨.inr htype, rfl⟩)
        · exact .inr (.inr ⟨htype, rfl⟩)
      · cases h
  · cases h

theorem fixerFor?_hardcodedSecret {i : Issue} (h : i.type = IssueType.hardcodedSecret) :
    scriptEngine.fixerFor? i = if Secret.fixer.canFix i then some Secret.fixer else none := by
  have hfixer : scriptEngine.fixers.lookup IssueType.hardcodedSecret = some Secret.fixer := rfl
  rw [Repair.Engine.fixerFor?, h, hfixer]

namespace Repair

variable {Tree : Type}

/-! ## Attempts by their edits -/

namespace Attempt

/-- The edits that the attempt made. -/
def edits (a : Attempt) : List Edit :=
  match a.verdict with
  | .applied edits _ _ => edits
  | _ => []

theorem edits_of_applied {a : Attempt} {edits : List Edit} {u explanation : Text}
    (h : a.verdict = .applied edits u explanation) : a.edits = edits := by
  rw [Attempt.edits, h]

theorem edits_of_failed {a : Attempt} (h : a.succeeded = false) : a.edits = [] := by
  rw [succeeded] at h
  rw [edits]
  cases hv : a.verdict with
  | applied _ _ _ => rw [hv] at h; cases h
  | noFixer | failed _ => rfl

theorem shifts_eq (a : Attempt) : a.shifts = LineShift.ofEdits a.before a.edits := by
  cases hv : a.verdict with
  | applied edits u explanation => rw [shifts_of_applied hv, edits_of_applied hv]
  | noFixer | failed _ => rw [shifts, Attempt.edits, hv]; rfl

end Attempt

theorem attempt_apply (g : Grammar Tree) (e : Engine Tree) (t : Text) (i : Issue) :
    Edit.apply t (attempt g e t i).edits = .ok (attempt g e t i).after := by
  cases hs : (attempt g e t i).succeeded with
  | false =>
      rw [Attempt.edits_of_failed hs, Attempt.after_of_failed hs, attempt_before, Edit.apply_nil]
  | true =>
      obtain ⟨edits, u, explanation, hv⟩ := Attempt.exists_applied hs
      obtain ⟨tree, -, haccept⟩ := attempt_applied hv
      rw [Attempt.edits_of_applied hv, Attempt.after_of_applied hv]
      exact (accept_ok haccept).1

/-! ## Attempts by their proposals -/

/-- What an attempt did that succeeded: a fixer proposed it, and the engine accepted it. -/
theorem attempt_proposal {g : Grammar Tree} {e : Engine Tree} {t u : Text} {i : Issue}
    {edits : List Edit} {explanation : Text}
    (h : (attempt g e t i).verdict = .applied edits u explanation) :
    ∃ f tree, e.fixerFor? i = some f ∧ g.read t = .ok (.ok tree) ∧
      f.propose tree i = .ok ⟨edits, explanation⟩ ∧
      accept g t (g.problems tree) edits = .ok u := by
  rw [attempt] at h
  split at h
  · cases h
  · next f hf =>
      split at h
      · cases h
      · next p updated hok =>
          cases h
          rw [attemptWith] at hok
          split at hok
          · cases hok
          · cases hok
          · next tree hread =>
              split at hok
              · cases hok
              · next q hpropose =>
                  split at hok
                  · cases hok
                  · next haccept =>
                      cases hok
                      exact ⟨f, tree, hf, hread, hpropose, haccept⟩

/-- What a fixer proposes is done when its edits can be made and their text parses with no more
problems. -/
theorem attempt_of_proposal {g : Grammar Tree} {e : Engine Tree} {f : Fixer Tree} {t u : Text}
    {i : Issue} {tree : Tree} {p : Proposal} (fixer : e.fixerFor? i = some f)
    (read : g.read t = .ok (.ok tree)) (proposal : f.propose tree i = .ok p)
    (accepted : accept g t (g.problems tree) p.edits = .ok u) :
    attempt g e t i = ⟨i, t, .applied p.edits u p.explanation⟩ := by
  simp only [attempt, fixer, attemptWith, read, proposal, accepted]

theorem attempt_of_fault {g : Grammar Tree} {e : Engine Tree} {f : Fixer Tree} {t : Text}
    {i : Issue} {tree : Tree} {fault : Fault} (fixer : e.fixerFor? i = some f)
    (read : g.read t = .ok (.ok tree)) (proposal : f.propose tree i = .error fault) :
    attempt g e t i = ⟨i, t, .failed fault⟩ := by
  simp only [attempt, fixer, attemptWith, read, proposal]

theorem accept_of_read {g : Grammar Tree} {t u : Text} {edits : List Edit} {problems : Nat}
    {tree : Tree} (applied : Edit.apply t edits = .ok u) (read : g.read u = .ok (.ok tree))
    (fewer : g.problems tree ≤ problems) : accept g t problems edits = .ok u := by
  rw [accept, applied]
  simp only [read, Nat.not_lt.mpr fewer, if_false, ite_self]

/-! ## The attempts of a run -/

theorem line_carried {shifts : List LineShift} {i : Issue} {line : Nat}
    (h : LineShift.move shifts i.line = line) : (carried shifts i).line = line := by
  change (LineShift.move shifts i.line).toNat = line
  rw [h]
  exact Int.toNat_natCast line

/-- Every attempt of a run is one on the text as it stood, with the engine of its turn. -/
theorem eq_attempt_of_mem_course {g : Grammar Tree} {e : Nat → Engine Tree} {t : Text}
    {issues : List Issue} {a : Attempt} (h : a ∈ course g e t issues) :
    ∃ k, a = attempt g (e k) a.before a.issue := by
  fun_induction course g e t issues with
  | case1 e t => cases h
  | case2 e t i more b ih =>
      rcases List.mem_cons.mp h with rfl | hlater
      · refine ⟨0, ?_⟩
        rw [attempt_before, attempt_issue]
      · obtain ⟨k, hk⟩ := ih hlater
        exact ⟨k + 1, hk⟩

theorem attempts_singleton {g : Grammar Tree} {e : Nat → Engine Tree} {t : Text}
    {issues : List Issue} {i : Issue} (order : processingOrder issues = [i]) :
    attempts g e t issues = [attempt g (e 0) t i] := by
  rw [attempts, order, course, allCarried, List.map_nil, course]

theorem attempts_pair {g : Grammar Tree} {e : Nat → Engine Tree} {t : Text}
    {issues : List Issue} {i j : Issue} (order : processingOrder issues = [i, j]) :
    attempts g e t issues =
      [attempt g (e 0) t i, attempt g (e 1) (attempt g (e 0) t i).after
        (carried (attempt g (e 0) t i).shifts j)] := by
  rw [attempts, order, course, allCarried, List.map_cons, List.map_nil, course, allCarried,
    List.map_nil, course]

end Repair

/-- What comes of scanning and repairing a text that parses. -/
theorem repairText_of_parse {t : Text} {s : Script} (h : Script.parse t = .ok (.ok s))
    (file : Text) (types : List Text) :
    ∃ previews, repairText t file types = .ok ⟨s.analysis none file, previews,
      ⟨Repair.lastText t (Repair.attempts scriptGrammar (fun _ => scriptEngine) t
          (Issue.wanted types (s.analysis none file).issues)),
        (Repair.attempts scriptGrammar (fun _ => scriptEngine) t
          (Issue.wanted types (s.analysis none file).issues)).map (Repair.Attempt.entry file)⟩⟩ := by
  have hread := scriptGrammar_read.mpr h
  have hrepair := Repair.repairInTurns_parsed hread (fun _ => scriptEngine) file
    (Issue.wanted types (s.analysis none file).issues)
  obtain ⟨previews, hpreviews⟩ : ∃ previews, Repair.preview scriptGrammar scriptEngine t
      (Issue.wanted types (s.analysis none file).issues) = .ok previews := by
    rw [Repair.preview, Repair.previewBy, hread]
    exact ⟨_, rfl⟩
  refine ⟨previews, ?_⟩
  rw [repairText, scanTextFor_of_parse h none file]
  simp only [Repair.repair, hpreviews, hrepair, bind, Except.bind, pure, Except.pure]

/-! ## Texts that can be evaluated -/

deriving instance DecidableEq for Edit

deriving instance DecidableEq for Repair.Proposal

/-- The script of a text, and an empty one for a text that has none. -/
def Script.ofText (t : Text) : Script :=
  match Script.parse t with
  | .ok (.ok s) => s
  | _ => ⟨t, default, false, []⟩

/-- Whether a text has a script. -/
def Script.isRead (t : Text) : Bool :=
  match Script.parse t with
  | .ok (.ok _) => true
  | _ => false

theorem Script.parse_of_isRead {t : Text} (h : Script.isRead t = true) :
    Script.parse t = .ok (.ok (Script.ofText t)) := by
  unfold Script.isRead at h
  unfold Script.ofText
  split at h
  · next s hs => simp only [hs]
  · cases h

/-- Whether a text has a script and nothing to complain about. -/
def Script.isPlain (t : Text) : Bool :=
  Script.isRead t && (Script.ofText t).problems.isEmpty

theorem Script.parse_of_isPlain {t : Text} (h : Script.isPlain t = true) :
    Script.parse t = .ok (.ok (Script.ofText t)) :=
  Script.parse_of_isRead (Bool.and_eq_true_iff.mp h).1

theorem Script.problems_of_isPlain {t : Text} (h : Script.isPlain t = true) :
    (Script.ofText t).problems = [] :=
  List.isEmpty_iff.mp (Bool.and_eq_true_iff.mp h).2

theorem read_of_isPlain {t : Text} (h : Script.isPlain t = true) :
    scriptGrammar.read t = .ok (.ok (Script.ofText t)) :=
  scriptGrammar_read.mpr (Script.parse_of_isPlain h)

theorem accept_of_isPlain {t u : Text} {edits : List Edit} {problems : Nat}
    (applied : Edit.apply t edits = .ok u) (h : Script.isPlain u = true) :
    Repair.accept scriptGrammar t problems edits = .ok u := by
  refine Repair.accept_of_read applied (read_of_isPlain h) ?_
  change (Script.ofText u).problems.length ≤ problems
  rw [Script.problems_of_isPlain h]
  exact Nat.zero_le problems

/-- The fixer for queries declines all issues at a place, or none. -/
theorem Query.attempt_declined {t : Text} {i : Issue} (h : Script.isPlain t = true)
    (type : i.type = IssueType.sqlInjection)
    (declined : (Query.fixer.propose (Script.ofText t)
      (Issue.someAt i.line i.column)).toOption = none) :
    (Repair.attempt scriptGrammar scriptEngine t i).succeeded = false := by
  have hsame : Query.fixer.propose (Script.ofText t) i =
      Query.fixer.propose (Script.ofText t) (Issue.someAt i.line i.column) :=
    Query.propose_congr _ rfl rfl
  rw [← hsame] at declined
  cases hfix : Query.fixer.propose (Script.ofText t) i with
  | ok p =>
      rw [hfix] at declined
      cases declined
  | error fault =>
      rw [Repair.attempt_of_fault (fixerFor?_sqlInjection type) (read_of_isPlain h) hfix]
      rfl

/-- The marks of the issues that a scan lists, in the order in which they are repaired. -/
theorem scan_of_isPlain {t file : Text} {marks : List Issue.Mark} (h : Script.isPlain t = true)
    (found : ((Script.ofText t).found file).map Issue.mark = marks) :
    ∃ a, scanTextFor none t file = .ok a ∧
      (Repair.processingOrder a.issues).map Issue.mark =
        (marks.mergeSort Issue.Mark.listedFirst).mergeSort Issue.Mark.comesFirst := by
  refine ⟨_, scanTextFor_of_parse (Script.parse_of_isPlain h) none file, ?_⟩
  rw [Issue.map_mark_processingOrder, Script.map_mark_analysis, found]

/-- A scan that finds two issues, in the order in which they are repaired. -/
theorem scan_pair {t file : Text} {m n first second : Issue.Mark} (h : Script.isPlain t = true)
    (found : ((Script.ofText t).found file).map Issue.mark = [m, n])
    (order : ([m, n].mergeSort Issue.Mark.listedFirst).mergeSort Issue.Mark.comesFirst =
      [first, second]) :
    ∃ a i j, scanTextFor none t file = .ok a ∧ Repair.processingOrder a.issues = [i, j] ∧
      i.mark = first ∧ j.mark = second := by
  obtain ⟨a, hscan, horder⟩ := scan_of_isPlain h found
  rw [order] at horder
  obtain ⟨i, more, hi, himark, hmore⟩ := List.map_eq_cons_iff.mp horder
  obtain ⟨j, more, rfl, hjmark, hmore⟩ := List.map_eq_cons_iff.mp hmore
  rw [List.map_eq_nil_iff.mp hmore] at hi
  exact ⟨a, i, j, hscan, hi, himark, hjmark⟩

/-- A scan that finds one issue lists it, with a number. -/
theorem scan_only {t file : Text} {x : Issue} (h : Script.isPlain t = true)
    (found : (Script.ofText t).found file = [x]) :
    ∃ a id, scanTextFor none t file = .ok a ∧ a.issues = [{ x with id }] := by
  have hissues : ((Script.ofText t).analysis none file).issues =
      Issue.numbered (Issue.listed ((Script.ofText t).found file)) := rfl
  rw [found, Issue.listed, List.mergeSort_singleton] at hissues
  exact ⟨_, _, scanTextFor_of_parse (Script.parse_of_isPlain h) none file, hissues⟩

theorem scan_singleton {t file : Text} {x : Issue} (h : Script.isPlain t = true)
    (found : (Script.ofText t).found file = [x]) :
    ∃ a i, scanTextFor none t file = .ok a ∧ a.issues = [i] ∧
      Repair.processingOrder a.issues = [i] ∧ i.mark = x.mark ∧ i.facts = x.facts := by
  obtain ⟨a, id, hscan, hissues⟩ := scan_only h found
  refine ⟨a, _, hscan, hissues, ?_, rfl, rfl⟩
  rw [hissues]
  exact List.mergeSort_singleton _

end Readiness
