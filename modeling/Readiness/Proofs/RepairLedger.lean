import Readiness.Proofs.RepairRun
import Readiness.Proofs.StableSort

/-!
# The ledger tells how the text went

A ledger is read long after the run that wrote it. `LedgerEntry.Tells` is what a
reader may conclude from one entry: a failed one left the text as it was and
says why, and one that succeeded left the very text that its diff leads to.

The entries follow the issues where they were at first, bottom up, although the
issues move while the run is on. They can, because moving changes nothing but
the line of an issue, and a run never looks at the order of the lines again.
-/

namespace Readiness

/-- What an entry tells of the texts before and after its attempt. -/
structure LedgerEntry.Tells (entry : LedgerEntry) (label before after : Text) : Prop where
  failed : entry.success = false →
    after = before ∧ (∃ error, entry.error = some error ∧ error ≠ []) ∧
      entry.diff = none ∧ entry.explanation = []
  applied : entry.success = true →
    entry.error = none ∧ (entry.diff = none ↔ after = before) ∧
      (after ≠ before → entry.diff = some (Diff.unified label before after))

namespace Repair

variable {Tree : Type}

theorem Fault.kind_ne_nil (f : Fault) : f.kind ≠ [] := by
  have common : ("FixApplicationError" : Text) ≠ [] := by decide
  have parsing : ("ParseFailure" : Text) ≠ [] := by decide
  cases f with
  | raised kind message named => exact named
  | unreadable reason => exact parsing
  | declined | badRange | refused | breakdown | broken => exact common

/-- A fault that has no words of its own goes by the name of its kind. -/
theorem Fault.entryText_ne_nil (f : Fault) : f.entryText ≠ [] := by
  rw [entryText]
  split
  · exact f.kind_ne_nil
  · next hwords => exact fun hnil => hwords (List.isEmpty_iff.mpr hnil)

theorem entry_issueId (label : Text) (a : Attempt) : (a.entry label).issueId = a.issue.id := by
  rw [Attempt.entry]
  split <;> rfl

theorem failed_tells (issueId label : Text) {error before after : Text} (words : error ≠ [])
    (same : after = before) : (LedgerEntry.failed issueId error).Tells label before after := by
  constructor
  · intro _
    exact ⟨same, ⟨error, rfl, words⟩, rfl, rfl⟩
  · intro happlied
    cases happlied

theorem entry_tells (label : Text) (a : Attempt) :
    (a.entry label).Tells (diffLabel label a.issue) a.before a.after := by
  cases hv : a.verdict with
  | noFixer =>
      have hwords : noFixer ≠ [] := by decide
      have hafter : a.after = a.before := by rw [Attempt.after, hv]
      rw [Attempt.entry, hv]
      exact failed_tells _ _ hwords hafter
  | failed f =>
      have hafter : a.after = a.before := by rw [Attempt.after, hv]
      rw [Attempt.entry, hv]
      exact failed_tells _ _ f.entryText_ne_nil hafter
  | applied edits t explanation =>
      rw [Attempt.after_of_applied hv, Attempt.entry, hv]
      constructor
      · intro hfailed
        cases hfailed
      · intro _
        refine ⟨rfl, ?_, fun hne => if_neg hne⟩
        by_cases ht : t = a.before
        · simp only [ht, if_true]
        · simp only [ht, if_false, reduceCtorEq]

/-- An issue goes by the same label wherever its line has moved to. -/
theorem diffLabel_congr (label : Text) {i j : Issue} (h : i.file = j.file) :
    diffLabel label i = diffLabel label j := by
  rw [diffLabel, diffLabel, h]

theorem course_length (g : Grammar Tree) (e : Nat → Engine Tree) (t : Text)
    (issues : List Issue) : (course g e t issues).length = issues.length := by
  fun_induction course g e t issues with
  | case1 => rfl
  | case2 e t i more a ih =>
      rw [List.length_cons, ih, allCarried, List.length_map, List.length_cons]

/-- The attempts of a course are for the issues of the list, one after the other. -/
theorem map_id_course (g : Grammar Tree) (e : Nat → Engine Tree) (t : Text) (issues : List Issue) :
    (course g e t issues).map (·.issue.id) = issues.map (·.id) := by
  fun_induction course g e t issues with
  | case1 => rfl
  | case2 e t i more a ih =>
      have hcarried : (allCarried a.shifts more).map (·.id) = more.map (·.id) := by
        rw [allCarried, List.map_map]
        rfl
      rw [List.map_cons, List.map_cons, ih, hcarried]
      exact congrArg (· :: more.map (·.id)) (congrArg Issue.id (attempt_issue g (e 0) t i))

theorem map_issueId_of_repairInTurns {g : Grammar Tree} {e : Nat → Engine Tree} {label t : Text}
    {issues : List Issue} {r : Repaired} (repaired : repairInTurns g e label t issues = .ok r) :
    r.ledger.map (·.issueId) = (processingOrder issues).map (·.id) := by
  cases hread : g.read t with
  | error b =>
      rw [repairInTurns_breakdown hread] at repaired
      cases repaired
  | ok parsed =>
      cases parsed with
      | error reason =>
          rw [repairInTurns_unparsed hread] at repaired
          cases repaired
          rw [List.map_map]
          rfl
      | ok tree =>
          rw [repairInTurns_parsed hread] at repaired
          cases repaired
          rw [List.map_map, ← map_id_course g e t (processingOrder issues)]
          exact List.map_congr_left fun a _ => entry_issueId label a

/-- The texts that a course goes through. Each attempt leads from one of them to
the next, and is for the issue that was listed in its place, which may have
moved since but still has its name and its file. -/
theorem course_texts (g : Grammar Tree) (e : Nat → Engine Tree) (t : Text)
    (issues : List Issue) :
    ∃ texts : Nat → Text, texts 0 = t ∧
      texts issues.length = lastText t (course g e t issues) ∧
      ∀ (k : Nat) (i : Issue), issues[k]? = some i →
        ∃ a, (course g e t issues)[k]? = some a ∧ a.issue.id = i.id ∧
          a.issue.file = i.file ∧ a.before = texts k ∧ a.after = texts (k + 1) := by
  fun_induction course g e t issues with
  | case1 e t =>
      refine ⟨fun _ => t, rfl, rfl, ?_⟩
      intro k i hi
      cases hi
  | case2 e t i more a ih =>
      obtain ⟨later, hfirst, hlast, hlater⟩ := ih
      rw [allCarried, List.length_map] at hlast
      refine ⟨fun k => k.casesOn t later, rfl, hlast, ?_⟩
      intro k j hj
      cases k with
      | zero =>
          cases hj
          have hissue : a.issue = i := attempt_issue g (e 0) t i
          exact ⟨a, rfl, by rw [hissue], by rw [hissue], attempt_before g (e 0) t i,
            hfirst.symm⟩
      | succ k =>
          have hcarried : (allCarried a.shifts more)[k]? = some (carried a.shifts j) := by
            rw [List.getElem?_cons_succ] at hj
            rw [allCarried, List.getElem?_map, hj]
            rfl
          exact hlater k (carried a.shifts j) hcarried

/-- The ledger of a text that parses is a faithful log of its repair, whatever the
fixers do at its turns. There is an entry for each issue, in the one bottom-up
order of the places that were given, and there are texts from the given one to the
returned one such that each entry tells how its attempt led from one to the
next. -/
theorem repairInTurns_ledger (g : Grammar Tree) (e : Nat → Engine Tree) (label t : Text)
    (issues : List Issue) {tree : Tree} (parses : g.read t = .ok (.ok tree)) :
    ∃ (r : Repaired) (ordered : List Issue) (texts : Nat → Text),
      repairInTurns g e label t issues = .ok r ∧
      BottomUp issues ordered ∧ (∀ other, BottomUp issues other → other = ordered) ∧
      r.ledger.length = issues.length ∧
      texts 0 = t ∧ texts issues.length = r.text ∧
      ∀ (k : Nat) (i : Issue), ordered[k]? = some i →
        ∃ entry, r.ledger[k]? = some entry ∧ entry.issueId = i.id ∧
          entry.Tells (diffLabel label i) (texts k) (texts (k + 1)) := by
  have hlength : (processingOrder issues).length = issues.length := List.length_mergeSort _
  obtain ⟨texts, hfirst, hlast, heach⟩ := course_texts g e t (processingOrder issues)
  rw [hlength] at hlast
  refine ⟨_, processingOrder issues, texts, repairInTurns_parsed parses e label issues,
    bottomUp_processingOrder issues, fun _ => BottomUp.eq_processingOrder, ?_, hfirst, hlast, ?_⟩
  · rw [List.length_map, attempts, course_length, hlength]
  · intro k i hi
    obtain ⟨a, ha, hid, hfile, hbefore, hafter⟩ := heach k i hi
    refine ⟨a.entry label, ?_, ?_, ?_⟩
    · rw [List.getElem?_map, attempts, ha]
      rfl
    · rw [entry_issueId, hid]
    · rw [← diffLabel_congr label hfile, ← hbefore, ← hafter]
      exact entry_tells label a

theorem repairInTurns_ledger_sample :
    Sample.marks.read Sample.text = .ok (.ok Sample.text) ∧
      ∃ r, repairInTurns Sample.marks Sample.moody "" Sample.text Sample.issues = .ok r ∧
        r.ledger.length = 3 := by
  obtain ⟨r, _, _, hr, -, -, hlength, -⟩ := repairInTurns_ledger Sample.marks Sample.moody ""
    Sample.text Sample.issues rfl
  exact ⟨rfl, r, hr, hlength⟩

end Repair

end Readiness
