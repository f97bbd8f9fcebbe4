import Readiness.Proofs.RepairRun
import Readiness.Proofs.StableSort

/-!
# A failed attempt leaves no trace

Take a repair whose fixers look only at what they are given, leave out the issues
that it failed to repair, and run it again: the text is the same, and so is the
ledger but for the failed entries.

Two things have to be lined up. The shorter list has to sort into the shorter
processing order, which is `mergeSort_filter`; issues may be listed twice over
with different outcomes, so an issue that was repaired is known by its place in
the list and not by itself. And the two runs have to meet the same texts with the
same issues. They do so because a failed attempt moves no lines, and because
moving lines and leaving out issues can be done in either order.
-/

namespace Readiness

/-! ## Elements whose partners pass a test -/

section Kept

variable {α β γ : Type}

/-- The elements of a list whose partners in another list pass a test. -/
def kept (test : β → Bool) (l : List α) (partners : List β) : List α :=
  ((l.zip partners).filter fun x => test x.2).map Prod.fst

theorem kept_cons_of_pos {test : β → Bool} {b : β} (h : test b = true) (a : α) (l : List α)
    (partners : List β) : kept test (a :: l) (b :: partners) = a :: kept test l partners := by
  rw [kept, List.zip_cons_cons, List.filter_cons, if_pos h, List.map_cons, kept]

theorem kept_cons_of_neg {test : β → Bool} {b : β} (h : test b = false) (a : α) (l : List α)
    (partners : List β) : kept test (a :: l) (b :: partners) = kept test l partners := by
  rw [kept, List.zip_cons_cons, List.filter_cons, if_neg (Bool.not_eq_true _ ▸ h), kept]

theorem kept_sublist (test : β → Bool) (l : List α) (partners : List β) :
    (kept test l partners).Sublist l := by
  induction l generalizing partners with
  | nil => exact List.Sublist.refl _
  | cons a l ih =>
      cases partners with
      | nil => exact List.nil_sublist _
      | cons b partners =>
          cases h : test b with
          | true =>
              rw [kept_cons_of_pos h]
              exact (ih partners).cons_cons a
          | false =>
              rw [kept_cons_of_neg h]
              exact (ih partners).cons a

theorem map_kept (f : α → γ) (test : β → Bool) (l : List α) (partners : List β) :
    (kept test l partners).map f = kept test (l.map f) partners := by
  induction l generalizing partners with
  | nil => rfl
  | cons a l ih =>
      cases partners with
      | nil => rfl
      | cons b partners =>
          cases h : test b with
          | true => rw [List.map_cons, kept_cons_of_pos h, kept_cons_of_pos h, List.map_cons, ih]
          | false => rw [List.map_cons, kept_cons_of_neg h, kept_cons_of_neg h, ih]

theorem kept_map (f : γ → β) (test : β → Bool) (l : List α) (partners : List γ) :
    kept test l (partners.map f) = kept (fun c => test (f c)) l partners := by
  rw [kept, kept, List.zip_map_right, List.filter_map, List.map_map]
  rfl

theorem kept_eq_nil {test : β → Bool} {partners : List β} (h : ∀ b ∈ partners, test b = false)
    (l : List α) : kept test l partners = [] := by
  have hnone : (l.zip partners).filter (fun x => test x.2) = [] := by
    rw [List.filter_eq_nil_iff]
    intro x hx
    rw [h x.2 (List.of_mem_zip hx).2]
    exact Bool.false_ne_true
  rw [kept, hnone, List.map_nil]

/-- Where elements have keys of their own, those of a sublist can be told by their
keys. -/
theorem filter_key_mem_of_sublist [BEq γ] [LawfulBEq γ] (key : α → γ) {l m : List α}
    (sub : m.Sublist l) (distinct : (l.map key).Nodup) :
    l.filter (fun a => (m.map key).contains (key a)) = m := by
  induction sub with
  | slnil => rfl
  | @cons m l a sub ih =>
      obtain ⟨hnew, hrest⟩ := List.nodup_cons.mp distinct
      have hout : ¬(m.map key).contains (key a) = true := by
        rw [List.contains_iff_mem]
        exact fun hmem => hnew ((sub.map key).mem hmem)
      rw [List.filter_cons, if_neg hout, ih hrest]
  | @cons_cons m l a sub ih =>
      obtain ⟨hnew, hrest⟩ := List.nodup_cons.mp distinct
      have hin : (key a :: m.map key).contains (key a) = true := by
        rw [List.contains_iff_mem]
        exact List.mem_cons_self
      have hother : ∀ b ∈ l,
          (key a :: m.map key).contains (key b) = (m.map key).contains (key b) := by
        intro b hb
        have hne : key b ≠ key a := fun hsame => hnew (hsame ▸ List.mem_map_of_mem hb)
        rw [List.contains_cons, beq_eq_false_iff_ne.mpr hne, Bool.false_or]
      rw [List.map_cons, List.filter_cons, if_pos hin, List.filter_congr hother, ih hrest]

end Kept

namespace Repair

variable {Tree : Type}

/-! ## Leaving out what failed -/

theorem course_cons (g : Grammar Tree) (e : Nat → Engine Tree) (t : Text) (i : Issue)
    (more : List Issue) :
    course g e t (i :: more) =
      attempt g (e 0) t i :: course g (fun k => e (k + 1)) (attempt g (e 0) t i).after
        (allCarried (attempt g (e 0) t i).shifts more) := by
  rw [course]

/-- The issues whose attempts succeed are the ones of a shorter course, and that
course is the longer one without what failed. The engine has to be the same at
every turn: in the shorter course the attempts come at other turns. -/
theorem course_kept (g : Grammar Tree) (e : Engine Tree) (t : Text) (issues : List Issue) :
    course g (fun _ => e) t
        (kept Attempt.succeeded issues (course g (fun _ => e) t issues)) =
      (course g (fun _ => e) t issues).filter Attempt.succeeded := by
  generalize hsteady : (fun _ : Nat => e) = steady
  fun_induction course g steady t issues with
  | case1 steady t =>
      rw [kept, List.zip_nil_left, List.filter_nil, List.map_nil, List.filter_nil, course]
  | case2 steady t i more a ih =>
      subst hsteady
      have hrest := ih rfl
      cases hs : a.succeeded with
      | true =>
          rw [kept_cons_of_pos hs, List.filter_cons_of_pos hs, course_cons, allCarried, map_kept]
          exact congrArg (a :: ·) hrest
      | false =>
          have hafter : a.after = t := (Attempt.after_of_failed hs).trans (attempt_before g e t i)
          have hshifts : a.shifts = [] := Attempt.shifts_of_failed hs
          rw [hafter, hshifts, allCarried_nil] at hrest ⊢
          rw [kept_cons_of_neg hs, List.filter_cons_of_neg (Bool.eq_false_iff.mp hs)]
          exact hrest

theorem lastText_filter_succeeded (g : Grammar Tree) (e : Nat → Engine Tree) (t : Text)
    (issues : List Issue) :
    lastText t ((course g e t issues).filter Attempt.succeeded) =
      lastText t (course g e t issues) := by
  fun_induction course g e t issues with
  | case1 => rfl
  | case2 e t i more a ih =>
      cases hs : a.succeeded with
      | true =>
          rw [List.filter_cons_of_pos hs, lastText, lastText, ih]
      | false =>
          have hafter : a.after = t :=
            (Attempt.after_of_failed hs).trans (attempt_before g (e 0) t i)
          rw [List.filter_cons_of_neg (Bool.eq_false_iff.mp hs), lastText, hafter]
          rw [hafter] at ih
          exact ih

theorem entry_success (label : Text) (a : Attempt) : (a.entry label).success = a.succeeded := by
  rw [Attempt.entry, Attempt.succeeded]
  cases a.verdict with
  | noFixer | failed _ | applied _ _ _ => rfl

/-! ## The issues that were repaired -/

/-- The issues in processing order, each with its place in the list. -/
def placedOrder (issues : List Issue) : List (Issue × Nat) :=
  issues.zipIdx.mergeSort fun a b => comesFirst a.1 b.1

/-- The places of the issues whose entries in the ledger are successes. Entries
are in processing order. -/
def repairedPlaces (issues : List Issue) (ledger : List LedgerEntry) : List Nat :=
  (kept LedgerEntry.success (placedOrder issues) ledger).map Prod.snd

/-- The issues whose entries in the ledger are successes, as they were listed. -/
def repairedIssues (issues : List Issue) (ledger : List LedgerEntry) : List Issue :=
  (issues.zipIdx.filter fun x => (repairedPlaces issues ledger).contains x.2).map Prod.fst

theorem processingOrder_map_fst (placed : List (Issue × Nat)) :
    processingOrder (placed.map Prod.fst) =
      (placed.mergeSort fun a b => comesFirst a.1 b.1).map Prod.fst :=
  (List.map_mergeSort (f := Prod.fst) (s := comesFirst) fun _ _ _ _ => rfl).symm

theorem placedOrder_map_fst (issues : List Issue) :
    (placedOrder issues).map Prod.fst = processingOrder issues := by
  rw [placedOrder, ← processingOrder_map_fst, List.zipIdx_map_fst]

theorem placedOrder_distinct (issues : List Issue) :
    ((placedOrder issues).map Prod.snd).Nodup := by
  have hperm : ((placedOrder issues).map Prod.snd).Perm (issues.zipIdx.map Prod.snd) :=
    (List.mergeSort_perm _ _).map Prod.snd
  rw [hperm.nodup_iff, List.zipIdx_map_snd]
  exact List.nodup_range'

theorem repairedIssues_sublist (issues : List Issue) (ledger : List LedgerEntry) :
    (repairedIssues issues ledger).Sublist issues := by
  have h : (repairedIssues issues ledger).Sublist (issues.zipIdx.map Prod.fst) :=
    List.filter_sublist.map Prod.fst
  rw [List.zipIdx_map_fst] at h
  exact h

/-- The processing order of the issues that were repaired is the one of all issues
without the others. -/
theorem processingOrder_repairedIssues (issues : List Issue) (ledger : List LedgerEntry) :
    processingOrder (repairedIssues issues ledger) =
      kept LedgerEntry.success (processingOrder issues) ledger := by
  let le : Issue × Nat → Issue × Nat → Bool := fun a b => comesFirst a.1 b.1
  let here : Issue × Nat → Bool := fun x => (repairedPlaces issues ledger).contains x.2
  have hsort : processingOrder (repairedIssues issues ledger) =
      ((issues.zipIdx.filter here).mergeSort le).map Prod.fst :=
    processingOrder_map_fst _
  have hfilter : (issues.zipIdx.filter here).mergeSort le = (placedOrder issues).filter here :=
    StableSort.mergeSort_filter (fun a b c => comesFirst_trans a.1 b.1 c.1)
      (fun a b => comesFirst_total a.1 b.1) here issues.zipIdx
  have hkept : (placedOrder issues).filter here =
      kept LedgerEntry.success (placedOrder issues) ledger :=
    filter_key_mem_of_sublist Prod.snd (kept_sublist _ _ _) (placedOrder_distinct issues)
  rw [hsort, hfilter, hkept, map_kept, placedOrder_map_fst]

/-- The issues that were repaired have the attempts that succeeded, and no others. -/
theorem attempts_repairedIssues (g : Grammar Tree) (e : Engine Tree) (label t : Text)
    (issues : List Issue) :
    attempts g (fun _ => e) t
        (repairedIssues issues ((attempts g (fun _ => e) t issues).map (Attempt.entry label))) =
      (attempts g (fun _ => e) t issues).filter Attempt.succeeded := by
  have hsuccess : (fun a : Attempt => (a.entry label).success) = Attempt.succeeded := by
    funext a
    exact entry_success label a
  rw [attempts, processingOrder_repairedIssues, kept_map, hsuccess]
  exact course_kept g e t (processingOrder issues)

/-- A failed attempt leaves no trace. If the issues are left out whose entries in
the ledger are failures, a second repair returns the same text, and the ledger
without those entries. -/
theorem repair_repairedIssues (g : Grammar Tree) (e : Engine Tree) (label t : Text)
    (issues : List Issue) {parsed : Except Text Tree} (reads : g.read t = .ok parsed) :
    ∃ r, repair g e label t issues = .ok r ∧
      (repairedIssues issues r.ledger).Sublist issues ∧
      repair g e label t (repairedIssues issues r.ledger) =
        .ok ⟨r.text, r.ledger.filter (·.success)⟩ := by
  cases parsed with
  | error reason =>
      refine ⟨_, repairInTurns_unparsed reads _ label issues, repairedIssues_sublist _ _, ?_⟩
      have hfailed : ∀ entry ∈ (processingOrder issues).map fun i =>
          LedgerEntry.failed i.id (unparsed reason), entry.success = false := by
        intro entry hentry
        obtain ⟨i, -, rfl⟩ := List.mem_map.mp hentry
        rfl
      have hnone : ((processingOrder issues).map fun i =>
          LedgerEntry.failed i.id (unparsed reason)).filter (·.success) = [] := by
        rw [List.filter_eq_nil_iff]
        exact fun entry hentry => Bool.eq_false_iff.mp (hfailed entry hentry)
      rw [repair, repairInTurns_unparsed reads, processingOrder_repairedIssues,
        kept_eq_nil hfailed, hnone]
      rfl
  | ok tree =>
      refine ⟨_, repairInTurns_parsed reads _ label issues, repairedIssues_sublist _ _, ?_⟩
      have hledger : ((attempts g (fun _ => e) t issues).filter Attempt.succeeded).map
            (Attempt.entry label) =
          ((attempts g (fun _ => e) t issues).map (Attempt.entry label)).filter (·.success) := by
        rw [List.filter_map]
        exact congrArg _ (List.filter_congr fun a _ => (entry_success label a).symm)
      rw [repair, repairInTurns_parsed reads, attempts_repairedIssues, hledger]
      congr 2
      exact lastText_filter_succeeded g (fun _ => e) t (processingOrder issues)

theorem repair_repairedIssues_sample :
    Sample.marks.read Sample.text = .ok (.ok Sample.text) ∧
      ∃ r, repair Sample.marks Sample.engine "" Sample.text Sample.issues = .ok r ∧
        repair Sample.marks Sample.engine "" Sample.text
            (repairedIssues Sample.issues r.ledger) =
          .ok ⟨r.text, r.ledger.filter (·.success)⟩ := by
  obtain ⟨r, hr, _, hagain⟩ := repair_repairedIssues Sample.marks Sample.engine ""
    Sample.text Sample.issues rfl
  exact ⟨rfl, r, hr, hagain⟩

end Repair

end Readiness
