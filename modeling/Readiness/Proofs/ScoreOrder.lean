import Mathlib.Algebra.GroupWithZero.Nat
import Mathlib.Algebra.Order.BigOperators.Group.List
import Mathlib.Algebra.Order.Group.Nat
import Readiness.Score

/-!
# The score as a running total

The score is what is left of a hundred points after the sum of all penalties.
It is also where the points end that lose one penalty after the other and are
never let below zero: a total that has hit zero stays there
(`clamped_eq_sub`), so the clamping may be done after every issue or once at
the end (`foldl_clamped`). The sum depends neither on the order of the issues
nor on anything but their severities, and grows with the list. So more issues
mean a lower score (`score_antitone`), and a lower score never a milder tier,
even by thresholds that are the wrong way round (`Thresholds.code_antitone`).
-/

namespace Readiness

/-- The points that are left after one more issue, never fewer than none. -/
def clamped (points : Int) (i : Issue) : Int := max 0 (points - i.severity.penalty)

/-- The sum of the penalties of issues. -/
def totalPenalty (issues : List Issue) : Nat := (issues.map (·.severity.penalty)).sum

theorem score_eq (issues : List Issue) : score issues = maxScore - totalPenalty issues := rfl

/-- One issue takes its penalty off points that are not negative, down to none. -/
theorem clamped_eq_sub (points : Nat) (i : Issue) :
    clamped points i = (points - i.severity.penalty : Nat) := by
  rw [clamped]
  omega

/-- Issue by issue, the points lose the sum of the penalties, down to none. -/
theorem foldl_clamped (points : Nat) (issues : List Issue) :
    issues.foldl clamped points = (points - totalPenalty issues : Nat) := by
  induction issues generalizing points with
  | nil => rfl
  | cons i more ih =>
      rw [List.foldl_cons, clamped_eq_sub, ih, Nat.sub_sub]
      rfl

theorem totalPenalty_perm {issues others : List Issue} (h : issues.Perm others) :
    totalPenalty issues = totalPenalty others :=
  (h.map _).sum_eq

theorem totalPenalty_mono {fewer issues : List Issue} (h : fewer.Sublist issues) :
    totalPenalty fewer ≤ totalPenalty issues :=
  (h.map _).sum_le_sum fun n _ => Nat.zero_le n

theorem score_antitone {fewer issues : List Issue} (h : fewer.Sublist issues) :
    score issues ≤ score fewer :=
  Nat.sub_le_sub_left (totalPenalty_mono h) maxScore

/-- The higher of two scores exits no worse, however the two thresholds stand to each other. -/
theorem Thresholds.code_antitone (t : Thresholds) {low high : Int} (h : low ≤ high) :
    (t.tier high).exit.code ≤ (t.tier low).exit.code := by
  rw [tier, tier]
  by_cases hgreen : t.green ≤ low
  · rw [if_pos (Int.le_trans hgreen h)]
    exact Nat.zero_le _
  rw [if_neg hgreen]
  by_cases hyellow : t.yellow ≤ low
  · rw [if_pos hyellow, if_pos (Int.le_trans hyellow h)]
    split
    · exact Nat.zero_le _
    · exact Nat.le_refl _
  rw [if_neg hyellow]
  -- the lower score is red, and no tier exits with more than red does
  cases if t.green ≤ high then Tier.green else if t.yellow ≤ high then .yellow else .red <;>
    decide

/-- The score is the running total of the issues in any order, lies between zero and a hundred, and
only falls with more issues, as the tier and the exit status do by any thresholds. -/
theorem score_order_free_antitone (issues : List Issue) :
    (score issues : Int) = issues.foldl clamped maxScore ∧
    (∀ others, issues.Perm others → score others = score issues) ∧
    0 ≤ (score issues : Int) ∧ (score issues : Int) ≤ 100 ∧
    ∀ fewer, fewer.Sublist issues → score issues ≤ score fewer ∧
      ∀ t : Thresholds, (t.tier (score fewer)).exit.code ≤ (t.tier (score issues)).exit.code := by
  refine ⟨(foldl_clamped maxScore issues).symm, fun others h => ?_, Int.natCast_nonneg _, ?_,
    fun fewer h => ⟨score_antitone h, fun t => ?_⟩⟩
  · rw [score_eq, score_eq, totalPenalty_perm h]
  · exact Int.ofNat_le.mpr (Nat.sub_le maxScore _)
  · exact t.code_antitone (Int.ofNat_le.mpr (score_antitone h))

/-- An issue of a severity, of which nothing else is known. -/
def issueOf (severity : Severity) : Issue :=
  ⟨"", IssueType.parseError, severity, .operational, default, "", "", "", none, [], "", rfl⟩

/-- Without a critical issue the score is higher and the scan passes, by thresholds of which the one
for yellow is above that for green. -/
theorem score_of_sublist :
    [issueOf .low].Sublist [issueOf .critical, issueOf .low] ∧
    score [issueOf .critical, issueOf .low] = 78 ∧ score [issueOf .low] = 98 ∧
    score [issueOf .critical, issueOf .low] ≤ score [issueOf .low] ∧
    ((⟨90, 95⟩ : Thresholds).tier (score [issueOf .low])).exit.code ≤
      ((⟨90, 95⟩ : Thresholds).tier (score [issueOf .critical, issueOf .low])).exit.code ∧
    ((⟨90, 95⟩ : Thresholds).tier (score [issueOf .low])).exit.code = 0 ∧
    ((⟨90, 95⟩ : Thresholds).tier (score [issueOf .critical, issueOf .low])).exit.code = 2 ∧
    score [issueOf .low, issueOf .critical] = score [issueOf .critical, issueOf .low] := by
  have hsub : [issueOf .low].Sublist [issueOf .critical, issueOf .low] := .cons _ (.refl _)
  obtain ⟨-, hperm, -, -, hsublist⟩ :=
    score_order_free_antitone [issueOf .critical, issueOf .low]
  obtain ⟨hle, hcode⟩ := hsublist _ hsub
  exact ⟨hsub, rfl, rfl, hle, hcode ⟨90, 95⟩, rfl, rfl, hperm _ (.swap _ _ _)⟩

end Readiness
