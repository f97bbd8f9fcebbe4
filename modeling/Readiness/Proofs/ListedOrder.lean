import Readiness.Proofs.RepairRun
import Readiness.Proofs.StableSort

/-!
# How issues are listed does not matter

The engine takes a list of issues and puts it into processing order before it does
anything else. From then on it only takes issues off the front: the lines of those
that are left move with the edits, but they are never sorted again. So two lists
come to the same as soon as they have one processing order, and
`processingOrder_eq_iff` says when they have. Sorting is stable, and stays so
although it is done downwards, so the lists need only agree place by place: on the
issues that stand there and on the order in which they are listed. Nothing more can
be asked for, because a list whose ties are turned round has another processing
order.
-/

namespace Readiness

namespace Repair

open StableSort

variable {Tree : Type}

/-- Two lists have the same issues at every place, listed in the same order. An issue without a
column stands at column zero. -/
def SamePlaces (issues listed : List Issue) : Prop :=
  ∀ (line : Nat) (column : Int),
    issues.filter (fun i => i.line = line ∧ i.column.getD 0 = column) =
      listed.filter (fun i => i.line = line ∧ i.column.getD 0 = column)

/-- Lists have one processing order exactly if they agree place by place. -/
theorem processingOrder_eq_iff {issues listed : List Issue} :
    processingOrder issues = processingOrder listed ↔ SamePlaces issues listed := by
  have stable := fun l : List Issue => (bottomUp_processingOrder l).stable
  have sorted : ∀ l, (processingOrder l).Pairwise fun a b => comesFirst a b = true :=
    List.pairwise_mergeSort comesFirst_trans comesFirst_total
  constructor
  · intro same line column
    rw [← stable issues, ← stable listed, same]
  · intro same
    refine eq_of_filter_tied comesFirst_total (sorted issues) (sorted listed) ?_
    intro a
    rw [tied_eq_place, stable issues, stable listed]
    exact same a.line a.orderColumn

/-- A repair looks at its issues in processing order only, also where the fixers remember what they
were asked before. -/
theorem repairInTurns_congr {issues listed : List Issue}
    (same : processingOrder issues = processingOrder listed) (g : Grammar Tree)
    (e : Nat → Engine Tree) (label t : Text) :
    repairInTurns g e label t issues = repairInTurns g e label t listed := by
  have hattempts : attempts g e t issues = attempts g e t listed := by
    rw [attempts, attempts, same]
  cases hread : g.read t with
  | error b => rw [repairInTurns_breakdown hread, repairInTurns_breakdown hread]
  | ok parsed =>
      cases parsed with
      | error reason =>
          rw [repairInTurns_unparsed hread, repairInTurns_unparsed hread, same]
      | ok tree =>
          rw [repairInTurns_parsed hread, repairInTurns_parsed hread, hattempts]

theorem previewBy_congr {issues listed : List Issue}
    (same : processingOrder issues = processingOrder listed)
    (ask : Fixer Tree → Text → Tree → Issue → Except Fault Preview) (g : Grammar Tree)
    (e : Engine Tree) (t : Text) :
    previewBy ask g e t issues = previewBy ask g e t listed := by
  rw [previewBy, previewBy, same]

theorem previewBy_returns {g : Grammar Tree} {t : Text} {parsed : Except Text Tree}
    (reads : g.read t = .ok parsed)
    (ask : Fixer Tree → Text → Tree → Issue → Except Fault Preview) (e : Engine Tree)
    (issues : List Issue) : ∃ previews, previewBy ask g e t issues = .ok previews := by
  rw [previewBy, reads]
  cases parsed with
  | error reason => exact ⟨_, rfl⟩
  | ok tree => exact ⟨_, rfl⟩

/-- The order in which issues are listed does not matter but for issues at one place. Two lists that
agree place by place are repaired alike, text, ledger, diffs and all, and previewed alike, whatever
the fixers do and however they show it; and a text whose parser does not break down has such a
repair and such previews. -/
theorem repair_samePlaces (g : Grammar Tree) (e : Engine Tree) (label t : Text)
    {issues listed : List Issue} (same : SamePlaces issues listed) :
    repair g e label t issues = repair g e label t listed ∧
      (∀ ask, previewBy ask g e t issues = previewBy ask g e t listed) ∧
      ∀ parsed, g.read t = .ok parsed →
        (∃ r, repair g e label t listed = .ok r) ∧
        ∀ ask, ∃ previews, previewBy ask g e t listed = .ok previews := by
  have horder := processingOrder_eq_iff.mpr same
  refine ⟨repairInTurns_congr horder g (fun _ => e) label t,
    fun ask => previewBy_congr horder ask g e t, ?_⟩
  intro parsed hparsed
  refine ⟨?_, fun ask => previewBy_returns hparsed ask e listed⟩
  cases parsed with
  | error reason => exact ⟨_, repairInTurns_unparsed hparsed (fun _ => e) label listed⟩
  | ok tree => exact ⟨_, repairInTurns_parsed hparsed (fun _ => e) label listed⟩

namespace Sample

/-- Two of the issues stand at one place. -/
def crowded : List Issue := [issue "top" 1, issue "left" 2, issue "right" 2, issue "bottom" 3]

def shuffled : List Issue := [issue "bottom" 3, issue "left" 2, issue "top" 1, issue "right" 2]

theorem samePlaces : SamePlaces crowded shuffled := by
  intro line column
  have line_issue : ∀ id n, (issue id n).line = n := fun _ _ => rfl
  have column_issue : ∀ id n, (issue id n).column = none := fun _ _ => rfl
  simp only [crowded, shuffled, List.filter_cons, List.filter_nil, line_issue, column_issue]
  by_cases top : 1 = line
  · subst top
    simp
  · by_cases middle : 2 = line
    · subst middle
      simp
    · simp [top, middle]

end Sample

theorem repair_samePlaces_sample :
    SamePlaces Sample.crowded Sample.shuffled ∧
      repair Sample.marks Sample.engine "" Sample.text Sample.crowded =
        repair Sample.marks Sample.engine "" Sample.text Sample.shuffled ∧
      preview Sample.marks Sample.engine Sample.text Sample.crowded =
        preview Sample.marks Sample.engine Sample.text Sample.shuffled := by
  obtain ⟨hrepair, hpreview, -⟩ :=
    repair_samePlaces Sample.marks Sample.engine "" Sample.text Sample.samePlaces
  exact ⟨Sample.samePlaces, hrepair, hpreview Fixer.preview⟩

end Repair

end Readiness
