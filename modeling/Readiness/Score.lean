import Readiness.Issue.Basic

/-!
# The score

A project starts at a hundred points and loses some for each issue, by severity, down to none. The
score falls into one of three tiers, and the tier decides how a scan exits.
-/

namespace Readiness

/-- The points that an issue of a severity costs. -/
def Severity.penalty : Severity → Nat
  | .critical => 20
  | .high => 10
  | .medium => 5
  | .low => 2

/-- The points of a project without issues. -/
def maxScore : Nat := 100

/-- The score of a list of issues. -/
def score (issues : List Issue) : Nat := maxScore - (issues.map (·.severity.penalty)).foldr (· + ·) 0

/-- How ready a project is. -/
inductive Tier where
  | green
  | yellow
  | red
deriving DecidableEq, Repr, Inhabited

/-- The word for a tier. -/
def Tier.name : Tier → Text
  | .green => "green"
  | .yellow => "yellow"
  | .red => "red"

/-- The lowest scores that are still green and yellow. -/
structure Thresholds where
  green : Int := 80
  yellow : Int := 50

/-- The tier of a score. -/
def Thresholds.tier (t : Thresholds) (score : Int) : Tier :=
  if t.green ≤ score then .green
  else if t.yellow ≤ score then .yellow
  else .red

/-- The tier of a score by the usual thresholds. -/
def tierOf (score : Int) : Tier := ({} : Thresholds).tier score

/-- How a command ends. -/
inductive ExitStatus where
  | success
  | violation
  | failure
deriving DecidableEq, Repr, Inhabited

/-- The number of an exit status. -/
def ExitStatus.code : ExitStatus → Nat
  | .success => 0
  | .violation => 1
  | .failure => 2

/-- How a scan with a result in the tier ends. -/
def Tier.exit : Tier → ExitStatus
  | .green => .success
  | .yellow => .violation
  | .red => .failure

end Readiness
