import Readiness.Repair.Query
import Readiness.Repair.Rejection
import Readiness.Repair.Secret
import Readiness.Scan

/-!
# Repairing scripts

The engine with the fixers for scripts, and the repair of a single text.
-/

namespace Readiness

/-- How scripts are read. -/
def scriptGrammar : Repair.Grammar Script where
  read t := do return (← Script.parse t).mapError Script.Failure.message
  problems s := s.problems.length

/-- The fixers for scripts. -/
def fixers : List (Repair.Fixer Script) := [Query.fixer, Rejection.fixer, Secret.fixer]

/-- The engine with all fixers for scripts. -/
def scriptEngine : Repair.Engine Script := Repair.Engine.of fixers

/-- The issues of the kinds that are asked for; all of them if no kind is named. -/
def Issue.wanted (types : List Text) (issues : List Issue) : List Issue :=
  if types.isEmpty then issues else issues.filter fun i => types.contains i.type

/-- A text that was scanned and repaired. -/
structure RepairedText where
  analysis : Analysis
  previews : List Preview
  repaired : Repaired

/-- Scans a text under the name of a file and repairs the issues of the kinds that are asked for. -/
def repairText (t : Text) (file : Text) (types : List Text) : Except Breakdown RepairedText := do
  let analysis ← scanTextFor none t file
  let issues := Issue.wanted types analysis.issues
  let previews ← Repair.preview scriptGrammar scriptEngine t issues
  return ⟨analysis, previews, ← Repair.repair scriptGrammar scriptEngine file t issues⟩

end Readiness
