import Readiness.Proofs.RepairRun

/-!
# A repair never leaves a text that does not parse

`Grammar.Readable` is the invariant: the running text parses with no more
problems than the text had that the repair was asked for. An attempt that fails
leaves the text as it is. One that succeeds has been through `accept`, which
reads the edited text again unless there was nothing to edit, and then the text
is the same. Problems are compared with those of the tree that the fixer was
given, so the bound is handed down from turn to turn and never grows.

None of this asks what the fixers propose, or whether they propose the same
thing twice.
-/

namespace Readiness.Repair

variable {Tree : Type}

/-- The text parses, with no more problems than the given number. -/
def Grammar.Readable (g : Grammar Tree) (t : Text) (most : Nat) : Prop :=
  ∃ tree, g.read t = .ok (.ok tree) ∧ g.problems tree ≤ most

theorem attempt_readable {g : Grammar Tree} {t : Text} {most : Nat}
    (h : g.Readable t most) (e : Engine Tree) (i : Issue) :
    g.Readable (attempt g e t i).after most := by
  cases hs : (attempt g e t i).succeeded with
  | false =>
      rw [Attempt.after_of_failed hs, attempt_before]
      exact h
  | true =>
      obtain ⟨edits, u, explanation, hv⟩ := Attempt.exists_applied hs
      obtain ⟨old, hold, haccept⟩ := attempt_applied hv
      rw [Attempt.after_of_applied hv]
      rcases (accept_ok haccept).2 with rfl | ⟨new, hnew, hfewer⟩
      · exact h
      · obtain ⟨tree, htree, hmost⟩ := h
        have hsame : tree = old := by
          rw [htree] at hold
          cases hold
          rfl
        rw [hsame] at hmost
        exact ⟨new, hnew, Nat.le_trans hfewer hmost⟩

theorem turn_readable {g : Grammar Tree} {e : Engine Tree} {r r' : Run} {most : Nat}
    (h : g.Readable r.text most) (hturn : r.turn g e = .ok r') :
    g.Readable r'.text most := by
  rw [Run.turn] at hturn
  split at hturn
  · cases hturn
    exact h
  · next i more _ =>
      cases hmore : more.mapM (moved (attempt g e r.text i).shifts) with
      | error f =>
          simp only [hmore] at hturn
          cases hturn
      | ok more' =>
          simp only [hmore] at hturn
          cases hturn
          exact attempt_readable h e i

/-- A repair never breaks a text, whatever the fixers do at its turns. If the text
parses, so does the running text after any number of turns, and so does the text
that the repair returns, with no more problems than at the start. If it does not,
it is returned as it is, and the ledger says of each issue, in processing order,
that the text could not be parsed and why. -/
theorem repairInTurns_readable (g : Grammar Tree) (e : Nat → Engine Tree) (label t : Text)
    (issues : List Issue) :
    (∀ tree, g.read t = .ok (.ok tree) →
      (∀ k, ∃ r, (Run.start t issues).turns g e k = .ok r ∧
        g.Readable r.text (g.problems tree)) ∧
      ∃ r, repairInTurns g e label t issues = .ok r ∧
        g.Readable r.text (g.problems tree)) ∧
    (∀ reason, g.read t = .ok (.error reason) →
      ∃ r, repairInTurns g e label t issues = .ok r ∧ r.text = t ∧
        r.ledger.map (·.issueId) = (processingOrder issues).map (·.id) ∧
        ∀ entry ∈ r.ledger, entry.success = false ∧
          entry.error = some (Text.ofString "Failed to parse code: " ++ reason)) := by
  constructor
  · intro tree htree
    have hstart : g.Readable (Run.start t issues).text (g.problems tree) :=
      ⟨tree, htree, Nat.le_refl _⟩
    have hkept : ∀ {k : Nat} {r : Run}, (Run.start t issues).turns g e k = .ok r →
        g.Readable r.text (g.problems tree) :=
      turns_invariant (P := fun r => g.Readable r.text (g.problems tree))
        (fun _ _ _ => turn_readable) hstart
    refine ⟨?_, _, repairInTurns_parsed htree e label issues, hkept (run_ok g e t issues)⟩
    intro k
    obtain ⟨r, hr⟩ := turns_total g e (Run.start t issues) k
    exact ⟨r, hr, hkept hr⟩
  · intro reason hreason
    refine ⟨_, repairInTurns_unparsed hreason e label issues, rfl, ?_, ?_⟩
    · rw [List.map_map]
      rfl
    · intro entry hentry
      obtain ⟨i, -, rfl⟩ := List.mem_map.mp hentry
      exact ⟨rfl, rfl⟩

theorem repairInTurns_readable_sample :
    Sample.marks.read Sample.text = .ok (.ok Sample.text) ∧
      ∃ r, repairInTurns Sample.marks Sample.moody "" Sample.text Sample.issues = .ok r ∧
        Sample.marks.Readable r.text 1 := by
  have h := repairInTurns_readable Sample.marks Sample.moody "" Sample.text Sample.issues
  exact ⟨rfl, (h.1 Sample.text rfl).2⟩

end Readiness.Repair
