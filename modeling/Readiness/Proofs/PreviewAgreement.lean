import Readiness.Proofs.DiffSame
import Readiness.Proofs.RepairErasure
import Readiness.Proofs.RepairLedger
import Readiness.Proofs.SecretRead

/-!
# What a preview says about a repair

A preview and a repair of one issue ask the same fixer about the same tree and make
the same edits. Then they part: the repair reads the edited text and takes its
edits back if the text does not parse, the preview does not look. So a repair that
succeeds was previewed, with the same diff, and a preview that promises a repair
keeps its promise just when the edited text reads.

The diffs agree also where the edits change nothing. The repair has none then, and
the preview shows that of a text and itself.
-/

namespace Readiness

namespace Repair

variable {Tree : Type}

/-- What the fixer of an issue proposes for a tree, and the text with the edits made. -/
def Proposes (e : Engine Tree) (t : Text) (tree : Tree) (i : Issue) (p : Proposal) (u : Text) :
    Prop :=
  ∃ f, e.fixerFor? i = some f ∧ f.propose tree i = .ok p ∧ Edit.apply t p.edits = .ok u

/-- Whether an edited text reads as well as the tree it was made from: with no more problems. A text
without edits is not read. -/
def ReadsOn (g : Grammar Tree) (tree : Tree) (edits : List Edit) (u : Text) : Prop :=
  edits = [] ∨ ∃ tree', g.read u = .ok (.ok tree') ∧ g.problems tree' ≤ g.problems tree

theorem Proposes.unique {e : Engine Tree} {t u v : Text} {tree : Tree} {i : Issue}
    {p q : Proposal} (hp : Proposes e t tree i p u) (hq : Proposes e t tree i q v) :
    p = q ∧ u = v := by
  obtain ⟨f, hf, hpropose, happly⟩ := hp
  obtain ⟨f', hf', hpropose', happly'⟩ := hq
  cases hf.symm.trans hf'
  cases hpropose.symm.trans hpropose'
  cases happly.symm.trans happly'
  exact ⟨rfl, rfl⟩

theorem accept_eq_ok {g : Grammar Tree} {t u : Text} {tree : Tree} {edits : List Edit} :
    accept g t (g.problems tree) edits = .ok u ↔
      Edit.apply t edits = .ok u ∧ ReadsOn g tree edits u := by
  constructor
  · intro h
    rw [accept] at h
    split at h
    · cases h
    · next updated happly =>
        split at h
        · next hempty =>
            cases h
            exact ⟨happly, .inl (List.isEmpty_iff.mp hempty)⟩
        · split at h
          · cases h
          · cases h
          · next tree' hread =>
              split at h
              · cases h
              · next hfew =>
                  cases h
                  exact ⟨happly, .inr ⟨tree', hread, Nat.not_lt.mp hfew⟩⟩
  · rintro ⟨happly, hempty | ⟨tree', hread, hfew⟩⟩
    · rw [accept, happly, hempty]
      rfl
    · exact accept_of_read happly hread hfew

/-! ## One issue -/

section One

variable {g : Grammar Tree} {e : Engine Tree} {t : Text} {tree : Tree} {i : Issue}

/-- The attempts that succeed are those whose edited text reads. -/
theorem attempt_eq_applied (parses : g.read t = .ok (.ok tree)) {edits : List Edit}
    {u explanation : Text} :
    (attempt g e t i).verdict = .applied edits u explanation ↔
      Proposes e t tree i ⟨edits, explanation⟩ u ∧ ReadsOn g tree edits u := by
  constructor
  · intro h
    obtain ⟨f, tree', hf, hread, hpropose, haccept⟩ := attempt_proposal h
    cases parses.symm.trans hread
    obtain ⟨happly, hreads⟩ := accept_eq_ok.mp haccept
    exact ⟨⟨f, hf, hpropose, happly⟩, hreads⟩
  · rintro ⟨⟨f, hf, hpropose, happly⟩, hreads⟩
    have haccept := accept_eq_ok.mpr ⟨happly, hreads⟩
    rw [attempt_of_proposal hf parses hpropose haccept]

theorem attempt_succeeded (parses : g.read t = .ok (.ok tree)) :
    (attempt g e t i).succeeded = true ↔ ∃ p u, Proposes e t tree i p u ∧ ReadsOn g tree p.edits u := by
  constructor
  · intro h
    obtain ⟨edits, u, explanation, hv⟩ := Attempt.exists_applied h
    exact ⟨⟨edits, explanation⟩, u, (attempt_eq_applied parses).mp hv⟩
  · rintro ⟨p, u, h⟩
    rw [Attempt.succeeded, (attempt_eq_applied parses).mpr h]

/-- What a preview of an issue tells: whether a fixer has edits for it that can be made, and what
they would change. -/
structure Foretells (e : Engine Tree) (t : Text) (tree : Tree) (i : Issue) (r : Preview) : Prop where
  id : r.issueId = i.id
  canFix : r.canFix = true ↔ ∃ p u, Proposes e t tree i p u
  diff : ∀ p u, Proposes e t tree i p u → r.diff = Diff.unified i.file t u

theorem foretells_failed (error : Text) (none : ∀ p u, ¬ Proposes e t tree i p u) :
    Foretells e t tree i (Preview.failed i.id error) := by
  constructor
  · rfl
  · exact ⟨nofun, fun ⟨p, u, h⟩ => absurd h (none p u)⟩
  · exact fun p u h => absurd h (none p u)

theorem fixer_foretells {f : Fixer Tree} (hf : e.fixerFor? i = some f) :
    Foretells e t tree i (match f.preview t tree i with
      | .ok p => p
      | .error fault => Preview.failed i.id ("Failed to generate preview: " ++ fault.message)) := by
  rw [Fixer.preview.eq_def]
  cases hpropose : f.propose tree i with
  | error fault =>
      refine foretells_failed _ ?_
      rintro p u ⟨f', hf', hpropose', -⟩
      cases hf.symm.trans hf'
      cases hpropose.symm.trans hpropose'
  | ok p =>
      dsimp only
      cases happly : Edit.apply t p.edits with
      | error refusal =>
          refine foretells_failed _ ?_
          rintro q u ⟨f', hf', hpropose', happly'⟩
          cases hf.symm.trans hf'
          cases hpropose.symm.trans hpropose'
          cases happly.symm.trans happly'
      | ok updated =>
          have hproposes : Proposes e t tree i p updated := ⟨f, hf, hpropose, happly⟩
          constructor
          · rfl
          · exact ⟨fun _ => ⟨p, updated, hproposes⟩, fun _ => rfl⟩
          · intro q u h
            rw [(hproposes.unique h).2]

theorem preview_singleton (parses : g.read t = .ok (.ok tree)) :
    ∃ r, preview g e t [i] = .ok [r] ∧ Foretells e t tree i r := by
  have horder : processingOrder [i] = [i] := List.mergeSort_singleton i
  rw [preview, previewBy, parses]
  simp only [bind, Except.bind, pure, Except.pure, horder, List.map_cons, List.map_nil]
  refine ⟨_, rfl, ?_⟩
  cases hf : e.fixerFor? i with
  | none =>
      refine foretells_failed _ ?_
      rintro p u ⟨f, hf', -⟩
      cases hf.symm.trans hf'
  | some f => exact fixer_foretells hf

theorem repair_singleton (parses : g.read t = .ok (.ok tree)) (label : Text) :
    ∃ u, repair g e label t [i] = .ok ⟨u, [(attempt g e t i).entry label]⟩ := by
  have horder : processingOrder [i] = [i] := List.mergeSort_singleton i
  have hrepair := repairInTurns_parsed parses (fun _ => e) label [i]
  rw [attempts_singleton horder] at hrepair
  exact ⟨_, hrepair⟩

/-- A repair of one issue that succeeds does what the preview shows, and the preview promises one
that fails in one case only: a fixer has edits that can be made, and the edited text does not
parse, or parses with more problems. -/
theorem preview_foretells (parses : g.read t = .ok (.ok tree)) (named : i.file ≠ []) :
    ∃ r entry u, preview g e t [i] = .ok [r] ∧
      repair g e i.file t [i] = .ok ⟨u, [entry]⟩ ∧ r.issueId = entry.issueId ∧
      (entry.success = true → r.canFix = true ∧ r.diff = entry.diff.getD []) ∧
      (r.canFix = true ∧ entry.success = false ↔
        ∃ p v, Proposes e t tree i p v ∧ ¬ ReadsOn g tree p.edits v) := by
  obtain ⟨r, hpreview, htells⟩ := preview_singleton (e := e) (i := i) parses
  obtain ⟨u, hrepair⟩ := repair_singleton (e := e) (i := i) parses i.file
  refine ⟨r, _, u, hpreview, hrepair, ?_, ?_, ?_⟩
  · rw [htells.id, entry_issueId, attempt_issue]
  · intro hsuccess
    rw [entry_success] at hsuccess
    obtain ⟨edits, v, explanation, hv⟩ := Attempt.exists_applied hsuccess
    obtain ⟨hproposes, -⟩ := (attempt_eq_applied parses).mp hv
    refine ⟨htells.canFix.mpr ⟨_, v, hproposes⟩, ?_⟩
    have hlabel : diffLabel i.file i = i.file := by
      rw [diffLabel, if_pos]
      rw [Bool.not_eq_true', List.isEmpty_eq_false_iff]
      exact named
    rw [htells.diff _ v hproposes, Attempt.entry, hv]
    dsimp only
    rw [attempt_issue, attempt_before, hlabel]
    split
    · next hsame =>
        rw [hsame]
        exact Diff.unified_self i.file t
    · rfl
  · rw [entry_success, htells.canFix, ← Bool.not_eq_true, attempt_succeeded parses]
    constructor
    · rintro ⟨⟨p, v, hproposes⟩, hfailed⟩
      exact ⟨p, v, hproposes, fun hreads => hfailed ⟨p, v, hproposes, hreads⟩⟩
    · rintro ⟨p, v, hproposes, hbroken⟩
      refine ⟨⟨p, v, hproposes⟩, ?_⟩
      rintro ⟨q, w, hproposes', hreads⟩
      obtain ⟨rfl, rfl⟩ := hproposes.unique hproposes'
      exact hbroken hreads

theorem preview_foretells_sample :
    Sample.marks.read Sample.text = .ok (.ok Sample.text) ∧ (Sample.issue "top" 1).file ≠ [] ∧
      ∃ r entry u, preview Sample.marks Sample.engine Sample.text [Sample.issue "top" 1] =
          .ok [r] ∧
        repair Sample.marks Sample.engine (Sample.issue "top" 1).file Sample.text
          [Sample.issue "top" 1] = .ok ⟨u, [entry]⟩ ∧ r.issueId = entry.issueId := by
  have hread : Sample.marks.read Sample.text = .ok (.ok Sample.text) := rfl
  have hnamed : (Sample.issue "top" 1).file ≠ [] := by decide
  obtain ⟨r, entry, u, hpreview, hrepair, hid, -⟩ :=
    preview_foretells (e := Sample.engine) hread hnamed
  exact ⟨hread, hnamed, r, entry, u, hpreview, hrepair, hid⟩

end One

end Repair

namespace Secret

open Script Repair

/-! A secret that stands right behind the keyword of a case. -/

namespace CaseLabel

def text : Text := "switch(x)\x7bcase\"sk_live_abcd1234\":\x7d"

def repaired : Text := "switch(x)\x7bcaseprocess.env.STRIPE_SECRET_KEY:\x7d"

def edit : Edit := ⟨14, 32, "process.env.STRIPE_SECRET_KEY", by decide⟩

/-- The secret is found, it is the only literal, and what is to take its place. -/
theorem text_facts :
    Script.isPlain text = true ∧
      ((Script.ofText text).found "input.js").map
          (fun i => (i.mark, i.file, Secret.fixer.canFix i)) =
        [(⟨IssueType.hardcodedSecret, 1, some 14⟩, Text.ofString "input.js", true)] ∧
      (literals (Script.ofText text)).map (fun x => (x.2, x.1.node.line)) =
        [(Text.ofString "sk_live_abcd1234", 1)] ∧
      (literals (Script.ofText text)).map (fun x =>
        (replacementFor (Script.ofText text) x.1).toOption.map fun r =>
          ((r.1.start, r.1.stop), r.2.1)) = [some ((edit.start, edit.stop), edit.replacement)] := by
  rw [text, Text.ofString_ofList]
  decide +kernel

/-- The keyword and the read make one name, and a case is no case without its keyword. -/
theorem repaired_refused :
    ((Script.parse repaired).toOption.map fun parsed => parsed.toOption.isSome) = some false := by
  rw [repaired, Text.ofString_ofList]
  decide +kernel

end CaseLabel

/-- A preview can promise a repair that then fails. Behind the keyword of a case the read of the
environment runs into it, and what is left is no script. The repair notices and leaves the text
as it was; the preview shows it all the same. -/
theorem preview_of_broken_repair :
    ∃ (a : Analysis) (i : Issue) (r : Preview) (entry : LedgerEntry) (u : Text),
      scanTextFor none CaseLabel.text "input.js" = .ok a ∧ a.issues = [i] ∧ i.file ≠ [] ∧
      scriptGrammar.read CaseLabel.text = .ok (.ok (Script.ofText CaseLabel.text)) ∧
      preview scriptGrammar scriptEngine CaseLabel.text [i] = .ok [r] ∧
      repair scriptGrammar scriptEngine i.file CaseLabel.text [i] = .ok ⟨u, [entry]⟩ ∧
      r.canFix = true ∧ entry.success = false := by
  obtain ⟨hplain, hfound, hliterals, hreplacement⟩ := CaseLabel.text_facts
  obtain ⟨x, more, hx, hfacts, hmore⟩ := List.map_eq_cons_iff.mp hfound
  rw [List.map_eq_nil_iff.mp hmore] at hx
  obtain ⟨hmark, hfile, hfix⟩ : x.mark = ⟨IssueType.hardcodedSecret, 1, some 14⟩ ∧
      x.file = Text.ofString "input.js" ∧ Secret.fixer.canFix x = true := by
    obtain ⟨hmark, hrest⟩ := Prod.mk.inj hfacts
    exact ⟨hmark, Prod.mk.inj hrest⟩
  obtain ⟨a, id, hscan, hissues⟩ := scan_only hplain hx
  obtain ⟨htype, hline, -⟩ := Issue.Mark.mk.inj hmark
  have hread := read_of_isPlain hplain
  have hfixer : scriptEngine.fixerFor? { x with id } = some Secret.fixer := by
    have htype' : ({ x with id } : Issue).type = IssueType.hardcodedSecret := htype
    rw [fixerFor?_hardcodedSecret htype', if_pos]
    exact hfix
  have hline' : 1 = ({ x with id } : Issue).line := hline.symm
  rw [hline'] at hliterals
  obtain ⟨explanation, hpropose⟩ := propose_of_only hliterals (by decide) hreplacement
  have happly : Edit.apply CaseLabel.text [CaseLabel.edit] = .ok CaseLabel.repaired := by
    rw [CaseLabel.text, CaseLabel.repaired]
    repeat rw [Text.ofString_ofList]
    rw [Edit.apply, Edit.sorted, List.mergeSort_singleton]
    decide +kernel
  have hproposes : Proposes scriptEngine CaseLabel.text (Script.ofText CaseLabel.text)
      { x with id } ⟨[CaseLabel.edit], explanation⟩ CaseLabel.repaired :=
    ⟨Secret.fixer, hfixer, hpropose, happly⟩
  obtain ⟨r, hpreview, htells⟩ := preview_singleton (e := scriptEngine) (i := { x with id }) hread
  obtain ⟨u, hrepair⟩ := repair_singleton (e := scriptEngine) (i := { x with id }) hread x.file
  refine ⟨a, { x with id }, r, _, u, hscan, hissues, ?_, hread, hpreview, hrepair,
    htells.canFix.mpr ⟨_, _, hproposes⟩, ?_⟩
  · have hnamed : x.file ≠ [] := by
      rw [hfile]
      decide
    exact hnamed
  · rw [entry_success, ← Bool.not_eq_true, attempt_succeeded hread]
    rintro ⟨p, v, hproposes', hreads⟩
    obtain ⟨rfl, rfl⟩ := hproposes.unique hproposes'
    rcases hreads with hnil | ⟨tree', hread', -⟩
    · cases hnil
    · have hrefused := CaseLabel.repaired_refused
      rw [scriptGrammar_read.mp hread'] at hrefused
      cases hrefused

end Secret

end Readiness
