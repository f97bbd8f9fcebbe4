import Readiness.Proofs.ChainRepair
import Readiness.Proofs.ProjectAccount

/-!
# What is reported as changed

A repair says of a text that it changed if a fixer had its way with some issue, and it lists a file
with its text if the file was gone through to the end. Neither says that the text is
another one: a fixer can be content with what it finds, and two fixers can undo what each other
did.

What the texts have to do with the first is in `Repaired.Reports`. A text that is another one
is reported, and what is reported is another text where just one entry shows a diff. As to
the second, `mem_files_iff` says which files are listed, each as the disk was when its turn came.
-/

namespace Readiness

namespace Repair

variable {Tree : Type}

/-- The one attempt that leaves another text is not undone. -/
theorem lastText_ne_of_one {t : Text} {made : List Attempt} (h : Leads t made)
    (one : made.countP Attempt.altered = 1) : lastText t made ≠ t := by
  induction made generalizing t with
  | nil => cases one
  | cons a more ih =>
      obtain ⟨hbefore, hmore⟩ := h
      rw [List.countP_cons] at one
      rw [lastText]
      cases ha : a.altered with
      | true =>
          rw [ha, if_pos rfl] at one
          have hnone : ∀ b ∈ more, b.altered = false := by
            intro b hb
            exact Bool.eq_false_iff.mpr (List.countP_eq_zero.mp (Nat.succ.inj one) b hb)
          rw [lastText_of_still hmore hnone, ← hbefore]
          exact bne_iff_ne.mp ha
      | false =>
          rw [ha, if_neg Bool.false_ne_true, Nat.add_zero] at one
          rw [← hbefore, ← bne_eq_false_iff_eq.mp ha]
          exact ih hmore one

/-- An entry shows a diff just if its attempt left another text. -/
theorem entry_diff_isSome (label : Text) (a : Attempt) :
    (a.entry label).diff.isSome = a.altered := by
  have htells := entry_tells label a
  rw [Attempt.altered]
  cases hs : (a.entry label).success with
  | false =>
      obtain ⟨hsame, -, hdiff, -⟩ := htells.failed hs
      rw [hdiff, hsame, bne_self_eq_false]
      rfl
  | true =>
      obtain ⟨-, hdiff, -⟩ := htells.applied hs
      by_cases hsame : a.after = a.before
      · rw [hdiff.mpr hsame, hsame, bne_self_eq_false]
        rfl
      · rw [bne_iff_ne.mpr hsame]
        exact Option.isSome_iff_ne_none.mpr fun hnone => hsame (hdiff.mp hnone)

/-- A fixer that has a diff to show had its way. -/
theorem entry_success_of_altered (label : Text) {a : Attempt} (h : a.altered = true) :
    (a.entry label).success = true := by
  by_contra hs
  obtain ⟨hsame, -⟩ := (entry_tells label a).failed (Bool.not_eq_true _ ▸ hs)
  exact bne_iff_ne.mp h hsame

end Repair

/-! ## The report on a text -/

/-- What a report on the repair of a text has to do with the text. -/
structure Repaired.Reports (r : Repaired) (t : Text) : Prop where
  /-- It tells of a change if some issue was repaired. -/
  repaired : r.changed = true ↔ ∃ entry ∈ r.ledger, entry.success = true
  /-- Another text is told of, and some entry shows how it came about. -/
  told : r.text ≠ t → r.changed = true ∧ ∃ entry ∈ r.ledger, entry.diff.isSome = true
  /-- A single diff is not undone. -/
  single : r.ledger.countP (·.diff.isSome) = 1 → r.text ≠ t

namespace Repair

variable {Tree : Type}

theorem reports_attempts (label : Text) {t : Text} {made : List Attempt} (h : Leads t made) :
    Repaired.Reports ⟨lastText t made, made.map (Attempt.entry label)⟩ t := by
  constructor
  case repaired => exact List.any_eq_true
  case told =>
    intro hne
    obtain ⟨a, ha, haltered⟩ : ∃ a ∈ made, a.altered = true := by
      by_contra hnone
      refine hne (lastText_of_still h fun a ha => ?_)
      exact Bool.eq_false_iff.mpr fun haltered => hnone ⟨a, ha, haltered⟩
    have hentry : a.entry label ∈ made.map (Attempt.entry label) := List.mem_map_of_mem ha
    exact ⟨List.any_eq_true.mpr ⟨_, hentry, entry_success_of_altered label haltered⟩, _, hentry,
      (entry_diff_isSome label a).trans haltered⟩
  case single =>
    intro hone
    rw [List.countP_map] at hone
    refine lastText_ne_of_one h ?_
    rw [← hone]
    exact List.countP_congr fun a _ => by rw [Function.comp_apply, entry_diff_isSome]

theorem reports_unparsed (t words : Text) (issues : List Issue) :
    Repaired.Reports ⟨t, issues.map fun i => LedgerEntry.failed i.id words⟩ t := by
  constructor
  case repaired => exact List.any_eq_true
  case told => exact fun hne => absurd rfl hne
  case single =>
    intro hone
    have hnone : (issues.map fun i => LedgerEntry.failed i.id words).countP (·.diff.isSome) = 0 := by
      rw [List.countP_map]
      exact List.countP_eq_zero.mpr fun i _ => Bool.false_ne_true
    rw [hnone] at hone
    cases hone

theorem reports_repairInTurns {g : Grammar Tree} {t : Text} {parsed : Except Text Tree}
    (answers : g.read t = .ok parsed) (e : Nat → Engine Tree) (label : Text) (issues : List Issue) :
    ∃ r, repairInTurns g e label t issues = .ok r ∧ r.Reports t := by
  cases parsed with
  | error reason =>
      exact ⟨_, repairInTurns_unparsed answers e label issues, reports_unparsed _ _ _⟩
  | ok tree =>
      exact ⟨_, repairInTurns_parsed answers e label issues,
        reports_attempts label (leads_course g e t (processingOrder issues))⟩

end Repair

/-! ## The files that are listed -/

namespace Project

open Repair

/-- What a file comes to in a repair: its issues are repaired in the text that is read, and where
the new text is another one and is to be written, it is written. -/
def ComesTo (w : Workspace) (root : Path) (scope : RepairScope) (e : Nat → Engine Script)
    (file : Text) (issues : List Issue) (u : Text) : Prop :=
  ∃ t r, w.read (root ++ Path.ofText file) = .ok t ∧
    Repair.repairInTurns scriptGrammar e file t issues = .ok r ∧ r.text = u ∧
    (scope.write = true → u ≠ t →
      ∃ w', save w (root ++ Path.ofText file) u scope.backups = .ok (w', none))

/-- The files, each with the workspace at its turn. -/
def visits (w : Workspace) (root : Path) (scope : RepairScope) (e : Text → Nat → Engine Script)
    (issues : List Issue) : List Text → List (Text × Workspace)
  | [] => []
  | file :: more =>
    let r := repairFileInTurns w root scope (e file) file (issues.filter (·.file == file))
    (file, w) :: visits r.workspace root scope e issues more

section Listed

variable {w : Workspace} {root : Path} {scope : RepairScope}

theorem comesTo_of_read {e : Nat → Engine Script} {file t u : Text} {issues : List Issue}
    {r : Repaired} (read : w.read (root ++ Path.ofText file) = .ok t)
    (repaired : Repair.repairInTurns scriptGrammar e file t issues = .ok r) :
    ComesTo w root scope e file issues u ↔ r.text = u ∧ (scope.write = true → u ≠ t →
      ∃ w', save w (root ++ Path.ofText file) u scope.backups = .ok (w', none)) := by
  constructor
  · rintro ⟨t', r', hread, hrepaired, h⟩
    cases read.symm.trans hread
    cases repaired.symm.trans hrepaired
    exact h
  · exact fun h => ⟨t, r, read, repaired, h⟩

/-- Where the repair of a file returns, it has a text just if the file comes to it. -/
theorem comesTo_iff {e : Nat → Engine Script} {file u : Text} {issues : List Issue}
    {entries : List LedgerEntry} {text : Option Text}
    (outcome : (repairFileInTurns w root scope e file issues).outcome = .ok (entries, text)) :
    text = some u ↔ ComesTo w root scope e file issues u := by
  cases hread : w.read (root ++ Path.ofText file) with
  | error f =>
      rw [(repairFileInTurns_unread hread).1] at outcome
      cases outcome
      constructor
      · exact nofun
      · rintro ⟨t, r, hread', -⟩
        cases hread.symm.trans hread'
  | ok t =>
      cases hrepaired : Repair.repairInTurns scriptGrammar e file t issues with
      | error b =>
          simp only [repairFileInTurns, hread, hrepaired] at outcome
          cases outcome
      | ok r =>
          rw [comesTo_of_read hread hrepaired]
          cases hwrites : scope.write && r.text != t with
          | false =>
              rw [(repairFileInTurns_settled hread hrepaired hwrites).1] at outcome
              cases outcome
              rw [Option.some.injEq]
              refine (and_iff_left_of_imp ?_).symm
              rintro rfl hwrite hne
              rw [hwrite, bne_iff_ne.mpr hne] at hwrites
              cases hwrites
          | true =>
              cases hsave : save w (root ++ Path.ofText file) r.text scope.backups with
              | error f =>
                  simp only [repairFileInTurns, hread, hrepaired, hwrites, hsave, if_true] at outcome
                  cases outcome
                  rw [Bool.and_eq_true, bne_iff_ne] at hwrites
                  constructor
                  · exact nofun
                  · rintro ⟨rfl, hsaved⟩
                    obtain ⟨w', hsave'⟩ := hsaved hwrites.1 hwrites.2
                    cases hsave.symm.trans hsave'
              | ok saved =>
                  obtain ⟨w', broken⟩ := saved
                  cases broken with
                  | some b =>
                      simp only [repairFileInTurns, hread, hrepaired, hwrites, hsave, if_true]
                        at outcome
                      cases outcome
                  | none =>
                      rw [(repairFileInTurns_saved hread hrepaired hwrites hsave).1] at outcome
                      cases outcome
                      rw [Option.some.injEq]
                      refine (and_iff_left_of_imp ?_).symm
                      rintro rfl - -
                      exact ⟨w', hsave⟩

variable {e : Text → Nat → Engine Script} {issues : List Issue}

/-- A repair that goes through all files lists those that come to a text at their turns. -/
theorem mem_files_iff {files : List Text} {f u : Text} : ∀ {w : Workspace} {l : ProjectLedger},
    (repairFilesInTurns w root scope e issues files).ledger = .ok l →
    ((f, u) ∈ l.files ↔ ∃ w', (f, w') ∈ visits w root scope e issues files ∧
      ComesTo w' root scope (e f) f (issues.filter (·.file == f)) u) := by
  induction files with
  | nil =>
      intro w l hledger
      cases hledger
      constructor
      · exact nofun
      · rintro ⟨w', hw', -⟩
        exact absurd hw' List.not_mem_nil
  | cons file more ih =>
      intro w l hledger
      rw [repairFilesInTurns] at hledger
      cases houtcome : (repairFileInTurns w root scope (e file) file
          (issues.filter (·.file == file))).outcome with
      | error b =>
          simp only [houtcome] at hledger
          cases hledger
      | ok result =>
          obtain ⟨entries, text⟩ := result
          simp only [houtcome] at hledger
          cases hrest : (repairFilesInTurns (repairFileInTurns w root scope (e file) file
              (issues.filter (·.file == file))).workspace root scope e issues more).ledger with
          | error fault =>
              rw [hrest] at hledger
              cases hledger
          | ok l' =>
              rw [hrest] at hledger
              cases hledger
              have hfirst : (f, u) ∈ (text.map ((file, ·))).toList ↔ f = file ∧ text = some u := by
                rw [Option.mem_toList, Option.map_eq_some_iff]
                constructor
                · rintro ⟨v, hv, heq⟩
                  cases heq
                  exact ⟨rfl, hv⟩
                · rintro ⟨rfl, hu⟩
                  exact ⟨u, hu, rfl⟩
              rw [List.mem_append, hfirst, ih hrest, comesTo_iff houtcome, visits]
              constructor
              · rintro (⟨rfl, hcomes⟩ | ⟨w', hw', hcomes⟩)
                · exact ⟨w, List.mem_cons_self, hcomes⟩
                · exact ⟨w', List.mem_cons_of_mem _ hw', hcomes⟩
              · rintro ⟨w', hw', hcomes⟩
                rcases List.mem_cons.mp hw' with heq | hw'
                · cases heq
                  exact .inl ⟨rfl, hcomes⟩
                · exact .inr ⟨w', hw', hcomes⟩

theorem map_fst_visits (w : Workspace) (files : List Text) :
    (visits w root scope e issues files).map (·.1) = files := by
  induction files generalizing w with
  | nil => rfl
  | cons file more ih => exact congrArg (file :: ·) (ih _)

end Listed

/-- What repairs report as changed. Of a text a change is told if some issue was repaired, which is
so if the text is another one; that it is another one is sure if just one entry shows a diff. A
project lists each file that comes to a text, whether that is another text or not, as long as
it could be written if it had to be. -/
theorem reported_changes :
    (∀ {Tree : Type} (g : Grammar Tree) (e : Nat → Engine Tree) (label t : Text)
      (issues : List Issue) (parsed : Except Text Tree), g.read t = .ok parsed →
      ∃ r, Repair.repairInTurns g e label t issues = .ok r ∧ r.Reports t) ∧
    ∀ (w : Workspace) (root : Path) (scope : RepairScope) (e : Text → Nat → Engine Script)
      (a : Analysis) (l : ProjectLedger), (repairInTurns w root scope e a).ledger = .ok l →
      ∀ issues, issues = Issue.wanted scope.types a.issues →
      (visits w root scope e issues (filesOf issues)).map (·.1) = filesOf issues ∧
      ∀ f u, (f, u) ∈ l.files ↔ ∃ w', (f, w') ∈ visits w root scope e issues (filesOf issues) ∧
        ComesTo w' root scope (e f) f (issues.filter (·.file == f)) u := by
  constructor
  · intro Tree g e label t issues parsed answers
    exact reports_repairInTurns answers e label issues
  · rintro w root scope e a l hledger issues rfl
    exact ⟨map_fst_visits w _, fun f u => mem_files_iff hledger⟩

/-- The report on a text that a line is put in front of, and the one file of a project with it. -/
theorem reported_changes_sample :
    (∃ r, Repair.repairInTurns scriptGrammar (fun _ => Headed.engine) Headed.file Headed.text
      [Headed.issue] = .ok r ∧ r.Reports Headed.text ∧ r.text = Headed.headed ∧ r.changed = true ∧
        ∃ entry ∈ r.ledger, entry.diff.isSome = true) ∧
    ∃ w', (Headed.file, w') ∈ visits Headed.workspace Headed.root {} (fun _ _ => Headed.engine)
        [Headed.issue] (filesOf [Headed.issue]) ∧
      ComesTo w' Headed.root {} (fun _ => Headed.engine) Headed.file
        ([Headed.issue].filter (·.file == Headed.file)) Headed.headed := by
  constructor
  · obtain ⟨r, hr, hreports⟩ := reported_changes.1 scriptGrammar (fun _ => Headed.engine)
      Headed.file Headed.text [Headed.issue] _ (read_of_isPlain Headed.plain_text)
    obtain ⟨r', hr', htext⟩ := Headed.repaired
    cases hr.symm.trans hr'
    have hne : r.text ≠ Headed.text := by
      rw [htext]
      decide
    exact ⟨r, hr, hreports, htext, hreports.told hne⟩
  · obtain ⟨l, d, hledger, -, -, hacc⟩ := accounts_files rfl (nodup_filesOf _) Headed.able
    have hlisted : (Headed.file, Headed.headed) ∈ l.files :=
      Headed.files_of_accounts hacc ▸ List.mem_singleton_self _
    exact ((reported_changes.2 _ _ _ _ Headed.analysis l hledger _ rfl).2 Headed.file
      Headed.headed).mp hlisted

/-! A file with a chain that has a handler, and an issue that says it has none. -/

namespace Handled

def text : Text := "p.then(f).catch(g)"

def issue : Issue :=
  { Repair.Sample.issue "top" 1 with
    type := IssueType.unhandledPromise
    known := Rejection.chainRule.known }

def analysis : Analysis := { score := 90, issues := [issue], files := [Headed.file], context := {} }

def workspace : Workspace :=
  ⟨⟨[(["p"], .folder), (Headed.place, .file (Text.utf8 text))]⟩, []⟩

theorem text_facts : Script.isPlain text = true ∧
    (Script.nearest? ((Script.ofText text).places.filter fun p => p.node.isMethodCall "then") 1
      none).map Rejection.handlesRejections = some true := by
  rw [text, Text.ofString_ofList]
  decide +kernel

/-- The repair looks at the chain and finds nothing to do. -/
theorem repaired : ∃ r, Repair.repairInTurns scriptGrammar (fun _ => scriptEngine) Headed.file text
    [issue] = .ok r ∧ r.text = text ∧ r.changed = true := by
  obtain ⟨hplain, hnearest⟩ := text_facts
  obtain ⟨q, hq, hhandles⟩ := Option.map_eq_some_iff.mp hnearest
  obtain ⟨explanation, hverdict⟩ := (Rejection.attempt_silent text issue).mpr
    ⟨rfl, _, q, Script.parse_of_isPlain hplain, hq, hhandles⟩
  have hattempts : attempts scriptGrammar (fun _ => scriptEngine) text [issue] =
      [attempt scriptGrammar scriptEngine text issue] := attempts_singleton (List.mergeSort_singleton _)
  have hrepaired := repairInTurns_parsed (read_of_isPlain hplain) (fun _ => scriptEngine) Headed.file
    [issue]
  rw [hattempts, List.map_singleton, Attempt.entry, hverdict, lastText, lastText,
    Attempt.after_of_applied hverdict] at hrepaired
  exact ⟨_, hrepaired, rfl, rfl⟩

theorem reads : workspace.read (Headed.root ++ Path.ofText Headed.file) = .ok text :=
  ok_of_toOption (by decide +kernel)

theorem ledger : ∃ l,
    (repairInTurns workspace Headed.root {} (fun _ _ => scriptEngine) analysis).ledger = .ok l ∧
      l.files = [(Headed.file, text)] := by
  obtain ⟨r, hrepaired, htext, -⟩ := repaired
  have hsettled : (({} : RepairScope).write && r.text != text) = false := by
    rw [htext, bne_self_eq_false, Bool.and_false]
  obtain ⟨houtcome, -⟩ := repairFileInTurns_settled (w := workspace) reads hrepaired hsettled
  have hfiles : filesOf [issue] = [Headed.file] := List.mergeSort_singleton _
  have hown : [issue].filter (·.file == Headed.file) = [issue] := rfl
  have hwanted : Issue.wanted ({} : RepairScope).types analysis.issues = [issue] := rfl
  refine ⟨⟨r.ledger ++ [], [(Headed.file, r.text)]⟩, ?_, by rw [htext]⟩
  rw [repairInTurns, hwanted, hfiles, repairFilesInTurns]
  simp only [hown, houtcome]
  rfl

end Handled

/-- A change is told of a text that stays as it is, and its file is listed. -/
theorem unchanged_reported :
    (∃ r, Repair.repairInTurns scriptGrammar (fun _ => scriptEngine) Headed.file Handled.text
      [Handled.issue] = .ok r ∧ r.text = Handled.text ∧ r.changed = true) ∧
    ∃ l, (repairInTurns Handled.workspace Headed.root {} (fun _ _ => scriptEngine)
      Handled.analysis).ledger = .ok l ∧ l.files = [(Headed.file, Handled.text)] ∧
      Handled.workspace.read (Headed.root ++ Path.ofText Headed.file) = .ok Handled.text := by
  obtain ⟨l, hledger, hfiles⟩ := Handled.ledger
  exact ⟨Handled.repaired, l, hledger, hfiles, Handled.reads⟩

end Project

end Readiness
