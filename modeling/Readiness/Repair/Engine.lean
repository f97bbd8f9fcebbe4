import Readiness.Diff.Unified
import Readiness.Edit.Shift
import Readiness.Edit.Snippet
import Readiness.Issue.Basic
import Readiness.Repair.Ledger

/-!
# The repair engine

Issues of a text are repaired one at a time, from the bottom up. For each issue a fixer proposes
edits on a fresh parse of the text as it stands; they are made only if the edited text parses too,
with no more problems than before. The lines of the issues that are still to come move with the
edits. Nothing that goes wrong with one issue keeps the others from being repaired.

The engine knows neither the language of the text nor the fixers: both are parameters. Fixers may
remember what they were asked before, so a run of repairs takes an engine for each of its turns;
with fixers that only look at what they are given it is the same engine at every turn.
-/

namespace Readiness.Repair

/-- How texts are read: a text has a tree or a reason why it has none, unless its reader breaks
down, and a tree has a number of problems that its parser lived with. -/
structure Grammar (Tree : Type) where
  read : Text → Except Breakdown (Except Text Tree)
  problems : Tree → Nat

/-- Why an issue was not repaired. -/
inductive Fault where
  /-- The fixer gave up, in its own words. -/
  | declined (message : Text)
  /-- The fixer failed in a way of its own; a kind of failure has a name. -/
  | raised (kind message : Text) (named : kind ≠ [])
  /-- The fixer proposed a range that no edit can have. -/
  | badRange (range : Edit.BadRange)
  /-- The proposed edits do not go together. -/
  | refused (refusal : Edit.Refusal)
  /-- The fixer, or the parser on the edited text, broke down. -/
  | breakdown (b : Breakdown)
  /-- The text as it stands does not parse. -/
  | unreadable (reason : Text)
  /-- The edited text does not parse, or has more problems than before. -/
  | broken

/-- The words for a fault. -/
def Fault.message : Fault → Text
  | .declined m => m
  | .raised _ m _ => m
  | .badRange r => r.message
  | .refused r => r.message
  | .breakdown b => b.message
  | .unreadable reason => reason
  | .broken => "fix produced code that does not parse"

/-- The name of the kind of a fault. Bad ranges and breakdowns, which always have words, go by the
common one. -/
def Fault.kind : Fault → Text
  | .raised kind _ _ => kind
  | .unreadable _ => "ParseFailure"
  | _ => "FixApplicationError"

/-- The words for a fault in the ledger, where a fault without words goes by its kind. -/
def Fault.entryText (f : Fault) : Text := if f.message.isEmpty then f.kind else f.message

/-- What a fixer proposes for an issue. -/
structure Proposal where
  edits : List Edit
  explanation : Text

/-- Repairs issues of some kinds. -/
structure Fixer (Tree : Type) where
  id : Text
  /-- The kinds of issues under which the fixer is registered. -/
  types : List Text
  canFix : Issue → Bool
  propose : Tree → Issue → Except Fault Proposal

/-- The fixers by the kind of issue that they are asked to repair. -/
structure Engine (Tree : Type) where
  fixers : List (Text × Fixer Tree)

variable {Tree : Type}

namespace Engine

/-- The engine with a fixer for a kind of issue, in the place of the one it had. -/
def register (e : Engine Tree) (type : Text) (f : Fixer Tree) : Engine Tree :=
  if e.fixers.any (·.1 == type) then
    ⟨e.fixers.map fun r => if r.1 == type then (type, f) else r⟩
  else ⟨e.fixers ++ [(type, f)]⟩

/-- The engine with the given fixers, each under its kinds. -/
def of (fixers : List (Fixer Tree)) : Engine Tree :=
  fixers.foldl (fun e f => f.types.foldl (fun e t => e.register t f) e) ⟨[]⟩

/-- The kinds of issues with a fixer, in alphabetical order. -/
def types (e : Engine Tree) : List Text :=
  (e.fixers.map (·.1)).mergeSort fun a b => decide (a ≤ b)

/-- The fixer for an issue. -/
def fixerFor? (e : Engine Tree) (i : Issue) : Option (Fixer Tree) :=
  match e.fixers.lookup i.type with
  | some f => if f.canFix i then some f else none
  | none => none

end Engine

/-- An engine without fixers cannot be used. -/
structure NoFixers where

/-- The words for an engine without fixers. -/
def NoFixers.message (_ : NoFixers) : Text :=
  "no fixers registered with the transformation engine"

/-- The words in the ledger for an issue that no fixer takes. -/
def noFixer : Text := "No fixer available for this issue type"

/-- The words in the ledger for the issues of a text that does not parse. -/
def unparsed (reason : Text) : Text := "Failed to parse code: " ++ reason

/-- Whether an issue is repaired before another, or may be: the one further down comes first, and on
one line the one further right. -/
def comesFirst (a b : Issue) : Bool :=
  decide (b.line < a.line ∨ b.line = a.line ∧ b.orderColumn ≤ a.orderColumn)

/-- The issues in the order in which they are repaired; issues at one place keep their order. -/
def processingOrder (issues : List Issue) : List Issue := issues.mergeSort comesFirst

/-- The issue with its line moved. One that stays on its line is not made anew. -/
def moved (shifts : List LineShift) (i : Issue) : Except Issue.Fault Issue :=
  let line := LineShift.move shifts i.line
  if line = i.line then .ok i else i.atLine line

/-- The label of a diff for an issue: the one that is given, else the name of the issue's file. -/
def diffLabel (label : Text) (i : Issue) : Text :=
  if !label.isEmpty then label else if !i.file.isEmpty then i.file else "file"

/-- What came of the attempt to repair an issue. -/
inductive Verdict where
  | noFixer
  | failed (fault : Fault)
  | applied (edits : List Edit) (after : Text) (explanation : Text)

/-- An attempt to repair an issue: where the issue was by then, the text as it stood, and what came
of it. -/
structure Attempt where
  issue : Issue
  before : Text
  verdict : Verdict

namespace Attempt

/-- The text after the attempt. -/
def after (a : Attempt) : Text :=
  match a.verdict with
  | .applied _ t _ => t
  | _ => a.before

/-- How the attempt moved lines. -/
def shifts (a : Attempt) : List LineShift :=
  match a.verdict with
  | .applied edits _ _ => LineShift.ofEdits a.before edits
  | _ => []

/-- The entry of the attempt in the ledger. -/
def entry (label : Text) (a : Attempt) : LedgerEntry :=
  match a.verdict with
  | .noFixer => LedgerEntry.failed a.issue.id Repair.noFixer
  | .failed f => LedgerEntry.failed a.issue.id f.entryText
  | .applied _ t explanation =>
    { issueId := a.issue.id
      success := true
      diff := if t = a.before then none else some (Diff.unified (diffLabel label a.issue) a.before t)
      explanation }

end Attempt

/-- The text with the edits made, if it parses with no more problems than the given number. Without
edits the text is not read again. -/
def accept (g : Grammar Tree) (t : Text) (problems : Nat) (edits : List Edit) :
    Except Fault Text :=
  match Edit.apply t edits with
  | .error r => .error (.refused r)
  | .ok updated =>
    if edits.isEmpty then .ok updated
    else
      match g.read updated with
      | .error b => .error (.breakdown b)
      | .ok (.error _) => .error .broken
      | .ok (.ok tree) => if problems < g.problems tree then .error .broken else .ok updated

/-- Asks a fixer to repair an issue of a text. -/
def attemptWith (g : Grammar Tree) (f : Fixer Tree) (t : Text) (i : Issue) :
    Except Fault (Proposal × Text) :=
  match g.read t with
  | .error b => .error (.breakdown b)
  | .ok (.error reason) => .error (.unreadable reason)
  | .ok (.ok tree) =>
    match f.propose tree i with
    | .error fault => .error fault
    | .ok p =>
      match accept g t (g.problems tree) p.edits with
      | .error fault => .error fault
      | .ok updated => .ok (p, updated)

/-- Attempts to repair an issue of a text. -/
def attempt (g : Grammar Tree) (e : Engine Tree) (t : Text) (i : Issue) : Attempt :=
  match e.fixerFor? i with
  | none => ⟨i, t, .noFixer⟩
  | some f =>
    match attemptWith g f t i with
    | .error fault => ⟨i, t, .failed fault⟩
    | .ok (p, updated) => ⟨i, t, .applied p.edits updated p.explanation⟩

/-- A run of repairs between two of its turns: the text as it stands, the issues that are still to
come, each at the line where it is by now, and the attempts that were made, oldest first. -/
structure Run where
  text : Text
  pending : List Issue
  made : List Attempt

namespace Run

/-- The run before its first turn. -/
def start (t : Text) (issues : List Issue) : Run := ⟨t, processingOrder issues, []⟩

/-- One turn: the first issue that is still to come is attempted, and the others move with its
edits. -/
def turn (g : Grammar Tree) (e : Engine Tree) (r : Run) : Except Issue.Fault Run :=
  match r.pending with
  | [] => .ok r
  | i :: more => do
    let a := attempt g e r.text i
    return ⟨a.after, ← more.mapM (moved a.shifts), r.made ++ [a]⟩

/-- The run some turns later, with an engine for each turn. -/
def turns (g : Grammar Tree) (e : Nat → Engine Tree) (r : Run) : Nat → Except Issue.Fault Run
  | 0 => .ok r
  | k + 1 => do (← r.turns g e k).turn g (e k)

end Run

/-- The run over all issues of a text. Each turn takes one issue, so it has as many turns as there
are issues. -/
def run (g : Grammar Tree) (e : Nat → Engine Tree) (t : Text) (issues : List Issue) :
    Except Issue.Fault Run :=
  (Run.start t issues).turns g e issues.length

/-- Repairs the issues of a text, which goes by the label in diffs, with an engine for each turn. A
breakdown on the text as it was given is one of the whole; later ones only fail the attempt that
meets them. -/
def repairInTurns (g : Grammar Tree) (e : Nat → Engine Tree) (label : Text) (t : Text)
    (issues : List Issue) : Except Breakdown Repaired := do
  match ← g.read t with
  | .error reason =>
    return ⟨t, (processingOrder issues).map fun i => LedgerEntry.failed i.id (unparsed reason)⟩
  | .ok _ =>
    let r ← (run g e t issues).mapError fun f => .badIssue f.message
    return ⟨r.text, r.made.map (Attempt.entry label)⟩

/-- Repairs the issues of a text with the same engine at every turn. -/
def repair (g : Grammar Tree) (e : Engine Tree) (label : Text) (t : Text)
    (issues : List Issue) : Except Breakdown Repaired :=
  repairInTurns g (fun _ => e) label t issues

/-- What a fixer would do about an issue of a text with the given tree. -/
def Fixer.preview (f : Fixer Tree) (t : Text) (tree : Tree) (i : Issue) : Except Fault Preview :=
  match f.propose tree i with
  | .error fault => .error fault
  | .ok p =>
    match Edit.apply t p.edits with
    | .error r => .error (.refused r)
    | .ok updated =>
      .ok {
        issueId := i.id
        canFix := true
        before := Text.snippet t i.line Text.previewLines Text.previewLines
        after := Text.snippet updated i.line Text.previewLines Text.previewLines
        diff := Diff.unified i.file t updated
        explanation := p.explanation }

/-- What the repairs of the issues of a text would do, each on the text as it is. How a fixer shows
what it would do about an issue is its own affair: `ask` asks it. -/
def previewBy (ask : Fixer Tree → Text → Tree → Issue → Except Fault Preview) (g : Grammar Tree)
    (e : Engine Tree) (t : Text) (issues : List Issue) : Except Breakdown (List Preview) := do
  match ← g.read t with
  | .error reason =>
    return (processingOrder issues).map fun i => Preview.failed i.id (unparsed reason)
  | .ok tree =>
    return (processingOrder issues).map fun i =>
      match e.fixerFor? i with
      | none => Preview.failed i.id noFixer
      | some f =>
        match ask f t tree i with
        | .ok p => p
        | .error fault => Preview.failed i.id ("Failed to generate preview: " ++ fault.message)

/-- What the repairs would do, by fixers that show the edits they propose. -/
def preview (g : Grammar Tree) (e : Engine Tree) (t : Text) (issues : List Issue) :
    Except Breakdown (List Preview) :=
  previewBy Fixer.preview g e t issues

/-- The engine, if it has a fixer at all. -/
def Engine.ready (e : Engine Tree) : Except NoFixers (Engine Tree) :=
  if e.fixers.isEmpty then .error ⟨⟩ else .ok e

end Readiness.Repair
