import Readiness.Proofs.EditShift
import Readiness.Repair.Engine

/-!
# A run of repairs, without its ways to fail

A turn can fail in one way only: an issue that is still to come is made anew on
the line where the edits move it, and making an issue checks its line and its
type. Neither check can fail. The type is as it was, and `one_le_move` keeps
the line on the text, because an attempt only ever moves lines by edits that
were accepted.

With that, a run is the list of its attempts. `course` is that list, by plain
recursion on the issues that are still to come, and `turns_course` says that
the turns of a run make it; what is proved about runs is proved about courses.
-/

namespace Readiness

namespace Repair

variable {Tree : Type}

/-! ## Issues that move -/

/-- The issue where its line has moved to. -/
def carried (shifts : List LineShift) (i : Issue) : Issue :=
  { i with location := { i.location with line := (LineShift.move shifts i.line).toNat } }

/-- The issues where their lines have moved to. -/
def allCarried (shifts : List LineShift) (issues : List Issue) : List Issue :=
  issues.map (carried shifts)

theorem allCarried_nil (issues : List Issue) : allCarried [] issues = issues := by
  have hid : carried [] = id := by
    funext i
    rw [carried, LineShift.move_nil]
    rfl
  rw [allCarried, hid, List.map_id]

theorem moved_eq_carried {shifts : List LineShift} {i : Issue}
    (h : 0 ≤ LineShift.move shifts i.line) : moved shifts i = .ok (carried shifts i) := by
  have htype : Issue.typeOf (.str i.type) = .ok ⟨i.type, i.known⟩ := dif_pos i.known
  rw [moved]
  split
  · next hsame =>
      have hline : (LineShift.move shifts i.line).toNat = i.line := by omega
      rw [carried, hline]
      rfl
  · rw [Issue.atLine, Location.ofLine, if_neg (by omega), htype]
    rfl

theorem mapM_moved {shifts : List LineShift} (issues : List Issue)
    (h : ∀ line : Nat, 0 ≤ LineShift.move shifts line) :
    issues.mapM (moved shifts) = .ok (allCarried shifts issues) := by
  induction issues with
  | nil => rfl
  | cons i more ih =>
      have hi := moved_eq_carried (h i.line)
      rw [List.mapM_cons, hi, ih]
      rfl

/-! ## Attempts -/

theorem accept_ok {g : Grammar Tree} {t u : Text} {problems : Nat} {edits : List Edit}
    (h : accept g t problems edits = .ok u) :
    Edit.apply t edits = .ok u ∧
      (u = t ∨ ∃ tree, g.read u = .ok (.ok tree) ∧ g.problems tree ≤ problems) := by
  rw [accept] at h
  split at h
  · cases h
  · next updated hu =>
      split at h
      · next hempty =>
          rw [List.isEmpty_iff.mp hempty, Edit.apply_nil] at hu
          cases hu
          cases h
          rw [List.isEmpty_iff.mp hempty]
          exact ⟨Edit.apply_nil _, .inl rfl⟩
      · split at h
        · cases h
        · cases h
        · next tree hread =>
            split at h
            · cases h
            · next hfew =>
                cases h
                exact ⟨hu, .inr ⟨tree, hread, by omega⟩⟩

theorem attemptWith_ok {g : Grammar Tree} {f : Fixer Tree} {t u : Text} {i : Issue}
    {p : Proposal} (h : attemptWith g f t i = .ok (p, u)) :
    ∃ tree, g.read t = .ok (.ok tree) ∧ accept g t (g.problems tree) p.edits = .ok u := by
  rw [attemptWith] at h
  split at h
  · cases h
  · cases h
  · next tree hread =>
      split at h
      · cases h
      · split at h
        · cases h
        · next hok =>
            cases h
            exact ⟨tree, hread, hok⟩

theorem attempt_issue (g : Grammar Tree) (e : Engine Tree) (t : Text) (i : Issue) :
    (attempt g e t i).issue = i := by
  rw [attempt]
  split
  · rfl
  · split <;> rfl

theorem attempt_before (g : Grammar Tree) (e : Engine Tree) (t : Text) (i : Issue) :
    (attempt g e t i).before = t := by
  rw [attempt]
  split
  · rfl
  · split <;> rfl

/-- An attempt that succeeds was made on a text that parses, with edits that were
accepted there. -/
theorem attempt_applied {g : Grammar Tree} {e : Engine Tree} {t u : Text} {i : Issue}
    {edits : List Edit} {explanation : Text}
    (h : (attempt g e t i).verdict = .applied edits u explanation) :
    ∃ tree, g.read t = .ok (.ok tree) ∧ accept g t (g.problems tree) edits = .ok u := by
  rw [attempt] at h
  split at h
  · cases h
  · split at h
    · cases h
    · next hok =>
        cases h
        exact attemptWith_ok hok

namespace Attempt

/-- Whether the attempt changed the text, or would have if there had been anything
to change. -/
def succeeded (a : Attempt) : Bool :=
  match a.verdict with
  | .applied .. => true
  | _ => false

theorem exists_applied {a : Attempt} (h : a.succeeded = true) :
    ∃ edits u explanation, a.verdict = .applied edits u explanation := by
  rw [succeeded] at h
  cases hv : a.verdict with
  | applied edits u explanation => exact ⟨edits, u, explanation, rfl⟩
  | noFixer | failed _ => rw [hv] at h; cases h

theorem after_of_applied {a : Attempt} {edits : List Edit} {u explanation : Text}
    (h : a.verdict = .applied edits u explanation) : a.after = u := by
  rw [after, h]

theorem shifts_of_applied {a : Attempt} {edits : List Edit} {u explanation : Text}
    (h : a.verdict = .applied edits u explanation) :
    a.shifts = LineShift.ofEdits a.before edits := by
  rw [shifts, h]

theorem after_of_failed {a : Attempt} (h : a.succeeded = false) : a.after = a.before := by
  rw [succeeded] at h
  rw [after]
  cases hv : a.verdict with
  | applied _ _ _ => rw [hv] at h; cases h
  | noFixer | failed _ => rfl

theorem shifts_of_failed {a : Attempt} (h : a.succeeded = false) : a.shifts = [] := by
  rw [succeeded] at h
  rw [shifts]
  cases hv : a.verdict with
  | applied _ _ _ => rw [hv] at h; cases h
  | noFixer | failed _ => rfl

end Attempt

theorem attempt_shifts_nonneg (g : Grammar Tree) (e : Engine Tree) (t : Text) (i : Issue)
    (line : Nat) : 0 ≤ LineShift.move (attempt g e t i).shifts line := by
  cases hs : (attempt g e t i).succeeded with
  | false =>
      rw [Attempt.shifts_of_failed hs, LineShift.move_nil]
      omega
  | true =>
      obtain ⟨edits, u, explanation, hv⟩ := Attempt.exists_applied hs
      obtain ⟨tree, -, haccept⟩ := attempt_applied hv
      rw [Attempt.shifts_of_applied hv, attempt_before]
      rcases Nat.eq_zero_or_pos line with rfl | hpos
      · exact Int.le_of_eq (LineShift.move_zero _).symm
      · have hmove : 1 ≤ LineShift.move (LineShift.ofEdits t edits) line :=
          LineShift.one_le_move (accept_ok haccept).1 (by omega)
        omega

/-! ## Turns -/

theorem turn_cons (g : Grammar Tree) (e : Engine Tree) (t : Text) (i : Issue)
    (more : List Issue) (made : List Attempt) :
    Run.turn g e ⟨t, i :: more, made⟩ =
      .ok ⟨(attempt g e t i).after, allCarried (attempt g e t i).shifts more,
        made ++ [attempt g e t i]⟩ := by
  have hmoved := mapM_moved more (attempt_shifts_nonneg g e t i)
  rw [Run.turn]
  simp only [hmoved]
  rfl

theorem turn_total (g : Grammar Tree) (e : Engine Tree) (r : Run) :
    ∃ r', r.turn g e = .ok r' := by
  obtain ⟨t, pending, made⟩ := r
  cases pending with
  | nil => exact ⟨_, rfl⟩
  | cons i more => exact ⟨_, turn_cons g e t i more made⟩

theorem turns_total (g : Grammar Tree) (e : Nat → Engine Tree) (r : Run) (k : Nat) :
    ∃ r', r.turns g e k = .ok r' := by
  induction k with
  | zero => exact ⟨r, rfl⟩
  | succ k ih =>
      obtain ⟨between, hk⟩ := ih
      obtain ⟨r', hturn⟩ := turn_total g (e k) between
      rw [Run.turns, hk]
      exact ⟨r', hturn⟩

/-- What each turn keeps, a run keeps. -/
theorem turns_invariant {g : Grammar Tree} {e : Nat → Engine Tree} {P : Run → Prop}
    (hturn : ∀ (k : Nat) (r r' : Run), P r → r.turn g (e k) = .ok r' → P r') {r : Run}
    (h : P r) : ∀ {k : Nat} {r' : Run}, r.turns g e k = .ok r' → P r' := by
  intro k
  induction k with
  | zero =>
      intro r' hturns
      cases hturns
      exact h
  | succ k ih =>
      intro r' hturns
      rw [Run.turns] at hturns
      cases hk : r.turns g e k with
      | error f => rw [hk] at hturns; cases hturns
      | ok between =>
          rw [hk] at hturns
          exact hturn k between r' (ih hk) hturns

/-- The first of several turns, taken apart from the others. -/
theorem turns_succ (g : Grammar Tree) (e : Nat → Engine Tree) (r : Run) (k : Nat) :
    r.turns g e (k + 1) = (r.turn g (e 0)).bind fun r => r.turns g (fun j => e (j + 1)) k := by
  induction k with
  | zero =>
      rw [Run.turns, Run.turns]
      cases h : Run.turn g (e 0) r with
      | error f => exact h
      | ok r' => exact h
  | succ k ih =>
      rw [Run.turns, ih]
      cases Run.turn g (e 0) r with
      | error f => rfl
      | ok r' => rfl

/-- The attempts of a run over the given issues, with an engine for each of them. -/
def course (g : Grammar Tree) (e : Nat → Engine Tree) (t : Text) : List Issue → List Attempt
  | [] => []
  | i :: more =>
    let a := attempt g (e 0) t i
    a :: course g (fun k => e (k + 1)) a.after (allCarried a.shifts more)
termination_by issues => issues.length
decreasing_by rw [allCarried, List.length_map]; exact Nat.lt_succ_self _

/-- The text after the last of some attempts. -/
def lastText (t : Text) : List Attempt → Text
  | [] => t
  | a :: more => lastText a.after more

/-- The turns of a run make its course, whatever the fixers do: each turn takes one
issue, and none of them fails. -/
theorem turns_course (g : Grammar Tree) (e : Nat → Engine Tree) (t : Text)
    (issues : List Issue) (made : List Attempt) :
    Run.turns g e ⟨t, issues, made⟩ issues.length =
      .ok ⟨lastText t (course g e t issues), [], made ++ course g e t issues⟩ := by
  fun_induction course g e t issues generalizing made with
  | case1 e t =>
      rw [List.append_nil]
      rfl
  | case2 e t i more a ih =>
      have hrest := ih (made ++ [a])
      rw [allCarried, List.length_map, List.append_assoc, List.singleton_append] at hrest
      rw [List.length_cons, turns_succ, turn_cons g (e 0) t i more made]
      exact hrest

/-- The attempt left another text. -/
def Attempt.altered (a : Attempt) : Bool := a.after != a.before

/-- Each attempt was made on the text that the one before it left, the first on the given one. -/
def Leads : Text → List Attempt → Prop
  | _, [] => True
  | t, a :: more => a.before = t ∧ Leads a.after more

theorem leads_course (g : Grammar Tree) (e : Nat → Engine Tree) (t : Text) (issues : List Issue) :
    Leads t (course g e t issues) := by
  fun_induction course g e t issues with
  | case1 => trivial
  | case2 e t i more a ih => exact ⟨attempt_before g (e 0) t i, ih⟩

theorem lastText_of_still {t : Text} {made : List Attempt} (h : Leads t made)
    (still : ∀ a ∈ made, a.altered = false) : lastText t made = t := by
  induction made generalizing t with
  | nil => rfl
  | cons a more ih =>
      obtain ⟨hstill, hmore⟩ := List.forall_mem_cons.mp still
      rw [lastText, ih h.2 hmore, ← h.1]
      exact bne_eq_false_iff_eq.mp hstill

/-- The attempts of the run over the issues of a text. -/
def attempts (g : Grammar Tree) (e : Nat → Engine Tree) (t : Text) (issues : List Issue) :
    List Attempt :=
  course g e t (processingOrder issues)

theorem run_ok (g : Grammar Tree) (e : Nat → Engine Tree) (t : Text) (issues : List Issue) :
    run g e t issues = .ok ⟨lastText t (attempts g e t issues), [], attempts g e t issues⟩ := by
  have h := turns_course g e t (processingOrder issues) []
  have hlength : (processingOrder issues).length = issues.length := List.length_mergeSort _
  rw [hlength, List.nil_append] at h
  exact h

/-! ## What a repair returns -/

theorem repairInTurns_parsed {g : Grammar Tree} {t : Text} {tree : Tree}
    (parses : g.read t = .ok (.ok tree)) (e : Nat → Engine Tree) (label : Text)
    (issues : List Issue) :
    repairInTurns g e label t issues =
      .ok ⟨lastText t (attempts g e t issues),
        (attempts g e t issues).map (Attempt.entry label)⟩ := by
  rw [repairInTurns, parses]
  simp only [run_ok g e t issues]
  rfl

theorem repairInTurns_unparsed {g : Grammar Tree} {t reason : Text}
    (fails : g.read t = .ok (.error reason)) (e : Nat → Engine Tree) (label : Text)
    (issues : List Issue) :
    repairInTurns g e label t issues =
      .ok ⟨t, (processingOrder issues).map fun i =>
        LedgerEntry.failed i.id (unparsed reason)⟩ := by
  rw [repairInTurns, fails]
  rfl

theorem repairInTurns_breakdown {g : Grammar Tree} {t : Text} {b : Breakdown}
    (breaks : g.read t = .error b) (e : Nat → Engine Tree) (label : Text)
    (issues : List Issue) : repairInTurns g e label t issues = .error b := by
  rw [repairInTurns, breaks]
  rfl

/-! ## A repair to look at

In this language a text parses unless an exclamation mark stands in it, and
every question mark is a problem. The fixer takes out the first line for an issue
that stands there, and ruins the text for any other. -/

namespace Sample

def marks : Grammar Text where
  read t := .ok (if t.contains '!' then .error "unexpected mark" else .ok t)
  problems t := t.countP fun c : CodePoint => c == '?'

theorem known : IssueType.isKnown IssueType.sqlInjection = true := by decide

def issue (id : Text) (line : Nat) : Issue where
  id := id
  type := IssueType.sqlInjection
  severity := .high
  category := .security
  location := ⟨"a.js", line, none⟩
  message := ""
  impact := ""
  education := ""
  fix := none
  facts := []
  fingerprint := ""
  known := known

def propose (_ : Text) (i : Issue) : Except Fault Proposal :=
  if i.line = 1 then .ok ⟨[⟨0, 2, "", by decide⟩], "first line taken out"⟩
  else .ok ⟨[⟨0, 0, "!", by decide⟩], "mark put in"⟩

def engine : Engine Text :=
  Engine.of [⟨"sample", [IssueType.sqlInjection], fun _ => true, propose⟩]

/-- An engine whose fixer raises at its first turn. -/
def moody : Nat → Engine Text
  | 0 => Engine.of [⟨"moody", [IssueType.sqlInjection], fun _ => true,
      fun _ _ => .error (.raised "KeyError" "" (by decide))⟩]
  | _ + 1 => engine

def text : Text := "?\na\nb"

def issues : List Issue := [issue "top" 1, issue "middle" 2, issue "bottom" 3]

end Sample

/-- A repair returns, whatever fixers propose or raise at its
turns: nothing ends it but a parser that breaks down on the text as it was given.
The relocation of the issues that are still to come, which nothing guards, cannot
fail after edits that were accepted: a line of the text stays one, and line zero
stays where it is. -/
theorem repairInTurns_returns (g : Grammar Tree) (e : Nat → Engine Tree) (label t : Text)
    (issues : List Issue) :
    (∀ parsed, g.read t = .ok parsed → ∃ r, repairInTurns g e label t issues = .ok r) ∧
    (∀ b, g.read t = .error b → repairInTurns g e label t issues = .error b) ∧
    ∀ (u v : Text) (edits : List Edit), Edit.apply u edits = .ok v →
      (∀ line : Int, 1 ≤ line → 1 ≤ LineShift.move (LineShift.ofEdits u edits) line) ∧
      LineShift.move (LineShift.ofEdits u edits) 0 = 0 ∧
      ∀ i : Issue, ∃ j, moved (LineShift.ofEdits u edits) i = .ok j := by
  refine ⟨?_, fun b hb => repairInTurns_breakdown hb e label issues, ?_⟩
  · intro parsed hparsed
    cases parsed with
    | error reason => exact ⟨_, repairInTurns_unparsed hparsed e label issues⟩
    | ok tree => exact ⟨_, repairInTurns_parsed hparsed e label issues⟩
  · intro u v edits hv
    have hpos : ∀ line : Int, 1 ≤ line → 1 ≤ LineShift.move (LineShift.ofEdits u edits) line :=
      fun line hline => LineShift.one_le_move hv hline
    have hzero := LineShift.move_zero (LineShift.ofEdits u edits)
    refine ⟨hpos, hzero, ?_⟩
    intro i
    refine ⟨_, moved_eq_carried ?_⟩
    rcases Nat.eq_zero_or_pos i.line with h0 | hi
    · rw [h0]
      exact Int.le_of_eq hzero.symm
    · have := hpos i.line (by omega)
      omega

theorem repairInTurns_returns_sample :
    (∃ r, repairInTurns Sample.marks Sample.moody "" Sample.text Sample.issues = .ok r) ∧
      1 ≤ LineShift.move (LineShift.ofEdits Sample.text [⟨0, 2, "", by decide⟩]) 2 := by
  have h := repairInTurns_returns Sample.marks Sample.moody "" Sample.text Sample.issues
  have happly : Edit.apply Sample.text [⟨0, 2, "", by decide⟩] = .ok "a\nb" := by
    rw [Edit.apply, Edit.sorted, List.mergeSort_singleton]
    rfl
  exact ⟨h.1 _ rfl, (h.2.2 _ _ _ happly).1 2 (by decide)⟩

end Repair

end Readiness
