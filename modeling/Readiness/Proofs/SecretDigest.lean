import Readiness.Proofs.Findings
import Readiness.Proofs.SecretRead
import Readiness.Proofs.StableSort

/-!
# Which literal gives way for a secret

The issue of a secret notes a digest of its value, so that the literal can be told from others in
a text that has changed. When the repair comes to the issue it takes the literal with that digest
that is nearest to the line of the issue, and looks no further than one line. The
literal of the issue is there as long as nothing was changed (`exists_literal`). Where no
literal with the digest is near, because another repair moved it, the nearest literal is
taken whatever its digest is, so a secret gives way exactly as long as it stayed near
(`attempts_digest`). A repair can thus take out a text that was never reported, leave the
secret where it is, and succeed (`innocent_replaced`).
-/

namespace Readiness

namespace Credential

theorem wordHex_ne_nil (w : UInt32) : Sha256.wordHex w ≠ [] := by
  intro h
  have hlength := congrArg List.length h
  rw [Sha256.wordHex, List.length_append, List.length_replicate, List.length_nil] at hlength
  omega

theorem digest_ne_nil {v d : Text} (h : digest v = .ok d) : d ≠ [] := by
  rw [digest] at h
  split at h
  · cases h
  · cases h
    rw [Text.sha256, Sha256.State.hex, List.flatMap_cons]
    intro hnil
    rcases List.take_eq_nil_iff.mp hnil with hzero | hnil
    · cases hzero
    · exact wordHex_ne_nil _ (List.append_eq_nil_iff.mp hnil).1

end Credential

/-- What a scan lists is what was found, with a number. -/
theorem Issue.exists_found {s : Script} {file : Text} {i : Issue}
    (mem : i ∈ (s.analysis none file).issues) :
    ∃ x ∈ s.found file, i.withoutId = x.withoutId := by
  have hmem : i.withoutId ∈ ((Issue.numbered (Issue.listed (s.found file))).map withoutId) :=
    List.mem_map_of_mem mem
  rw [map_withoutId_numbered] at hmem
  obtain ⟨x, hx, hsame⟩ := List.mem_map.mp hmem
  exact ⟨x, List.mem_mergeSort.mp hx, hsame.symm⟩

/-- The issue of an attempt is one of those that the run started with, but for its line. -/
theorem Repair.exists_scanned {Tree : Type} {g : Grammar Tree} {e : Nat → Engine Tree} {t : Text}
    {issues : List Issue} {a : Attempt} (h : a ∈ course g e t issues) :
    ∃ i ∈ issues, a.issue.type = i.type ∧ a.issue.facts = i.facts := by
  fun_induction course g e t issues with
  | case1 e t => cases h
  | case2 e t i more b ih =>
      rcases List.mem_cons.mp h with rfl | hlater
      · refine ⟨i, List.mem_cons_self, ?_⟩
        rw [attempt_issue]
        exact ⟨rfl, rfl⟩
      · obtain ⟨j, hj, hsame⟩ := ih hlater
        obtain ⟨k, hk, rfl⟩ := List.mem_map.mp hj
        exact ⟨k, List.mem_cons_of_mem i hk, hsame⟩

namespace Secret

open Script Repair

variable {s : Script} {file : Text} {i : Issue} {p : Place}

/-! ## The literal of an issue -/

/-- The literal of an issue of a script: it stands on the issue's line and has the digest that the
issue notes. -/
structure IsLiteralOf (s : Script) (i : Issue) (p : Place) (noted : Text) : Prop where
  isLiteral : ∃ v, (p, v) ∈ literals s ∧ Credential.digest v = .ok noted
  line : i.line = p.node.line
  fact : i.fact? "value_digest" = some (.str noted)

theorem mem_literals_iff {v : Text} :
    (p, v) ∈ literals s ↔ p ∈ s.places ∧ p.node.string? = some v ∧ isValue p = true := by
  refine ⟨mem_literals, fun h => ?_⟩
  obtain ⟨hplace, hstring, hvalue⟩ := h
  refine List.mem_filterMap.mpr ⟨p, hplace, ?_⟩
  rw [hstring]
  exact if_pos hvalue

/-- What the rule for secrets says of a node: the kind of the node and the digest are facts. -/
theorem facts_of_issue {n : Node} {message value kind : Text} {name : Option Text}
    (h : issue file n message value name kind = .ok i) :
    ∃ noted, Credential.digest value = .ok noted ∧ i.line = n.line ∧
      i.fact? "node_kind" = some (.str kind) ∧ i.fact? "value_digest" = some (.str noted) := by
  rw [issue] at h
  obtain ⟨noted, hnoted, h⟩ := exists_of_bind_ok h
  rw [Rule.issue] at h
  obtain ⟨print, -, h⟩ := exists_of_bind_ok h
  cases h
  exact ⟨noted, hnoted, rfl, rfl, rfl⟩

theorem literal_of_issue? (mem : p ∈ s.places) (found : issue? s file p = .ok (some i))
    (fixable : Secret.fixer.canFix i = true) : ∃ noted, IsLiteralOf s i p noted := by
  rw [issue?] at found
  split at found
  · next value hvalue =>
      rw [literalIssue?] at found
      split at found
      · cases found
      · next hisValue =>
          obtain ⟨d, -, found⟩ := exists_of_bind_ok found
          split at found
          · cases found
          · obtain ⟨made, hmade, found⟩ := exists_of_bind_ok found
            cases found
            obtain ⟨noted, hnoted, hline, -, hfact⟩ := facts_of_issue hmade
            rw [Bool.not_eq_true', Bool.not_eq_false] at hisValue
            exact ⟨noted, ⟨value, mem_literals_iff.mpr ⟨mem, hvalue, hisValue⟩, hnoted⟩, hline, hfact⟩
  · split at found
    · rw [templateIssue?] at found
      obtain ⟨d, -, found⟩ := exists_of_bind_ok found
      split at found
      · cases found
      · -- The issue of a template is not for this fixer.
        obtain ⟨made, hmade, found⟩ := exists_of_bind_ok found
        cases found
        obtain ⟨-, -, -, hkind, -⟩ := facts_of_issue hmade
        simp only [Secret.fixer, hkind] at fixable
        cases (Bool.and_eq_true_iff.mp fixable).2
    · cases found

/-- What is found to be a secret is what the detector of secrets finds at a place. -/
theorem exists_issue?_of_found {x : Issue} (mem : x ∈ s.found file)
    (type : x.type = IssueType.hardcodedSecret) :
    ∃ p ∈ s.places, issue? s file p = .ok (some x) := by
  have hother : ∀ {r : Rule} {n : Node}, r.Reports file n x → r.type = IssueType.hardcodedSecret :=
    fun h => (congrArg Issue.Mark.type h.mark).symm.trans type
  rw [Script.found, Script.findings] at mem
  split at mem
  · obtain ⟨d, hd, hx⟩ := List.mem_flatMap.mp mem
    rw [Detector.findings] at hx
    split at hx
    · next found hfound =>
        rcases List.mem_cons.mp (List.mem_filter.mp hd).1 with rfl | hd
        · obtain ⟨p, -, hissue⟩ := exists_of_mem_filterMapM hfound hx
          exact absurd (hother (Query.reports_of_issue? hissue)) (by decide)
        · rcases List.mem_cons.mp hd with rfl | hd
          · obtain ⟨functions, hfunctions, hfound⟩ := exists_of_bind_ok hfound
            obtain ⟨chains, hchains, hfound⟩ := exists_of_bind_ok hfound
            cases hfound
            rcases List.mem_append.mp hx with hx | hx
            · obtain ⟨f, -, hissue⟩ := exists_of_mem_filterMapM hfunctions hx
              exact absurd (hother (Rejection.reports_of_functionIssue? hissue)) (by decide)
            · obtain ⟨p, -, hissue⟩ := exists_of_mem_filterMapM hchains hx
              exact absurd (hother (Rejection.reports_of_chainIssue? hissue)) (by decide)
          · cases List.mem_singleton.mp hd
            exact exists_of_mem_filterMapM hfound hx
    · cases hx
  · cases mem

/-- An issue of a secret that is listed, if it is one for the fixer, has a literal. -/
theorem exists_literal (mem : i ∈ (s.analysis none file).issues)
    (type : i.type = IssueType.hardcodedSecret) (fixable : Secret.fixer.canFix i = true) :
    ∃ p noted, IsLiteralOf s i p noted := by
  obtain ⟨x, hx, hsame⟩ := Issue.exists_found mem
  have htype : i.withoutId.type = x.withoutId.type := congrArg Issue.type hsame
  have hfacts : i.withoutId.facts = x.withoutId.facts := congrArg Issue.facts hsame
  have hline : i.withoutId.line = x.withoutId.line := congrArg Issue.line hsame
  have hfact : ∀ key, i.fact? key = x.fact? key := by
    intro key
    exact congrArg (List.lookup key) hfacts
  have hfixable : Secret.fixer.canFix i = Secret.fixer.canFix x := by
    simp only [Secret.fixer, show i.type = x.type from htype, hfact]
  obtain ⟨p, hp, hissue⟩ := exists_issue?_of_found hx (htype.symm.trans type)
  obtain ⟨noted, h⟩ := literal_of_issue? hp hissue (hfixable ▸ fixable)
  exact ⟨p, noted, h.isLiteral, hline.trans h.line, (hfact _).trans h.fact⟩

/-! ## The literal that is taken -/

/-- Whether a place is at most one line away from the line of an issue. -/
def IsNear (i : Issue) (p : Place) : Prop := p.node.line ≤ i.line + 1 ∧ i.line ≤ p.node.line + 1

/-- The literal that is taken has the noted digest just if some literal that is near has it. -/
theorem locate_digest {noted : Text} (found : locate s i = .ok (some p))
    (fact : i.fact? "value_digest" = some (.str noted)) (nonempty : noted ≠ []) :
    ∃ v d, (p, v) ∈ literals s ∧ Credential.digest v = .ok d ∧
      (d = noted ↔ ∃ q w, (q, w) ∈ literals s ∧ Credential.digest w = .ok noted ∧ IsNear i q) := by
  have hread : ∀ w keep, ((Credential.digest w).mapError Fault.breakdown >>= fun d =>
      pure ((Json.str noted).str? == some d)) = Except.ok keep →
      ∃ d, Credential.digest w = .ok d ∧ (keep = true ↔ d = noted) := by
    intro w keep h
    obtain ⟨d, hd, h⟩ := exists_of_bind_ok h
    cases h
    refine ⟨d, ok_of_mapError hd, ?_⟩
    rw [Json.str?, beq_iff_eq, Option.some.injEq, eq_comm]
  have htrue : Json.isTrue (.str noted) = true := by
    rw [Json.isTrue, Bool.not_eq_true', List.isEmpty_eq_false_iff]
    exact nonempty
  rw [locate, fact, Option.filter_some, if_pos htrue] at found
  obtain ⟨matching, hmatching, found⟩ := exists_of_bind_ok found
  obtain ⟨hall, hmem⟩ := filterM_ok hmatching
  have hmatches : ∀ q w, (q, w) ∈ matching ↔
      (q, w) ∈ literals s ∧ Credential.digest w = .ok noted := by
    intro q w
    rw [hmem]
    refine and_congr_right fun hliteral => ⟨fun h => ?_, fun h => ?_⟩
    · obtain ⟨d, hd, hkeep⟩ := hread w true h
      rw [hd, hkeep.mp rfl]
    · obtain ⟨keep, hkeep⟩ := hall (q, w) hliteral
      obtain ⟨d, hd, hiff⟩ := hread w keep hkeep
      rw [hd] at h
      rwa [hiff.mpr (Except.ok.inj h)] at hkeep
  rcases Option.or_eq_some_iff.mp (Except.ok.inj found) with hnear | ⟨hnone, hnear⟩
  · obtain ⟨v, hv⟩ := nearest?_map_mem hnear
    obtain ⟨hliteral, hd⟩ := (hmatches p v).mp hv
    refine ⟨v, noted, hliteral, hd, fun _ => ⟨p, v, hliteral, hd, nearest?_near hnear⟩, fun _ => rfl⟩
  · obtain ⟨v, hliteral⟩ := nearest?_map_mem hnear
    obtain ⟨keep, hkeep⟩ := hall (p, v) hliteral
    obtain ⟨d, hd, -⟩ := hread v keep hkeep
    -- With the noted digest, a literal that is near would have been the nearest of those with it.
    have hfar : ∀ q w, (q, w) ∈ literals s → Credential.digest w = .ok noted → ¬ IsNear i q := by
      intro q w hq hw hnear
      have hin : q ∈ matching.map (·.1) :=
        List.mem_map.mpr ⟨(q, w), (hmatches q w).mpr ⟨hq, hw⟩, rfl⟩
      have hsome : (nearest? (matching.map (·.1)) i.line i.column).isSome = true :=
        nearest?_isSome.mpr ⟨q, hin, hnear⟩
      rw [show nearest? (matching.map (·.1)) i.line i.column = none from hnone] at hsome
      cases hsome
    refine ⟨v, d, hliteral, hd, fun h => ?_, ?_⟩
    · exact absurd (nearest?_near hnear) (hfar p v hliteral (h ▸ hd))
    · rintro ⟨q, w, hq, hw, hnear⟩
      exact absurd hnear (hfar q w hq hw)

/-- An attempt on a secret that succeeds replaces what the literal that it takes stands for. -/
theorem attempt_located {t u explanation : Text} {edits : List Edit}
    (type : i.type = IssueType.hardcodedSecret)
    (applied : (attempt scriptGrammar scriptEngine t i).verdict = .applied edits u explanation) :
    ∃ s p n source, Script.parse t = .ok (.ok s) ∧ Secret.fixer.canFix i = true ∧
      locate s i = .ok (some p) ∧ Replaces s p n source ∧
      u = t.take n.start ++ (source ++ t.drop n.stop) := by
  obtain ⟨f, s, hf, hread, hpropose, haccept⟩ := attempt_proposal applied
  rw [fixerFor?_hardcodedSecret type] at hf
  split at hf
  · next hfixable =>
      cases hf
      obtain ⟨p, n, source, edit, hlocated, hreplaces, hedits, hstart, hstop, hsource⟩ :=
        propose_located hpropose
      cases hedits
      obtain ⟨-, hu⟩ := Edit.apply_singleton (accept_ok haccept).1
      rw [hstart, hstop, hsource] at hu
      exact ⟨s, p, n, source, scriptGrammar_read.mp hread, hfixable, hlocated, hreplaces, hu⟩
  · cases hf

/-- What the repairs of secrets take out, in a run over the issues of a text. Each of them that
succeeds replaces a literal. The literal has the digest that the issue notes, the one of the
literal that was reported, just if a literal with that digest is within a line of where the issue
is by then. So it has as long as nothing was changed. -/
theorem attempts_digest {t : Text} {a : Attempt} (parses : Script.parse t = .ok (.ok s))
    (mem : a ∈ attempts scriptGrammar (fun _ => scriptEngine) t (s.analysis none file).issues)
    (type : a.issue.type = IssueType.hardcodedSecret) (succeeded : a.succeeded = true) :
    ∃ noted s' p v d n source,
      (∃ i ∈ (s.analysis none file).issues, a.issue.facts = i.facts ∧
        ∃ q, IsLiteralOf s i q noted) ∧
      Script.parse a.before = .ok (.ok s') ∧ (p, v) ∈ literals s' ∧
      Credential.digest v = .ok d ∧ Replaces s' p n source ∧
      a.after = a.before.take n.start ++ (source ++ a.before.drop n.stop) ∧
      (d = noted ↔ ∃ q w, (q, w) ∈ literals s' ∧ Credential.digest w = .ok noted ∧
        IsNear a.issue q) ∧
      (a.before = t → a.issue ∈ (s.analysis none file).issues → d = noted) := by
  obtain ⟨-, hattempt⟩ := eq_attempt_of_mem_course mem
  obtain ⟨edits, u, explanation, hverdict⟩ := Attempt.exists_applied succeeded
  have hafter := Attempt.after_of_applied hverdict
  rw [hattempt] at hverdict
  obtain ⟨s', p, n, source, hparse, hfixable, hlocated, hreplaces, hu⟩ :=
    attempt_located type hverdict
  obtain ⟨i, hi, htype, hfacts⟩ := exists_scanned mem
  have hscanned : i ∈ (s.analysis none file).issues := List.mem_mergeSort.mp hi
  have hfact : ∀ key, a.issue.fact? key = i.fact? key := by
    intro key
    rw [Issue.fact?, Issue.fact?, hfacts]
  have hfixable' : Secret.fixer.canFix i = true := by
    rw [← hfixable]
    simp only [Secret.fixer, htype, hfact]
  obtain ⟨q, noted, hliteral⟩ := exists_literal hscanned (htype ▸ type) hfixable'
  obtain ⟨w, -, hw⟩ := hliteral.isLiteral
  have hnoted := (hfact _).trans hliteral.fact
  obtain ⟨v, d, hp, hd, hiff⟩ := locate_digest hlocated hnoted (Credential.digest_ne_nil hw)
  refine ⟨noted, s', p, v, d, n, source, ⟨i, hscanned, hfacts, q, hliteral⟩, hparse, hp, hd,
    hreplaces, hafter.trans hu, hiff, fun hbefore hsame => hiff.mpr ?_⟩
  rw [hbefore, parses] at hparse
  cases hparse
  obtain ⟨q, noted', hliteral⟩ := exists_literal hsame type hfixable
  obtain ⟨w, hq, hw⟩ := hliteral.isLiteral
  obtain rfl : noted = noted' := by
    have hjson := Option.some.inj (hnoted.symm.trans hliteral.fact)
    cases hjson
    rfl
  have hline := hliteral.line
  exact ⟨q, w, hq, hw, by omega, by omega⟩

/-- The only issue of `Glued.text` is repaired first, so what gives way is what was reported. -/
theorem attempts_digest_sample :
    ∃ s a noted p v n source, Script.parse Glued.text = .ok (.ok s) ∧
      a ∈ attempts scriptGrammar (fun _ => scriptEngine) Glued.text
        (s.analysis none "input.js").issues ∧
      a.issue.type = IssueType.hardcodedSecret ∧ a.succeeded = true ∧
      (∃ i ∈ (s.analysis none "input.js").issues, ∃ q, IsLiteralOf s i q noted) ∧
      (p, v) ∈ literals s ∧ Credential.digest v = .ok noted ∧ Replaces s p n source ∧
      a.after = Glued.text.take n.start ++ (source ++ Glued.text.drop n.stop) := by
  obtain ⟨analysis, i, hscan, hissues, horder, htype, hline, hfixable⟩ := Glued.text_issues
  obtain ⟨explanation, hattempt⟩ := Glued.attempt_text htype hline hfixable
  have hparse := Script.parse_of_isPlain Glued.text_facts.1
  rw [scanTextFor_of_parse hparse] at hscan
  cases hscan
  have hmem : attempt scriptGrammar scriptEngine Glued.text i ∈
      attempts scriptGrammar (fun _ => scriptEngine) Glued.text
        ((Script.ofText Glued.text).analysis none "input.js").issues := by
    rw [attempts_singleton horder]
    exact List.mem_singleton_self _
  have hsucceeded : (attempt scriptGrammar scriptEngine Glued.text i).succeeded = true := by
    rw [hattempt]
    rfl
  have hissue := attempt_issue scriptGrammar scriptEngine Glued.text i
  have hbefore := attempt_before scriptGrammar scriptEngine Glued.text i
  have hsecret : (attempt scriptGrammar scriptEngine Glued.text i).issue.type =
      IssueType.hardcodedSecret := by
    rw [hissue]
    exact htype
  obtain ⟨noted, s', p, v, d, n, source, ⟨j, hj, -, hliteral⟩, hparse', hp, hd, hreplaces, hafter,
    -, hsame⟩ := attempts_digest hparse hmem hsecret hsucceeded
  have hin : (attempt scriptGrammar scriptEngine Glued.text i).issue ∈
      ((Script.ofText Glued.text).analysis none "input.js").issues := by
    rw [hissue, hissues]
    exact List.mem_singleton_self i
  obtain rfl := hsame hbefore hin
  rw [hbefore, hparse] at hparse'
  obtain rfl := Except.ok.inj (Except.ok.inj hparse')
  rw [hbefore] at hafter
  exact ⟨_, _, d, p, v, n, source, hparse, hmem, hsecret, hsucceeded, ⟨j, hj, hliteral⟩, hp,
    hd, hreplaces, hafter⟩

/-! A secret in an expression that the repair of a query moves two lines down. -/

namespace Swapped

def text : Text := "var q=\"\"+f(\"ghp_abcd\");\n\nrun(q)"

def moved : Text := "var q=\"?\";\n\nrun(q, [f(\"ghp_abcd\")])"

def repaired : Text := "var q=process.env.Q;\n\nrun(q, [f(\"ghp_abcd\")])"

def secret : Text := "ghp_abcd"

def noted : Text := "55f15e17816d9268"

def queryMark : Issue.Mark := ⟨IssueType.sqlInjection, 3, some 0⟩

def secretMark : Issue.Mark := ⟨IssueType.hardcodedSecret, 1, some 11⟩

def proposed : Proposal where
  edits := [⟨6, 22, "\"?\"", by decide⟩, Edit.insert 30 ", [f(\"ghp_abcd\")]"]
  explanation := "Converted string concatenation to parameterized query to prevent SQL injection"

def edit : Edit := ⟨6, 9, "process.env.Q", by decide⟩

/-- What is kept of an issue: its mark, the digest that it notes, and whether it can be repaired as a
secret. -/
def summary (i : Issue) : Issue.Mark × Option Text × Bool :=
  (i.mark, (i.fact? "value_digest").bind Json.str?, Secret.fixer.canFix i)

def shifts : List LineShift := LineShift.ofEdits text proposed.edits

/-- Both issues are found, and how the query is to be repaired. The repair does not move the line of
the secret. -/
theorem text_facts :
    Script.isPlain text = true ∧
      ((Script.ofText text).found "input.js").map summary =
        [(queryMark, none, false), (secretMark, some noted, true)] ∧
      (Query.fixer.propose (Script.ofText text)
        (Issue.someAt queryMark.line queryMark.column)).toOption = some proposed ∧
      Edit.apply text proposed.edits = .ok moved ∧ LineShift.move shifts 1 = 1 := by
  have happly : Edit.apply text proposed.edits = .ok moved := by
    rw [text, moved]
    repeat rw [Text.ofString_ofList]
    rw [Edit.apply, proposed, Edit.sorted, StableSort.mergeSort_pair]
    decide +kernel
  have hline : LineShift.move shifts 1 = 1 := by
    rw [shifts, text, Text.ofString_ofList]
    decide +kernel
  rw [and_iff_left hline, and_iff_left happly]
  rw [text, Text.ofString_ofList]
  decide +kernel

/-- With the query repaired, the literal that is near the line of the secret is the new text of the
query, and what is to be read instead of it. Both literals have digests, and that of the query is not
the one of the secret. -/
theorem moved_facts :
    Script.isPlain moved = true ∧
      (literals (Script.ofText moved)).map (fun x => (x.2, x.1.node.line)) =
        [(Text.ofString "?", 1), (secret, 3)] ∧
      (literals (Script.ofText moved)).map (fun x =>
        (replacementFor (Script.ofText moved) x.1).toOption.map fun r =>
          ((r.1.start, r.1.stop), r.2.1)) =
            [some ((edit.start, edit.stop), edit.replacement),
              some ((22, 32), "process.env.API_SECRET")] ∧
      (Credential.digest "?").toOption ≠ some noted ∧
      (∀ x ∈ ([(Text.ofString "?", 1), (secret, 3)] : List (Text × Nat)),
        (Credential.digest x.1).toOption.isSome = true) ∧
      Edit.apply moved [edit] = .ok repaired := by
  rw [Edit.apply, Edit.sorted, List.mergeSort_singleton]
  unfold moved repaired
  repeat rw [Text.ofString_ofList]
  decide +kernel

/-- The secret is still in the repaired text. -/
theorem repaired_facts :
    Script.isPlain repaired = true ∧
      ∃ p ∈ (Script.ofText repaired).places,
        p.node.string? = some secret ∧ isValue p = true := by
  rw [repaired, Text.ofString_ofList]
  decide +kernel

theorem repaired_literal : ∃ x ∈ literals (Script.ofText repaired), x.2 = secret := by
  obtain ⟨-, p, hp, hstring, hvalue⟩ := repaired_facts
  exact ⟨(p, secret), mem_literals_iff.mpr ⟨hp, hstring, hvalue⟩, rfl⟩

/-- The call further down is repaired first, and the issue of the secret notes its digest. -/
theorem text_issues : ∃ a j i, scanTextFor none text "input.js" = .ok a ∧
    processingOrder a.issues = [j, i] ∧ j.mark = queryMark ∧ i.mark = secretMark ∧
    i.fact? "value_digest" = some (.str noted) ∧ Secret.fixer.canFix i = true := by
  obtain ⟨hplain, hfound, -⟩ := text_facts
  have hmarks : ((Script.ofText text).found "input.js").map Issue.mark =
      [queryMark, secretMark] := by
    have h := congrArg (List.map Prod.fst) hfound
    rwa [List.map_map] at h
  have hsorted : ([queryMark, secretMark].mergeSort Issue.Mark.listedFirst).mergeSort
      Issue.Mark.comesFirst = [queryMark, secretMark] := by
    rw [StableSort.mergeSort_pair, if_neg (by decide), StableSort.mergeSort_pair,
      if_neg (by decide)]
  obtain ⟨a, j, i, hscan, horder, hj, hi⟩ := scan_pair hplain hmarks hsorted
  refine ⟨a, j, i, hscan, horder, hj, hi, ?_⟩
  have hscanned := scanTextFor_of_parse (Script.parse_of_isPlain hplain) none "input.js"
  obtain rfl := Except.ok.inj (hscan.symm.trans hscanned)
  have hmem : i ∈ processingOrder ((Script.ofText text).analysis none "input.js").issues := by
    rw [horder]
    exact List.mem_cons_of_mem j List.mem_cons_self
  obtain ⟨x, hx, hsame⟩ := Issue.exists_found (List.mem_mergeSort.mp hmem)
  have hsummary : summary i.withoutId = summary x.withoutId := congrArg summary hsame
  have hlisted : summary x ∈ [(queryMark, none, false), (secretMark, some noted, true)] :=
    hfound ▸ List.mem_map_of_mem hx
  rw [show summary x = summary i from hsummary.symm] at hlisted
  rcases List.mem_cons.mp hlisted with hquery | hsecret
  · have hmark : secretMark = queryMark := hi.symm.trans (congrArg Prod.fst hquery)
    exact absurd hmark (by decide)
  · obtain ⟨-, hfacts⟩ := Prod.mk.inj (List.mem_singleton.mp hsecret)
    obtain ⟨hdigest, hfixable⟩ := Prod.mk.inj hfacts
    obtain ⟨json, hjson, hstr⟩ := Option.bind_eq_some_iff.mp hdigest
    refine ⟨?_, hfixable⟩
    cases json with
    | str t =>
        rw [hjson]
        exact congrArg (fun t => some (Json.str t)) (Option.some.inj hstr)
    | _ => cases hstr

theorem carried_secret {i : Issue} (line : i.line = 1) : (carried shifts i).line = 1 := by
  refine line_carried ?_
  rw [line]
  exact text_facts.2.2.2.2

theorem attempt_query {j : Issue} (h : j.mark = queryMark) :
    attempt scriptGrammar scriptEngine text j =
      ⟨j, text, .applied proposed.edits moved proposed.explanation⟩ := by
  obtain ⟨hplain, -, hpropose, happly, -⟩ := text_facts
  exact attempt_of_proposal (fixerFor?_sqlInjection (congrArg Issue.Mark.type h))
    (read_of_isPlain hplain) (Query.propose_of_mark hpropose h) (accept_of_isPlain happly moved_facts.1)

theorem attempt_secret {i : Issue} (type : i.type = IssueType.hardcodedSecret) (line : i.line = 1)
    (fixable : Secret.fixer.canFix i = true) :
    ∃ explanation, attempt scriptGrammar scriptEngine moved i =
      ⟨i, moved, .applied [edit] repaired explanation⟩ := by
  obtain ⟨hplain, hliterals, hreplacement, -, hdigested, happly⟩ := moved_facts
  rw [← line] at hliterals
  have hfar : ∀ x ∈ [(secret, 3)], i.line + 1 < x.2 := by
    rw [line]
    decide
  have hdigests : ∀ x ∈ (Text.ofString "?", i.line) :: [(secret, 3)],
      (Credential.digest x.1).toOption.isSome = true := by
    rw [line]
    exact hdigested
  obtain ⟨explanation, hpropose⟩ := propose_of_near hliterals hfar hdigests hreplacement
  have hfixer : scriptEngine.fixerFor? i = some Secret.fixer := by
    rw [fixerFor?_hardcodedSecret type, if_pos fixable]
  exact ⟨explanation, attempt_of_proposal hfixer (read_of_isPlain hplain) hpropose
    (accept_of_isPlain happly repaired_facts.1)⟩

/-- No literal that is near the line of the secret has its digest. -/
theorem noted_far {i : Issue} (line : i.line = 1) {q : Place} {w : Text}
    (mem : (q, w) ∈ literals (Script.ofText moved)) (digest : Credential.digest w = .ok noted) :
    ¬ IsNear i q := by
  intro hnear
  obtain ⟨-, hliterals, -, hother, -⟩ := moved_facts
  have hpair : (w, q.node.line) ∈
      (literals (Script.ofText moved)).map (fun x => (x.2, x.1.node.line)) :=
    List.mem_map.mpr ⟨(q, w), mem, rfl⟩
  rw [hliterals] at hpair
  rcases List.mem_cons.mp hpair with hquery | hsecret
  · refine hother ?_
    rw [← (Prod.mk.inj hquery).1, digest]
    rfl
  · have hline := (Prod.mk.inj (List.mem_singleton.mp hsecret)).2
    rw [IsNear, line, hline] at hnear
    omega

end Swapped

/-- The repair of a secret can take out another text. The secret of this text is in the first operand
of a query, and the repair of the query moves it two lines down. The literal that is near by
then is the new text of the query, and it gives way. Its digest is not the one that was noted,
the secret stays where it is, and the attempt is a success. -/
theorem innocent_replaced :
    ∃ s a s' p v d n source, Script.parse Swapped.text = .ok (.ok s) ∧
      a ∈ attempts scriptGrammar (fun _ => scriptEngine) Swapped.text
        (s.analysis none "input.js").issues ∧
      a.issue.type = IssueType.hardcodedSecret ∧ a.succeeded = true ∧
      a.issue.fact? "value_digest" = some (.str Swapped.noted) ∧
      Script.parse a.before = .ok (.ok s') ∧ (p, v) ∈ literals s' ∧ Replaces s' p n source ∧
      a.after = a.before.take n.start ++ (source ++ a.before.drop n.stop) ∧
      Credential.digest v = .ok d ∧ d ≠ Swapped.noted ∧
      ∃ s'', Script.parse a.after = .ok (.ok s'') ∧ ∃ x ∈ literals s'', x.2 = Swapped.secret := by
  obtain ⟨analysis, j, i, hscan, horder, hj, hi, hfact, hfixable⟩ := Swapped.text_issues
  obtain ⟨htype, hline, -⟩ := Issue.Mark.mk.inj hi
  have hparse := Script.parse_of_isPlain Swapped.text_facts.1
  obtain rfl := Except.ok.inj (hscan.symm.trans (scanTextFor_of_parse hparse none "input.js"))
  -- The issue of the secret when its turn comes.
  obtain ⟨i', hi'⟩ : ∃ i', i' = carried Swapped.shifts i := ⟨_, rfl⟩
  have htype' : i'.type = IssueType.hardcodedSecret := hi' ▸ htype
  have hline' : i'.line = 1 := hi' ▸ Swapped.carried_secret hline
  have hfact' : i'.fact? "value_digest" = some (.str Swapped.noted) := hi' ▸ hfact
  have hfixable' : Secret.fixer.canFix i' = true := hi' ▸ hfixable
  obtain ⟨explanation, hattempt⟩ := Swapped.attempt_secret htype' hline' hfixable'
  have hattempts : attempts scriptGrammar (fun _ => scriptEngine) Swapped.text
      ((Script.ofText Swapped.text).analysis none "input.js").issues =
        [attempt scriptGrammar scriptEngine Swapped.text j,
          attempt scriptGrammar scriptEngine Swapped.moved i'] := by
    have hpair := attempts_pair (g := scriptGrammar) (e := fun _ => scriptEngine)
      (t := Swapped.text) horder
    rw [hi']
    rw [Swapped.attempt_query hj] at hpair ⊢
    exact hpair
  obtain ⟨s', p, n, source, hparse', -, hlocated, hreplaces, hafter⟩ :=
    attempt_located htype' (congrArg Attempt.verdict hattempt)
  have hnoted : Swapped.noted ≠ [] := by decide
  obtain ⟨v, d, hp, hd, hiff⟩ := locate_digest hlocated hfact' hnoted
  have hplain := Swapped.moved_facts.1
  rw [Script.parse_of_isPlain hplain] at hparse'
  obtain rfl := Except.ok.inj (Except.ok.inj hparse')
  have hplain' := Swapped.repaired_facts.1
  refine ⟨_, attempt scriptGrammar scriptEngine Swapped.moved i',
    Script.ofText Swapped.moved, p, v, d, n, source, hparse, ?_, ?_, ?_, ?_, ?_, hp, hreplaces, ?_,
    hd, fun hsame => ?_, Script.ofText Swapped.repaired, ?_, Swapped.repaired_literal⟩
  · rw [hattempts]
    exact List.mem_cons_of_mem _ List.mem_cons_self
  · rw [hattempt]
    exact htype'
  · rw [hattempt]
    rfl
  · rw [hattempt]
    exact hfact'
  · rw [hattempt]
    exact Script.parse_of_isPlain hplain
  · rw [hattempt]
    exact hafter
  · obtain ⟨q, w, hq, hw, hnear⟩ := hiff.mp hsame
    exact Swapped.noted_far hline' hq hw hnear
  · rw [hattempt]
    exact Script.parse_of_isPlain hplain'

end Secret

end Readiness
