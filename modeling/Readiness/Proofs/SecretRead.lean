import Readiness.Proofs.EditFrame
import Readiness.Proofs.ScriptRepair

/-!
# What takes the place of a secret

A secret is repaired with a single edit: the range of a literal, or of the choice that
the literal is the fallback of, gives way to a read of the environment. The name that
is read is made up from what the program calls things, and the first part of this file
shows that a variable's name comes of it whatever the program says, capitals, digits
and underscores (`environmentVariable_isVariable`). So the read is made of two words
and the points between them.

A literal is bounded by its quotes, and what stands next to it needs no blank to be
kept apart from it. A read is bounded by nothing. The second part is about the reader of
names, which takes all characters that can stand in one (`identifierName_of_append`):
a word right before the range is read on into `process`, and the variable's name is read
on into a word right behind it (`RunsInto`). The engine reads the new text once more,
but all that it asks is that this works and finds no more problems than before.
-/

namespace Readiness

namespace Secret

open Script Repair

/-! ## Names of variables -/

/-- Whether a text is the name of an environment variable: capitals, digits and underscores, and
a capital first. -/
def isVariable (name : Text) : Bool :=
  (name.head?.map Credential.isCapital).getD false && name.all isVariableChar

theorem variableName_isVariable (name : Text) : isVariable (variableName name) = true := by
  have hchar : ∀ c : CodePoint, isVariableChar (if isVariableChar c then c else '_') = true := by
    intro c
    split
    · next h => exact h
    · decide
  rw [variableName]
  generalize Text.upper (separated name) = upper
  have hall : (upper.map fun c => if isVariableChar c then c else '_').all isVariableChar = true := by
    rw [List.all_eq_true]
    intro c hc
    obtain ⟨d, -, rfl⟩ := List.mem_map.mp hc
    exact hchar d
  have hprefix : ("SECRET_" : Text).all isVariableChar = true := by decide
  cases hmap : upper.map fun c => if isVariableChar c then c else '_' with
  | nil => decide
  | cons c more =>
      rw [hmap] at hall
      simp only
      split
      · next hcapital =>
          rw [isVariable, hall, List.head?_cons, Option.map_some, Option.getD_some, hcapital]
          rfl
      · rw [isVariable, List.all_append, hprefix, hall]
        rfl

/-- The names that do not depend on what the program calls things. -/
def fixedNames : List Text :=
  ["STRIPE_SECRET_KEY", "AWS_SECRET_ACCESS_KEY", "AWS_ACCESS_KEY_ID", "JWT_SECRET", "DATABASE_URL",
    "DATABASE_PASSWORD", "API_SECRET"]

theorem isVariable_of_mem_fixedNames {name : Text} (h : name ∈ fixedNames) :
    isVariable name = true := by
  have hall : ∀ v ∈ fixedNames, isVariable v = true := by decide
  exact hall name h

theorem providerName_mem {label : Text} {index : Option Nat} {key : Option Text} {name : Text}
    (h : providerName? label index key = some name) : name ∈ fixedNames := by
  unfold providerName? at h
  repeat' split at h
  all_goals cases h <;> decide

theorem argumentVariable_mem {p : Place} {value name : Text} {holder : Node}
    (h : argumentVariable? p value holder = some name) : name ∈ fixedNames := by
  rw [argumentVariable?] at h
  split at h
  · next hprovider =>
      cases h
      exact providerName_mem hprovider
  · repeat' split at h
    all_goals cases h <;> decide

theorem propertyVariable_mem {holder : Place} {key : Option Text} {name : Text}
    (h : propertyVariable? holder key = .ok (some name)) : name ∈ fixedNames := by
  rw [propertyVariable?] at h
  split at h
  · cases h
  · split at h
    · next object _ found hprovider =>
        cases h
        obtain ⟨call, -, hname⟩ := Option.bind_eq_some_iff.mp hprovider
        exact providerName_mem hname
    · split at h
      · cases h
      · obtain ⟨database, -, h⟩ := exists_of_bind_ok h
        split at h
        · cases h
          decide
        · cases h

theorem surroundingVariable_mem {p : Place} {value name : Text} {d : Destination}
    (h : surroundingVariable? p value d = .ok (some name)) : name ∈ fixedNames := by
  rw [surroundingVariable?] at h
  split at h
  · exact argumentVariable_mem (Except.ok.inj h)
  · exact propertyVariable_mem h
  · cases h

theorem byValue_mem (value : Text) : environmentVariable.byValue value ∈ fixedNames := by
  unfold environmentVariable.byValue
  repeat' split
  all_goals decide

/-- Whatever a program calls things, the name is one. -/
theorem environmentVariable_isVariable {p : Place} {value name : Text}
    (h : environmentVariable p value = .ok name) : isVariable name = true := by
  rw [environmentVariable] at h
  obtain ⟨d, -, h⟩ := exists_of_bind_ok h
  obtain ⟨surrounding, hsurrounding, h⟩ := exists_of_bind_ok h
  split at h
  · cases h
    exact isVariable_of_mem_fixedNames (surroundingVariable_mem hsurrounding)
  · split at h
    all_goals cases h
    · decide
    · exact isVariable_of_mem_fixedNames (byValue_mem value)
  · split at h
    all_goals cases h
    · exact variableName_isVariable _
    · exact isVariable_of_mem_fixedNames (byValue_mem value)

end Secret

namespace Script

/-! ## Where names end -/

/-- A text of characters that stand in identifiers, none of them escaped. -/
def IsWord (w : Text) : Prop := ∀ x ∈ w, isIdentifierPart x = true ∧ x ≠ '\\'

/-- No name goes on at the start of the text. -/
def EndsName (t : Text) : Prop := ∀ x, t.head? = some x → isIdentifierPart x = false

theorem IsWord.append {v w : Text} (hv : IsWord v) (hw : IsWord w) : IsWord (v ++ w) := by
  intro x hx
  rcases List.mem_append.mp hx with hx | hx
  · exact hv x hx
  · exact hw x hx

/-- A word is read as a name up to the first character that is no part of one. -/
theorem identifierName_of_append {c : Cursor} {w rest : Text} (read : c.rest = w ++ rest)
    (word : IsWord w) (stop : EndsName rest) : identifierName c = .ok (w, c.move rest w.length) := by
  have hword : ∀ x ∈ w, isIdentifierPart x = true := fun x hx => (word x hx).1
  have htake : rest.takeWhile isIdentifierPart = [] := by
    cases rest with
    | nil => rfl
    | cons x more => exact List.takeWhile_cons_of_neg (by rw [stop x rfl]; decide)
  have hdrop : rest.dropWhile isIdentifierPart = rest := by
    cases rest with
    | nil => rfl
    | cons x more => exact List.dropWhile_cons_of_neg (by rw [stop x rfl]; decide)
  have hspan : c.rest.span isIdentifierPart = (w, rest) := by
    rw [List.span_eq_takeWhile_dropWhile, read, List.takeWhile_append_of_pos hword,
      List.dropWhile_append_of_pos hword, htake, hdrop, List.append_nil]
  have hplain : w.contains '\\' = false := by
    rw [← Bool.not_eq_true, List.contains_iff_mem]
    exact fun hmem => (word _ hmem).2 rfl
  rw [identifierName, hspan]
  simp only [hplain, Bool.not_false, if_true]

end Script

namespace Secret

open Script Repair

theorem isIdentifierPart_of_isVariableChar {c : CodePoint} (h : isVariableChar c = true) :
    isIdentifierPart c = true ∧ c ≠ '\\' := by
  have hsmall : c.toNat < 128 := by
    simp only [isVariableChar, Credential.isCapital, Credential.isDigit, Bool.or_eq_true,
      Bool.and_eq_true, decide_eq_true_eq, beq_iff_eq] at h
    rcases h with (⟨-, hle⟩ | ⟨-, hle⟩) | rfl
    · exact Nat.lt_of_le_of_lt hle (by decide)
    · exact Nat.lt_of_le_of_lt hle (by decide)
    · decide
  have hall : ∀ n < 128, isVariableChar (CodePoint.ofNat n) = true →
      isIdentifierPart (CodePoint.ofNat n) = true ∧ CodePoint.ofNat n ≠ '\\' := by
    decide
  rw [← CodePoint.ofNat_toNat c] at h ⊢
  exact hall _ hsmall h

theorem isWord_of_isVariable {name : Text} (h : isVariable name = true) : IsWord name := by
  rw [isVariable, Bool.and_eq_true] at h
  exact fun x hx => isIdentifierPart_of_isVariableChar (List.all_eq_true.mp h.2 x hx)

/-! ## What is proposed -/

theorem filterAuxM_ok {α ε : Type} {f : α → Except ε Bool} {l acc out : List α}
    (h : List.filterAuxM f l acc = .ok out) :
    (∀ x ∈ l, ∃ keep, f x = .ok keep) ∧ ∀ x, x ∈ out ↔ x ∈ acc ∨ x ∈ l ∧ f x = .ok true := by
  induction l generalizing acc with
  | nil =>
      cases h
      refine ⟨fun x hx => (List.not_mem_nil hx).elim, fun x => ⟨.inl, ?_⟩⟩
      rintro (hx | ⟨hx, -⟩)
      · exact hx
      · cases hx
  | cons a l ih =>
      rw [List.filterAuxM] at h
      obtain ⟨keep, hkeep, h⟩ := exists_of_bind_ok h
      obtain ⟨hall, hmem⟩ := ih h
      refine ⟨List.forall_mem_cons.mpr ⟨⟨keep, hkeep⟩, hall⟩, fun x => ?_⟩
      rw [hmem, List.mem_cons]
      cases keep with
      | false =>
          constructor
          · rintro (hx | ⟨hx, htrue⟩)
            · exact .inl hx
            · exact .inr ⟨.inr hx, htrue⟩
          · rintro (hx | ⟨rfl | hx, htrue⟩)
            · exact .inl hx
            · rw [hkeep] at htrue
              cases htrue
            · exact .inr ⟨hx, htrue⟩
      | true =>
          rw [cond_true, List.mem_cons]
          constructor
          · rintro ((rfl | hx) | ⟨hx, htrue⟩)
            · exact .inr ⟨.inl rfl, hkeep⟩
            · exact .inl hx
            · exact .inr ⟨.inr hx, htrue⟩
          · rintro (hx | ⟨rfl | hx, htrue⟩)
            · exact .inl (.inr hx)
            · exact .inl (.inl rfl)
            · exact .inr ⟨hx, htrue⟩

/-- A filter that can break down keeps what passes, if it breaks down nowhere. -/
theorem filterM_ok {α ε : Type} {f : α → Except ε Bool} {l out : List α}
    (h : l.filterM f = .ok out) :
    (∀ x ∈ l, ∃ keep, f x = .ok keep) ∧ ∀ x, x ∈ out ↔ x ∈ l ∧ f x = .ok true := by
  rw [List.filterM] at h
  obtain ⟨kept, hkept, h⟩ := exists_of_bind_ok h
  cases h
  obtain ⟨hall, hmem⟩ := filterAuxM_ok hkept
  refine ⟨hall, fun x => ?_⟩
  rw [List.mem_reverse, hmem]
  exact ⟨fun h => h.resolve_left List.not_mem_nil, .inr⟩

theorem exists_filterM {α ε : Type} {f : α → Except ε Bool} {l : List α}
    (h : ∀ x ∈ l, ∃ keep, f x = .ok keep) : ∃ out, l.filterM f = .ok out := by
  have haux : ∀ l acc : List α, (∀ x ∈ l, ∃ keep, f x = .ok keep) →
      ∃ out, List.filterAuxM f l acc = .ok out := by
    intro l
    induction l with
    | nil => exact fun acc _ => ⟨acc, rfl⟩
    | cons a l ih =>
        intro acc h
        obtain ⟨⟨keep, hkeep⟩, hmore⟩ := List.forall_mem_cons.mp h
        obtain ⟨out, hout⟩ := ih (cond keep (a :: acc) acc) hmore
        refine ⟨out, ?_⟩
        rw [List.filterAuxM, hkeep]
        exact hout
  obtain ⟨out, hout⟩ := haux l [] h
  refine ⟨out.reverse, ?_⟩
  rw [List.filterM, hout]
  rfl

theorem mem_literals {s : Script} {p : Place} {v : Text} (h : (p, v) ∈ literals s) :
    p ∈ s.places ∧ p.node.string? = some v ∧ isValue p = true := by
  obtain ⟨q, hq, hv⟩ := List.mem_filterMap.mp h
  split at hv
  · next value hstring =>
      split at hv
      · next hvalue =>
          cases hv
          exact ⟨hq, hstring, hvalue⟩
      · cases hv
  · cases hv

theorem nearest?_map_mem {l : List (Place × Text)} {line : Nat} {column : Option Int} {p : Place}
    (h : nearest? (l.map (·.1)) line column = some p) : ∃ v, (p, v) ∈ l := by
  obtain ⟨⟨q, v⟩, hmem, rfl⟩ := List.mem_map.mp (nearest?_mem h)
  exact ⟨v, hmem⟩

/-- What is found for an issue is a literal that is a value. -/
theorem locate_ok {s : Script} {i : Issue} {p : Place} (h : locate s i = .ok (some p)) :
    ∃ v, (p, v) ∈ literals s := by
  rw [locate] at h
  split at h
  · exact nearest?_map_mem (Except.ok.inj h)
  · obtain ⟨matching, hmatching, h⟩ := exists_of_bind_ok h
    rcases Option.or_eq_some_iff.mp (Except.ok.inj h) with hnear | ⟨-, hnear⟩
    · obtain ⟨v, hmem⟩ := nearest?_map_mem hnear
      exact ⟨v, (((filterM_ok hmatching).2 (p, v)).mp hmem).1⟩
    · exact nearest?_map_mem hnear

/-- What stands before the name of a variable that is read. -/
def environment : Text := "process.env."

/-- What takes the place of a literal: the left operand of the choice that the literal is the
fallback of takes the place of the choice; else a read of the environment takes the place of
the literal, in braces if it is the value of a markup attribute. -/
inductive Replaces (s : Script) (p : Place) : Node → Text → Prop where
  | fallback {read whole : Node} (reads : environmentRead? p = some (read, whole)) :
      Replaces s p whole (s.textOf read)
  | value {name : Text} (alone : environmentRead? p = none) (plain : isAttributeValue p = false)
      (named : isVariable name = true) : Replaces s p p.node (environment ++ name)
  | markup {name : Text} (alone : environmentRead? p = none)
      (inMarkup : isAttributeValue p = true) (named : isVariable name = true) :
      Replaces s p p.node ("\x7b" ++ (environment ++ name) ++ "\x7d")

theorem replacementFor_ok {s : Script} {p : Place} {n : Node} {source name : Text}
    (h : replacementFor s p = .ok (n, source, name)) : Replaces s p n source := by
  rw [replacementFor] at h
  split at h
  · next read whole hreads =>
      cases h
      exact .fallback hreads
  · next halone =>
      obtain ⟨own, hown, h⟩ := exists_of_bind_ok h
      have hname := environmentVariable_isVariable hown
      cases h
      cases hattribute : isAttributeValue p with
      | false => exact .value halone hattribute hname
      | true => exact .markup halone hattribute hname

theorem propose_located {s : Script} {i : Issue} {p : Proposal} (h : propose s i = .ok p) :
    ∃ place n source edit, locate s i = .ok (some place) ∧ Replaces s place n source ∧
      p.edits = [edit] ∧ edit.start = n.start ∧ edit.stop = n.stop ∧
      edit.replacement = source := by
  rw [propose] at h
  obtain ⟨found, hfound, h⟩ := exists_of_bind_ok h
  split at h
  · next place =>
      obtain ⟨⟨n, source, name⟩, hreplacement, h⟩ := exists_of_bind_ok h
      obtain ⟨edit, hedit, h⟩ := exists_of_bind_ok h
      cases h
      exact ⟨place, n, source, edit, hfound, replacementFor_ok (ok_of_mapError hreplacement), rfl,
        Edit.ofRange_ok (ok_of_mapError hedit)⟩
  · cases h

theorem propose_ok {s : Script} {i : Issue} {p : Proposal} (h : propose s i = .ok p) :
    ∃ place n source edit, (∃ v, (place, v) ∈ literals s) ∧ Replaces s place n source ∧
      p.edits = [edit] ∧ edit.start = n.start ∧ edit.stop = n.stop ∧
      edit.replacement = source := by
  obtain ⟨place, n, source, edit, hlocated, hproposed⟩ := propose_located h
  exact ⟨place, n, source, edit, locate_ok hlocated, hproposed⟩

/-! ## What the text becomes -/

/-- Where a read of a variable is put in for the range of a node, the names next to it run into it:
a word that ends where the range starts is read on into `process`, and the variable's name
is read on into a word that starts where the range ends. -/
structure RunsInto (t u : Text) (n : Node) (name : Text) : Prop where
  opening : ∀ {front w : Text}, t.take n.start = front ++ w → IsWord w →
    ∀ c : Cursor, c.rest = u.drop front.length →
      ∃ after, identifierName c = .ok (w ++ "process", after)
  closing : ∀ {w back : Text}, t.drop n.stop = w ++ back → IsWord w → EndsName back →
    ∀ c : Cursor, c.rest = u.drop (n.start + environment.length) →
      ∃ after, identifierName c = .ok (name ++ w, after)

theorem runsInto_of_replaced {t u name : Text} {n : Node} (length : n.start ≤ t.length)
    (named : isVariable name = true)
    (replaced : u = t.take n.start ++ ((environment ++ name) ++ t.drop n.stop)) :
    RunsInto t u n name := by
  constructor
  · intro front w hsplit hword c hc
    have hprocess : IsWord "process" := by
      intro x hx
      have hall : ∀ x ∈ ("process" : Text), isIdentifierPart x = true ∧ x ≠ '\\' := by decide
      exact hall x hx
    have hdot : EndsName (".env." ++ name ++ t.drop n.stop) := by
      intro x hx
      cases hx
      decide
    have henvironment : environment = ("process" : Text) ++ ".env." := rfl
    have hread : c.rest = (w ++ "process") ++ (".env." ++ name ++ t.drop n.stop) := by
      rw [hc, replaced, hsplit, List.append_assoc, List.drop_left, henvironment]
      simp only [List.append_assoc]
    exact ⟨_, identifierName_of_append hread (hword.append hprocess) hdot⟩
  · intro w back hsplit hword hends c hc
    have hstart : (t.take n.start).length = n.start := by
      rw [List.length_take, Nat.min_eq_left length]
    have hdrop : u.drop n.start = (environment ++ name) ++ t.drop n.stop := by
      rw [replaced]
      exact List.drop_left' hstart
    have hread : c.rest = (name ++ w) ++ back := by
      rw [hc, ← List.drop_drop, hdrop, List.append_assoc, List.drop_left, hsplit,
        List.append_assoc]
    exact ⟨_, identifierName_of_append hread ((isWord_of_isVariable named).append hword) hends⟩

/-- What the repair of a secret does that succeeds. In the text, the range of one node gives way: of
a literal that is a value, or of the choice that the literal is the fallback of. All
else is kept, and the new text parses with no more problems. Nothing looks at the tokens, though:
where no braces are put around the read, the names next to the place run into it. -/
theorem attempt_replaces {t u explanation : Text} {i : Issue} {edits : List Edit}
    (type : i.type = IssueType.hardcodedSecret)
    (applied : (attempt scriptGrammar scriptEngine t i).verdict = .applied edits u explanation) :
    ∃ s s' p v n source, Script.parse t = .ok (.ok s) ∧ p ∈ s.places ∧
      p.node.string? = some v ∧ isValue p = true ∧ Replaces s p n source ∧
      n.start ≤ n.stop ∧ n.stop ≤ t.length ∧
      u = t.take n.start ++ (source ++ t.drop n.stop) ∧
      Script.parse u = .ok (.ok s') ∧ s'.problems.length ≤ s.problems.length ∧
      ∀ name, source = environment ++ name → isVariable name = true → RunsInto t u n name := by
  obtain ⟨f, s, hf, hread, hpropose, haccept⟩ := attempt_proposal applied
  rw [fixerFor?_hardcodedSecret type] at hf
  split at hf
  · cases hf
    have hparse := scriptGrammar_read.mp hread
    obtain ⟨p, n, source, edit, ⟨v, hliteral⟩, hreplaces, hedits, hstart, hstop, hsource⟩ :=
      propose_ok hpropose
    cases hedits
    obtain ⟨hplace, hstring, hvalue⟩ := mem_literals hliteral
    obtain ⟨hlength, hu⟩ := Edit.apply_singleton (accept_ok haccept).1
    rw [hstart, hstop, hsource] at hu
    have hordered : n.start ≤ n.stop := hstart ▸ hstop ▸ edit.ordered
    rw [hstop] at hlength
    obtain ⟨s', hparse', hfewer⟩ : ∃ s', Script.parse u = .ok (.ok s') ∧
        s'.problems.length ≤ s.problems.length := by
      rcases (accept_ok haccept).2 with rfl | ⟨s', hread', hfewer⟩
      · exact ⟨s, hparse, Nat.le_refl _⟩
      · exact ⟨s', scriptGrammar_read.mp hread', hfewer⟩
    refine ⟨s, s', p, v, n, source, hparse, hplace, hstring, hvalue, hreplaces, hordered, hlength,
      hu, hparse', hfewer, ?_⟩
    intro name hname hvariable
    rw [hname] at hu
    exact runsInto_of_replaced (Nat.le_trans hordered hlength) hvariable hu
  · cases hf

/-- The only literal that is near is found, whatever digest was noted. -/
theorem locate_of_near {s : Script} {i : Issue} {p : Place} {v : Text}
    (digests : ∀ x ∈ literals s, ∃ d, Credential.digest x.2 = .ok d) (mem : (p, v) ∈ literals s)
    (near : p.node.line ≤ i.line + 1 ∧ i.line ≤ p.node.line + 1)
    (only : ∀ x ∈ literals s, x.1.node.line ≤ i.line + 1 → i.line ≤ x.1.node.line + 1 → x.1 = p) :
    locate s i = .ok (some p) := by
  have honly : ∀ l : List (Place × Text), (∀ x ∈ l, x ∈ literals s) →
      ∀ q, nearest? (l.map (·.1)) i.line i.column = some q → q = p := by
    intro l hl q hq
    obtain ⟨w, hw⟩ := nearest?_map_mem hq
    obtain ⟨hle, hge⟩ := nearest?_near hq
    exact only (q, w) (hl _ hw) hle hge
  have hall : nearest? ((literals s).map (·.1)) i.line i.column = some p := by
    have hin : p ∈ (literals s).map (·.1) := List.mem_map.mpr ⟨(p, v), mem, rfl⟩
    obtain ⟨q, hq⟩ := Option.isSome_iff_exists.mp (nearest?_isSome.mpr ⟨p, hin, near⟩)
    rw [hq, honly (literals s) (fun _ => id) q hq]
  rw [locate]
  split
  · exact congrArg Except.ok hall
  · next noted hnoted =>
      obtain ⟨matching, hmatching⟩ := @exists_filterM _ Fault
        (fun x : Place × Text => (Credential.digest x.2).mapError Fault.breakdown >>= fun digest =>
          pure (noted.str? == some digest)) (literals s) (by
        intro x hx
        obtain ⟨d, hd⟩ := digests x hx
        exact ⟨_, by rw [hd]; rfl⟩)
      refine (congrArg (· >>= _) hmatching).trans ?_
      refine congrArg Except.ok ?_
      cases hnear : nearest? (matching.map (·.1)) i.line i.column with
      | none => exact (congrArg (Option.or · _) hnear).trans hall
      | some q =>
          have hmem : ∀ x ∈ matching, x ∈ literals s := fun x hx =>
            (((filterM_ok hmatching).2 x).mp hx).1
          rw [honly matching hmem q hnear] at hnear
          exact congrArg (Option.or · _) hnear

theorem propose_of_replacement {s : Script} {i : Issue} {p : Place} {n : Node} {name : Text}
    {edit : Edit} (located : locate s i = .ok (some p))
    (replacement : replacementFor s p = .ok (n, edit.replacement, name))
    (start : n.start = edit.start) (stop : n.stop = edit.stop) :
    ∃ explanation, propose s i = .ok ⟨[edit], explanation⟩ := by
  have hrange : Edit.ofRange n.start n.stop edit.replacement = .ok edit := by
    have hordered := edit.ordered
    rw [Edit.ofRange, start, stop, dif_pos (by omega)]
    rfl
  rw [propose, located]
  simp only [bind, Except.bind, replacement, Except.mapError, hrange, pure, Except.pure]
  exact ⟨_, rfl⟩

/-- What is proposed when the first literal is near and no other one is. -/
theorem propose_of_near {s : Script} {i : Issue} {v : Text} {more : List (Text × Nat)} {edit : Edit}
    {others : List (Option ((Nat × Nat) × Text))}
    (first : (literals s).map (fun x => (x.2, x.1.node.line)) = (v, i.line) :: more)
    (far : ∀ x ∈ more, i.line + 1 < x.2)
    (digests : ∀ x ∈ (v, i.line) :: more, (Credential.digest x.1).toOption.isSome = true)
    (replacement : (literals s).map (fun x => (replacementFor s x.1).toOption.map fun r =>
      ((r.1.start, r.1.stop), r.2.1)) = some ((edit.start, edit.stop), edit.replacement) :: others) :
    ∃ explanation, propose s i = .ok ⟨[edit], explanation⟩ := by
  obtain ⟨⟨p, w⟩, rest, hliterals, hpair, hrest⟩ := List.map_eq_cons_iff.mp first
  obtain ⟨rfl, hline⟩ : w = v ∧ p.node.line = i.line := Prod.mk.inj hpair
  have hdigests : ∀ x ∈ literals s, ∃ d, Credential.digest x.2 = .ok d := by
    intro x hx
    have hx : (x.2, x.1.node.line) ∈ (w, i.line) :: more := first ▸ List.mem_map_of_mem hx
    obtain ⟨d, hd⟩ := Option.isSome_iff_exists.mp (digests _ hx)
    exact ⟨d, ok_of_toOption hd⟩
  have honly : ∀ x ∈ literals s, x.1.node.line ≤ i.line + 1 → i.line ≤ x.1.node.line + 1 →
      x.1 = p := by
    intro x hx hle _
    rw [hliterals] at hx
    rcases List.mem_cons.mp hx with rfl | hx
    · rfl
    · have hfar := far (x.2, x.1.node.line) (hrest ▸ List.mem_map_of_mem hx)
      omega
  have hlocated := locate_of_near hdigests (hliterals ▸ List.mem_cons_self) (by omega) honly
  rw [hliterals, List.map_cons] at replacement
  obtain ⟨⟨n, source, name⟩, hfor, hrange⟩ :=
    Option.map_eq_some_iff.mp (List.cons.inj replacement).1
  obtain ⟨hspan, rfl⟩ : (n.start, n.stop) = (edit.start, edit.stop) ∧ source = edit.replacement :=
    Prod.mk.inj hrange
  obtain ⟨hstart, hstop⟩ := Prod.mk.inj hspan
  exact propose_of_replacement hlocated (ok_of_toOption hfor) hstart hstop

/-- What is proposed when there is one literal only. -/
theorem propose_of_only {s : Script} {i : Issue} {v : Text} {edit : Edit}
    (only : (literals s).map (fun x => (x.2, x.1.node.line)) = [(v, i.line)])
    (digest : (Credential.digest v).toOption.isSome = true)
    (replacement : (literals s).map (fun x => (replacementFor s x.1).toOption.map fun r =>
      ((r.1.start, r.1.stop), r.2.1)) = [some ((edit.start, edit.stop), edit.replacement)]) :
    ∃ explanation, propose s i = .ok ⟨[edit], explanation⟩ :=
  propose_of_near only (fun _ h => (List.not_mem_nil h).elim)
    (List.forall_mem_singleton.mpr digest) replacement

/-! A secret that stands right behind a keyword. -/

namespace Glued

def text : Text := "function f()\x7breturn\"sk_live_abcd1234\"\x7d"

def repaired : Text := "function f()\x7breturnprocess.env.STRIPE_SECRET_KEY\x7d"

def literal : Text := "sk_live_abcd1234"

def variableRead : Text := "process.env.STRIPE_SECRET_KEY"

def edit : Edit := ⟨19, 37, variableRead, by decide⟩

/-- The secret is found, it is the only literal, and what is to take its place. -/
theorem text_facts :
    Script.isPlain text = true ∧
      ((Script.ofText text).found "input.js").map (fun i => (i.mark, Secret.fixer.canFix i)) =
        [(⟨IssueType.hardcodedSecret, 1, some 19⟩, true)] ∧
      (∃ p ∈ (Script.ofText text).places, p.kind.typeName = "ReturnStatement") ∧
      (literals (Script.ofText text)).map (fun x => (x.2, x.1.node.line)) = [(literal, 1)] ∧
      (literals (Script.ofText text)).map (fun x =>
        (replacementFor (Script.ofText text) x.1).toOption.map fun r =>
          ((r.1.start, r.1.stop), r.2.1)) = [some ((19, 37), variableRead)] := by
  rw [text, Text.ofString_ofList]
  decide +kernel

/-- In the text that the edit writes nothing is returned any more, and a variable is read that the
text before does not have. -/
theorem repaired_facts :
    Edit.apply text [edit] = .ok repaired ∧ Script.isPlain repaired = true ∧
      (∀ p ∈ (Script.ofText repaired).places, p.kind.typeName ≠ "ReturnStatement") ∧
      ∃ p ∈ (Script.ofText repaired).places, p.node.isNamed "returnprocess" = true := by
  rw [text, repaired]
  repeat rw [Text.ofString_ofList]
  rw [Edit.apply, Edit.sorted, List.mergeSort_singleton]
  decide +kernel

theorem text_issues : ∃ a i, scanTextFor none text "input.js" = .ok a ∧ a.issues = [i] ∧
    processingOrder a.issues = [i] ∧ i.type = IssueType.hardcodedSecret ∧ i.line = 1 ∧
    Secret.fixer.canFix i = true := by
  obtain ⟨hplain, hfound, -, -, -⟩ := text_facts
  obtain ⟨x, more, hx, hpair, hmore⟩ := List.map_eq_cons_iff.mp hfound
  rw [List.map_eq_nil_iff.mp hmore] at hx
  obtain ⟨a, i, hscan, hissues, horder, hmark, hfacts⟩ := scan_singleton hplain hx
  obtain ⟨hxmark, hxfix⟩ := Prod.mk.inj hpair
  obtain ⟨htype, hline, -⟩ := Issue.Mark.mk.inj (hmark.trans hxmark)
  refine ⟨a, i, hscan, hissues, horder, htype, hline, ?_⟩
  have hxtype : x.type = i.type := (congrArg Issue.Mark.type hmark).symm
  rw [← hxfix]
  simp only [Secret.fixer, Issue.fact?, hxtype, hfacts]

theorem propose_text {i : Issue} (line : i.line = 1) :
    ∃ explanation, Secret.fixer.propose (Script.ofText text) i = .ok ⟨[edit], explanation⟩ := by
  obtain ⟨-, -, -, hliterals, hreplacement⟩ := text_facts
  rw [← line] at hliterals
  exact propose_of_only hliterals (by decide) hreplacement

theorem attempt_text {i : Issue} (type : i.type = IssueType.hardcodedSecret) (line : i.line = 1)
    (fixable : Secret.fixer.canFix i = true) :
    ∃ explanation, attempt scriptGrammar scriptEngine text i =
      ⟨i, text, .applied [edit] repaired explanation⟩ := by
  obtain ⟨explanation, hpropose⟩ := propose_text line
  have hfixer : scriptEngine.fixerFor? i = some Secret.fixer := by
    rw [fixerFor?_hardcodedSecret type, if_pos fixable]
  obtain ⟨happly, hplain, -⟩ := repaired_facts
  exact ⟨explanation, attempt_of_proposal hfixer (read_of_isPlain text_facts.1) hpropose
    (accept_of_isPlain happly hplain)⟩

end Glued

theorem attempt_replaces_sample :
    ∃ (i : Issue) (explanation : Text), i.type = IssueType.hardcodedSecret ∧
      (attempt scriptGrammar scriptEngine Glued.text i).verdict =
        .applied [Glued.edit] Glued.repaired explanation ∧
      ∃ s p v n source, Script.parse Glued.text = .ok (.ok s) ∧ p ∈ s.places ∧
        p.node.string? = some v ∧ Replaces s p n source ∧
        Glued.repaired = Glued.text.take n.start ++ (source ++ Glued.text.drop n.stop) := by
  obtain ⟨-, i, -, -, -, htype, hline, hfixable⟩ := Glued.text_issues
  obtain ⟨explanation, hattempt⟩ := Glued.attempt_text htype hline hfixable
  have hverdict := congrArg Attempt.verdict hattempt
  obtain ⟨s, -, p, v, n, source, hparse, hplace, hstring, -, hreplaces, -, -, hu, -⟩ :=
    attempt_replaces htype hverdict
  exact ⟨i, explanation, htype, hverdict, s, p, v, n, source, hparse, hplace, hstring, hreplaces,
    hu⟩

/-- The repair of a secret can change a statement. Behind the `return` that it stands next to, the
read of the environment becomes part of a longer name: the text parses, the repair is a
success, and the function returns nothing any more. -/
theorem secret_runs_into_keyword :
    ∃ (a : Analysis) (i : Issue) (r : Repaired) (s s' : Script),
      scanTextFor none Glued.text "input.js" = .ok a ∧ a.issues = [i] ∧
      i.type = IssueType.hardcodedSecret ∧
      Script.parse Glued.text = .ok (.ok s) ∧
      repair scriptGrammar scriptEngine "input.js" Glued.text a.issues = .ok r ∧
      r.ledger.map (·.success) = [true] ∧ r.text = Glued.repaired ∧
      Script.parse r.text = .ok (.ok s') ∧
      (∃ p ∈ s.places, p.kind.typeName = "ReturnStatement") ∧
      (∀ p ∈ s'.places, p.kind.typeName ≠ "ReturnStatement") ∧
      ∃ p ∈ s'.places, p.node.isNamed "returnprocess" = true := by
  obtain ⟨a, i, hscan, hissues, horder, htype, hline, hfixable⟩ := Glued.text_issues
  obtain ⟨explanation, hattempt⟩ := Glued.attempt_text htype hline hfixable
  obtain ⟨hplain, -, hreturns, -, -⟩ := Glued.text_facts
  obtain ⟨-, hplain', hnone, hnamed⟩ := Glued.repaired_facts
  have hattempts := attempts_singleton (g := scriptGrammar) (e := fun _ => scriptEngine)
    (t := Glued.text) horder
  have hrepair := repairInTurns_parsed (read_of_isPlain hplain) (fun _ => scriptEngine)
    "input.js" a.issues
  rw [hattempts, hattempt] at hrepair
  exact ⟨a, i, _, Script.ofText Glued.text, Script.ofText Glued.repaired, hscan, hissues, htype,
    Script.parse_of_isPlain hplain, hrepair, rfl, rfl, Script.parse_of_isPlain hplain', hreturns,
    hnone, hnamed⟩

end Secret

end Readiness
