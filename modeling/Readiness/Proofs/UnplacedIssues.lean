import Readiness.Proofs.ScriptRepair

/-!
# Issues without their places

When a script is changed, its issues move. What an issue tells apart from where it is, its
kind, severity, message and facts, is left when its id, position and fingerprint are taken
off (`Issue.unplaced`), and depends on the rule and on what the rule was given, not on the
node (`Rule.issue_told`). Whether there is an issue at all depends on the texts that go
into the fingerprint, which have to be encodable, and not on the line (`Rule.exists_issue`).

A detector goes through the places of a script and ends with the first step that breaks down.
So its findings are those of all places, and there are some just if no step breaks
down (`filterMapM_eq_ok`), in whatever order the places are listed (`Place.walk_perm`).
-/

namespace Readiness

/-! ## Texts that can be encoded -/

namespace Text

/-- Whether no surrogate is in a text. -/
def IsEncodable (t : Text) : Prop := ∀ c ∈ t, c.isSurrogate = false

instance (t : Text) : Decidable t.IsEncodable := inferInstanceAs (Decidable (∀ c ∈ t, _))

theorem encodingFaultFrom_eq_none {t : Text} {i : Nat} :
    encodingFaultFrom i t = none ↔ t.IsEncodable := by
  induction t generalizing i with
  | nil => exact ⟨fun _ _ h => (List.not_mem_nil h).elim, fun _ => rfl⟩
  | cons c t ih =>
      rw [IsEncodable, List.forall_mem_cons]
      cases c with
      | char d => exact ⟨fun h => ⟨rfl, ih.mp h⟩, fun h => ih.mpr h.2⟩
      | surrogate n =>
          refine ⟨fun h => ?_, fun h => ?_⟩
          · cases h
          · cases h.1

theorem isEncodable_append {t u : Text} :
    (t ++ u).IsEncodable ↔ t.IsEncodable ∧ u.IsEncodable := List.forall_mem_append

theorem isEncodable_ofChars (cs : List Char) : (ofChars cs).IsEncodable := by
  intro c hc
  obtain ⟨d, -, rfl⟩ := List.mem_map.mp hc
  rfl

theorem isEncodable_ofString (s : String) : (ofString s).IsEncodable :=
  isEncodable_ofChars s.toList

theorem IsEncodable.trim {t : Text} (h : t.IsEncodable) : (Text.trim t).IsEncodable := by
  intro c hc
  rw [Text.trim, trimBy, dropEndWhile, List.mem_reverse] at hc
  exact h c ((List.dropWhile_sublist _).subset
    (List.mem_reverse.mp ((List.dropWhile_sublist _).subset hc)))

theorem IsEncodable.slice {t : Text} (h : t.IsEncodable) (start stop : Nat) :
    (t.slice start stop).IsEncodable :=
  fun c hc => h c (List.mem_of_mem_drop (List.mem_of_mem_take hc))

end Text

/-- A file name with its slashes all the same way, as it goes into fingerprints. -/
def slashed (file : Text) : Text :=
  file.map fun (c : CodePoint) => if c == '\\' then .char '/' else c

/-- The parts of a fingerprint are encoded one by one. -/
theorem exists_fingerprint {type file snippet : Text} {line : Int} :
    (∃ t, fingerprint type file line snippet = .ok t) ↔
      type.IsEncodable ∧ (slashed file).IsEncodable ∧ (Text.trim snippet).IsEncodable := by
  have hpayload : (fingerprintPayload type file line snippet).IsEncodable ↔
      type.IsEncodable ∧ (slashed file).IsEncodable ∧ (Text.trim snippet).IsEncodable := by
    rw [fingerprintPayload]
    simp only [Text.join, Text.isEncodable_append, Text.isEncodable_ofString, true_and, and_true,
      slashed]
  rw [← hpayload, ← Text.encodingFaultFrom_eq_none, ← Text.encodingFault?, fingerprint]
  cases Text.encodingFault? (fingerprintPayload type file line snippet) with
  | none => exact ⟨fun _ => rfl, fun _ => ⟨_, rfl⟩⟩
  | some fault =>
      constructor
      · rintro ⟨print, h⟩
        cases h
      · intro h
        cases h

/-! ## Issues without their places -/

/-- An issue without what depends on where it is. -/
def Issue.unplaced (i : Issue) : Issue :=
  { i with id := "", location := ⟨i.file, 0, none⟩, fingerprint := "" }

/-- What a rule tells, wherever it is. -/
def Rule.told (r : Rule) (file : Text) (severity : Severity) (message : Text)
    (facts : List (Text × Json)) : Issue where
  id := ""
  type := r.type
  severity
  category := r.category
  location := ⟨file, 0, none⟩
  message
  impact := r.impact
  education := r.education
  fix := some r.fix
  facts
  fingerprint := ""
  known := r.known

variable {r : Rule} {file message snippet : Text} {n : Script.Node} {severity : Severity}
  {facts : List (Text × Json)}

theorem Rule.issue_told {i : Issue} (h : r.issue file n severity message facts snippet = .ok i) :
    i.unplaced = r.told file severity message facts := by
  obtain ⟨print, -, h⟩ := exists_of_bind_ok h
  cases h
  rfl

theorem Rule.exists_issue :
    (∃ i, r.issue file n severity message facts snippet = .ok i) ↔
      r.type.IsEncodable ∧ (slashed file).IsEncodable ∧ (Text.trim snippet).IsEncodable := by
  rw [← @exists_fingerprint r.type file snippet n.line, issue]
  cases fingerprint r.type file n.line snippet with
  | error b =>
      constructor
      · rintro ⟨i, h⟩
        cases h
      · rintro ⟨print, h⟩
        cases h
  | ok t => exact ⟨fun _ => ⟨t, rfl⟩, fun _ => ⟨_, rfl⟩⟩

/-! ## Lists of findings -/

section Results

variable {ε α β : Type}

/-- What a step that may break down finds, if anything. -/
def foundBy (f : α → Except ε (Option β)) (a : α) : Option β := (f a).toOption.join

/-- A list of findings comes about just if no step breaks down. -/
theorem filterMapM_eq_ok {f : α → Except ε (Option β)} {l : List α} {kept : List β} :
    l.filterMapM f = .ok kept ↔ (∀ a ∈ l, ∃ o, f a = .ok o) ∧ kept = l.filterMap (foundBy f) := by
  induction l generalizing kept with
  | nil =>
      rw [List.filterMapM_nil, List.filterMap_nil]
      exact ⟨fun h => ⟨fun _ hmem => (List.not_mem_nil hmem).elim, (Except.ok.inj h).symm⟩,
        fun h => h.2 ▸ rfl⟩
  | cons a l ih =>
      rw [List.filterMapM_cons, List.filterMap_cons, List.forall_mem_cons, foundBy]
      cases hfound : f a with
      | error e =>
          constructor
          · intro h
            cases h
          · rintro ⟨⟨⟨o, ho⟩, -⟩, -⟩
            cases ho
      | ok found =>
          have hok : ∃ o, (Except.ok found : Except ε (Option β)) = .ok o := ⟨found, rfl⟩
          cases found with
          | none =>
              show l.filterMapM f = .ok kept ↔ _
              rw [ih]
              exact ⟨fun h => ⟨⟨hok, h.1⟩, h.2⟩, fun h => ⟨h.1.2, h.2⟩⟩
          | some b =>
              show (l.filterMapM f >>= fun more => Except.ok (b :: more)) = .ok kept ↔
                _ ∧ kept = b :: l.filterMap (foundBy f)
              constructor
              · intro h
                obtain ⟨more, hmore, h⟩ := exists_of_bind_ok h
                obtain ⟨hall, rfl⟩ := ih.mp hmore
                exact ⟨⟨hok, hall⟩, (Except.ok.inj h).symm⟩
              · rintro ⟨⟨-, hall⟩, rfl⟩
                rw [ih.mpr ⟨hall, rfl⟩]
                rfl

end Results

end Readiness
