import Readiness.Proofs.ConstantQuery
import Readiness.Proofs.PatternText
import Readiness.Proofs.UnplacedIssues

/-!
# Two spellings of a credential

A credential can be written as a string literal and as a template without
interpolations. Both are asked whether they are placeholders, but not the same part of them: of a
connection string in a literal the password (`Credential.judged`), of one in a template the whole
text. A pattern of placeholders that occurs in the password occurs in the whole text too
(`isPlaceholder_of_infix`); a word that is a placeholder only by itself need not.

So the two spellings are judged alike unless a placeholder stands around the password, or the
password is one of those words (`spellings_judged`). A connection string whose host looks like a
placeholder is reported as a literal and missed as a template (`missed_in_template`).
-/

namespace Readiness

namespace Credential

open Pattern

variable {v t : Text} {c : Connection}

/-! ## Placeholders -/

theorem foldChar_lineFeed {x : CodePoint} (h : Text.foldChar x = .char '\n') : x = .char '\n' := by
  rw [Text.foldChar] at h
  split at h
  · cases x with
    | char d =>
        have hd : d.toLower = '\n' := CodePoint.char.inj h
        delta Char.toLower at hd
        split at hd
        · next hcapital =>
            -- The small letter of a capital has a number far beyond that of the line feed.
            have hlower : 65 ≤ d.val.toNat := UInt32.le_iff_toNat_le.mp hcapital.1
            have hupper : d.val.toNat ≤ 90 := UInt32.le_iff_toNat_le.mp hcapital.2
            have hval : (d.val.toNat + 32) % 2 ^ 32 = 10 := congrArg (·.val.toNat) hd
            omega
        · rw [hd]
    | surrogate n => cases h
  · split at h
    · cases h
    · split at h
      · cases h
      · split at h
        · cases h
        · exact h

/-- The patterns of placeholders are looked for in the whole text, and only the words are asked to
fill it. -/
theorem placeholderPatterns_open : ∀ a ∈ placeholderPatterns, a.isOpen = true := by decide

theorem isPlaceholder_iff : isPlaceholder v = true ↔
    (∃ a ∈ placeholderPatterns, a.occursIn (Text.fold v) = true) ∨
      Text.fold v ∈ placeholderWords ∨ ∃ w ∈ placeholderWords, Text.fold v = w ++ ("\n" : Text) := by
  rw [isPlaceholder, Bool.or_eq_true_iff, List.any_eq_true, startsText_words_atEnd]

/-- A placeholder is one in every text around it, but for the words that are placeholders only if
they are the whole text. -/
theorem isPlaceholder_of_infix (h : isPlaceholder t = true) (solid : ∀ x ∈ t, isBlank x = false)
    (noWord : Text.fold t ∉ placeholderWords) (part : t <:+: v) : isPlaceholder v = true := by
  rcases isPlaceholder_iff.mp h with ⟨a, ha, hoccurs⟩ | hword | ⟨w, -, hw⟩
  · have hfold : Text.fold t <:+: Text.fold v := part.map Text.foldChar
    exact isPlaceholder_iff.mpr
      (.inl ⟨a, ha, occursIn_of_infix (placeholderPatterns_open a ha) hoccurs hfold⟩)
  · exact absurd hword noWord
  · have hfeed : CodePoint.char '\n' ∈ Text.fold t := by
      rw [hw]
      exact List.mem_append_right w (List.mem_singleton_self _)
    obtain ⟨x, hx, hfeed⟩ := List.mem_map.mp hfeed
    have hsolid := solid x hx
    rw [foldChar_lineFeed hfeed] at hsolid
    cases hsolid

/-! ## Connection strings -/

theorem afterScheme?_suffix {rest : Text} (h : afterScheme? v = some rest) : rest <:+ v := by
  cases v with
  | nil => cases h
  | cons x r =>
      rw [afterScheme?] at h
      split at h
      · split at h
        · next rest' hrest =>
            cases h
            have hslashes : rest <:+ r.dropWhile isSchemeChar := hrest ▸ ⟨("://" : Text), rfl⟩
            exact (hslashes.trans (List.dropWhile_suffix _)).trans (List.suffix_cons x r)
        · cases h
      · cases h

/-- The password of a connection string stands in it, and no blank is in it. -/
theorem password_of_connection? (h : connection? v = some c) :
    c.password <:+: v ∧ ∀ x ∈ c.password, isBlank x = false := by
  rw [connection?] at h
  obtain ⟨rest, hrest, hread⟩ := Option.bind_eq_some_iff.mp h
  dsimp only at hread
  split at hread
  · next more hmore =>
      split at hread
      · cases hread
        have hmore : more <:+ rest :=
          (List.suffix_cons _ more).trans (hmore ▸ List.dropWhile_suffix _)
        refine ⟨?_, fun x hx => ?_⟩
        · exact (List.takeWhile_prefix _).isInfix.trans
            (hmore.trans (afterScheme?_suffix hrest)).isInfix
        · have hpart := List.all_eq_true.mp List.all_takeWhile x hx
          rw [Bool.not_eq_true', Bool.or_eq_false_iff] at hpart
          exact hpart.2
      · cases hread
  · cases hread

/-! ## What is asked whether it is a placeholder -/

/-- Whether a text is a connection string with a password or has the shape of a known credential. -/
def isCredential (v : Text) : Bool := (connection? v).isSome || (shape? v).isSome

/-- What is asked whether it is a placeholder when a text is judged: the password of a connection
string, and of other texts the whole. -/
def judged (v : Text) : Text :=
  match connection? v with
  | some c => c.password
  | none => v

/-- It makes no difference whether a text is judged by its password or as a whole: no placeholder stands
in it outside of its password, and the password is none by itself alone. -/
def JudgedAlike (v : Text) : Prop :=
  ∀ c, connection? v = some c →
    (isPlaceholder v = true → isPlaceholder c.password = true) ∧
    (Text.fold c.password ∈ placeholderWords → isPlaceholder v = true)

theorem classify_credential {name : Option Text} (long : leastLength ≤ v.length)
    (notPublic : ("pk_" : Text).isPrefixOf v = false) (credential : isCredential v = true) :
    classify v name = none ↔ isPlaceholder (judged v) = true := by
  have hopen : ¬ (v.length < leastLength || ("pk_" : Text).isPrefixOf v) = true := by
    rw [notPublic, Bool.or_false, decide_eq_true_iff]
    omega
  rw [classify, if_neg hopen, judged]
  cases hconnection : connection? v with
  | some c => simp only [ite_eq_left_iff, reduceCtorEq, imp_false, Decidable.not_not]
  | none =>
      have hshape : (shape? v).isSome = true := by
        rwa [isCredential, hconnection, Option.isSome_none, Bool.false_or] at credential
      obtain ⟨l, hl⟩ := Option.isSome_iff_exists.mp hshape
      simp only [hl, ite_eq_left_iff, reduceCtorEq, imp_false, Decidable.not_not]

theorem judgedAlike_iff : JudgedAlike v ↔ isPlaceholder (judged v) = isPlaceholder v := by
  cases hconnection : connection? v with
  | none =>
      have hjudged : judged v = v := by rw [judged, hconnection]
      rw [hjudged]
      refine ⟨fun _ => rfl, fun _ c h => ?_⟩
      cases hconnection.symm.trans h
  | some c =>
      have hjudged : judged v = c.password := by rw [judged, hconnection]
      obtain ⟨hpart, hsolid⟩ := password_of_connection? hconnection
      rw [hjudged, Bool.eq_iff_iff]
      constructor
      · intro h
        obtain ⟨hwhole, hword⟩ := h c hconnection
        refine ⟨fun hpassword => ?_, hwhole⟩
        by_cases hin : Text.fold c.password ∈ placeholderWords
        · exact hword hin
        · exact isPlaceholder_of_infix hpassword hsolid hin hpart
      · intro h c' hc
        obtain rfl := Option.some.inj (hconnection.symm.trans hc)
        exact ⟨h.mpr, fun hin => h.mp (isPlaceholder_iff.mpr (.inr (.inl hin)))⟩

theorem exists_digest : (∃ d, digest v = .ok d) ↔ v.IsEncodable := by
  rw [← Text.encodingFaultFrom_eq_none, ← Text.encodingFault?, digest]
  cases Text.encodingFault? v with
  | none => exact ⟨fun _ => rfl, fun _ => ⟨_, rfl⟩⟩
  | some fault =>
      constructor
      · rintro ⟨d, h⟩
        cases h
      · intro h
        cases h

theorem isEncodable_digest {d : Text} (h : digest v = .ok d) : d.IsEncodable := by
  have hword : ∀ w, (Sha256.wordHex w).IsEncodable := by
    intro w
    refine Text.isEncodable_append.mpr ⟨fun x hx => ?_, Text.isEncodable_ofChars _⟩
    rw [List.eq_of_mem_replicate hx]
    rfl
  rw [digest] at h
  split at h
  · cases h
  · cases h
    intro x hx
    obtain ⟨w, -, hw⟩ := List.mem_flatMap.mp (List.mem_of_mem_take hx)
    exact hword w x hw

end Credential

namespace Secret

open Script Credential

variable {s s' : Script} {file v : Text} {p p' : Place}

/-- The detector of secrets reports a place. -/
def IsReported (s : Script) (file : Text) (p : Place) : Prop := ∃ i, issue? s file p = .ok (some i)

/-- Whether a variable starts with the value of a place, which may be one of several to choose from. -/
def isInitializer (p : Place) : Bool :=
  match Place.aboveChoices p.above with
  | s :: _ =>
    match s.parent.kind, s.role with
    | .variableDeclarator, .init => true
    | _, _ => false
  | [] => false

/-- A template without interpolations, and the text between its marks as it is written. -/
structure IsTemplateOf (s : Script) (p : Place) (v : Text) : Prop where
  isTemplate : p.node.isTemplate = true
  plain : p.node.fields .expression = []
  text : s.text.slice (p.node.start + 1) (p.node.stop - 1) = v

theorem exists_issue {n : Node} {message value kind : Text} {name : Option Text} :
    (∃ i, issue file n message value name kind = .ok i) ↔
      value.IsEncodable ∧ (slashed file).IsEncodable := by
  have htype : rule.type.IsEncodable := Text.isEncodable_ofString "hardcoded-secret"
  rw [← exists_digest]
  constructor
  · rintro ⟨i, h⟩
    obtain ⟨d, hd, h⟩ := exists_of_bind_ok h
    exact ⟨⟨d, hd⟩, (Rule.exists_issue.mp ⟨i, h⟩).2.1⟩
  · rintro ⟨⟨d, hd⟩, hfile⟩
    rw [issue, hd]
    exact Rule.exists_issue.mpr ⟨htype, hfile, (isEncodable_digest hd).trim⟩

theorem exists_of_isInitializer (h : isInitializer p = true) :
    ∃ step more, Place.aboveChoices p.above = step :: more ∧
      step.parent.kind = .variableDeclarator ∧ step.role = .init := by
  rw [isInitializer] at h
  split at h
  · next step more habove =>
      split at h
      · next hkind hrole => exact ⟨step, more, habove, hkind, hrole⟩
      · cases h
  · cases h

theorem exists_destination (h : isInitializer p = true) : ∃ d, p.destination = .ok d := by
  obtain ⟨step, more, habove, hkind, hrole⟩ := exists_of_isInitializer h
  rw [Place.destination, habove]
  simp only [hkind, hrole]
  exact ⟨_, rfl⟩

theorem isValue_of_isInitializer (h : isInitializer p = true) : isValue p = true := by
  obtain ⟨step, more, habove, hkind, -⟩ := exists_of_isInitializer h
  obtain ⟨n, above⟩ := p
  cases above with
  | nil => rfl
  | cons first above =>
      have hfirst : first.parent.kind = .variableDeclarator ∨ first.parent.kind = .conditional ∨
          ∃ o, first.parent.kind = .logical o := by
        rw [Place.aboveChoices] at habove
        split at habove
        · next o ho => exact .inr (.inr ⟨o, ho⟩)
        · next hconditional => exact .inr (.inl hconditional)
        · cases habove
          exact .inl hkind
      rcases hfirst with hfirst | hfirst | ⟨o, hfirst⟩
      all_goals simp only [isValue, namesModule, hfirst, Bool.false_eq_true, if_false]

/-- What comes of a place whose text is let pass if it is a placeholder, and is an issue otherwise. -/
theorem isReported_iff {placeholder : Bool}
    (passes : placeholder = true → issue? s file p = .ok none)
    (fails : placeholder = false → ∃ n message name kind,
      issue? s file p = (do return some (← issue file n message v name kind))) :
    IsReported s file p ↔ placeholder = false ∧ v.IsEncodable ∧ (slashed file).IsEncodable := by
  cases placeholder with
  | true =>
      have hpass := passes rfl
      refine ⟨?_, fun h => absurd h.1 (by decide)⟩
      rintro ⟨i, hi⟩
      cases hpass.symm.trans hi
  | false =>
      obtain ⟨n, message, name, kind, hfail⟩ := fails rfl
      rw [and_iff_right rfl, ← @exists_issue file n message v kind name, IsReported, hfail]
      cases issue file n message v name kind with
      | error b =>
          constructor
          · rintro ⟨i, h⟩
            cases h
          · rintro ⟨i, h⟩
            cases h
      | ok i => exact ⟨fun _ => ⟨i, rfl⟩, fun _ => ⟨i, rfl⟩⟩

theorem isReported_literal (literal : p.node.string? = some v) (initializes : isInitializer p = true)
    (long : leastLength ≤ v.length) (notPublic : ("pk_" : Text).isPrefixOf v = false)
    (credential : isCredential v = true) :
    IsReported s file p ↔
      isPlaceholder (judged v) = false ∧ v.IsEncodable ∧ (slashed file).IsEncodable := by
  obtain ⟨d, hd⟩ := exists_destination initializes
  have hvalue : ¬ (!isValue p) = true := by
    rw [isValue_of_isInitializer initializes]
    decide
  have hclassify : classify v d.name = none ↔ isPlaceholder (judged v) = true :=
    classify_credential long notPublic credential
  have hissue : issue? s file p = literalIssue? file p v := by rw [issue?, literal]
  rw [literalIssue?, if_neg hvalue, hd] at hissue
  dsimp only [bind, Except.bind] at hissue
  refine isReported_iff (fun hplaceholder => ?_) (fun hplaceholder => ?_)
  · rw [hissue, hclassify.mpr hplaceholder]
    rfl
  · have hfound : classify v d.name ≠ none := by
      rw [ne_eq, hclassify, hplaceholder]
      decide
    obtain ⟨finding, hfinding⟩ := Option.ne_none_iff_exists'.mp hfound
    rw [hissue, hfinding]
    exact ⟨p.node, literalMessage finding d.receiver, d.name, d.receiver.name, rfl⟩

theorem isReported_template (template : IsTemplateOf s p v) (initializes : isInitializer p = true)
    (nonempty : v ≠ []) (trimmed : Text.trim v = v) (credential : isCredential v = true) :
    IsReported s file p ↔
      isPlaceholder v = false ∧ v.IsEncodable ∧ (slashed file).IsEncodable := by
  obtain ⟨d, hd⟩ := exists_destination initializes
  have hchunks : (templateChunks s.text p.node).map Text.trim = [v] := by
    rw [templateChunks, template.plain, templateChunks.go, template.text, List.map_singleton, trimmed]
  have hchunk : isSecretChunk v = !isPlaceholder v := by
    have hsome : (!v.isEmpty) = true := by
      rw [Bool.not_eq_true', List.isEmpty_eq_false_iff]
      exact nonempty
    rw [isSecretChunk, hsome, ← isCredential, credential, Bool.true_and, Bool.true_and]
  have hissue : issue? s file p = templateIssue? s file p := by
    rw [issue?, (Query.not_literal_of_isTemplate template.isTemplate).1]
    exact if_pos template.isTemplate
  rw [templateIssue?, hd, hchunks] at hissue
  refine isReported_iff (fun hplaceholder => ?_) (fun hplaceholder => ?_)
  · have hnone : [v].find? isSecretChunk = none := by
      rw [List.find?_singleton, hchunk, hplaceholder]
      rfl
    rw [hissue, hnone]
    rfl
  · have hsome : [v].find? isSecretChunk = some v := by
      rw [List.find?_singleton, hchunk, hplaceholder]
      rfl
    rw [hissue, hsome]
    exact ⟨p.node, _, d.name, "template", rfl⟩

/-- How the two spellings of a credential are judged where a variable starts with them. The literal is
let pass if its password is a placeholder, the template if the whole text is one. If
the issue can be written down at all, both are reported or neither, just if the two tests of a
connection string come out the same. -/
theorem spellings_judged (literal : p.node.string? = some v) (template : IsTemplateOf s' p' v)
    (initializes : isInitializer p = true) (initializes' : isInitializer p' = true)
    (long : leastLength ≤ v.length) (notPublic : ("pk_" : Text).isPrefixOf v = false)
    (trimmed : Text.trim v = v) (credential : isCredential v = true) :
    (IsReported s file p ↔
      isPlaceholder (judged v) = false ∧ v.IsEncodable ∧ (slashed file).IsEncodable) ∧
    (IsReported s' file p' ↔
      isPlaceholder v = false ∧ v.IsEncodable ∧ (slashed file).IsEncodable) ∧
    ((IsReported s file p ↔ IsReported s' file p') ↔
      (v.IsEncodable → (slashed file).IsEncodable → JudgedAlike v)) := by
  have hnonempty : v ≠ [] := by
    rintro rfl
    exact absurd long (by decide)
  have hliteral : IsReported s file p ↔
      isPlaceholder (judged v) = false ∧ v.IsEncodable ∧ (slashed file).IsEncodable :=
    isReported_literal literal initializes long notPublic credential
  have htemplate : IsReported s' file p' ↔
      isPlaceholder v = false ∧ v.IsEncodable ∧ (slashed file).IsEncodable :=
    isReported_template template initializes' hnonempty trimmed credential
  have hsame : ∀ a b : Bool, (a = false ↔ b = false) ↔ a = b := by decide
  refine ⟨hliteral, htemplate, ?_⟩
  rw [hliteral, htemplate, and_congr_left_iff, and_imp, hsame, judgedAlike_iff]

/-! Both spellings of a value in one text. -/

namespace Spelled

instance (s : Script) (p : Place) (v : Text) : Decidable (IsTemplateOf s p v) :=
  decidable_of_iff (p.node.isTemplate = true ∧ p.node.fields .expression = [] ∧
    s.text.slice (p.node.start + 1) (p.node.stop - 1) = v)
    ⟨fun h => ⟨h.1, h.2.1, h.2.2⟩, fun h => ⟨h.isTemplate, h.plain, h.text⟩⟩

/-- Two variables that start with a value, one with a literal and one with a template. -/
def text (v : Text) : Text :=
  ("var a=\"" : Text) ++ v ++ ("\",\nc=`" : Text) ++ v ++ ("`" : Text)

/-- A text that reads the same between the marks of a literal and of a template. -/
def isBare (v : Text) : Bool :=
  v.all (fun c => !("\\'\"`$" : Text).contains c && !isLineEnd c) && v == Text.trim v

/-- A value that is long enough, not public, a credential and the same in both spellings. -/
def isAdmissible (v : Text) : Bool :=
  isBare v && decide (leastLength ≤ v.length) && !("pk_" : Text).isPrefixOf v && isCredential v

def secret : Text := "pg://u:k3y@h"

def value : Text := "pg://u:k3y@example.com"

/-- Whether both spellings of a value are in a script. -/
def isSpelled (s : Script) (v : Text) : Bool :=
  s.places.any (fun p => p.node.string? == some v && isInitializer p) &&
    s.places.any fun p => decide (IsTemplateOf s p v) && isInitializer p

theorem facts : ∀ v ∈ [secret, value], Script.isRead (text v) = true ∧
    isSpelled (Script.ofText (text v)) v = true ∧ isAdmissible v = true ∧ v.IsEncodable := by
  unfold text secret value
  repeat rw [Text.ofString_ofList]
  decide +kernel

theorem exists_spelled {v : Text} (h : isSpelled s v = true) :
    ∃ p ∈ s.places, ∃ p' ∈ s.places, p.node.string? = some v ∧ IsTemplateOf s p' v ∧
      isInitializer p = true ∧ isInitializer p' = true := by
  obtain ⟨hliteral, htemplate⟩ := Bool.and_eq_true_iff.mp h
  obtain ⟨p, hp, hliteral⟩ := List.any_eq_true.mp hliteral
  obtain ⟨p', hp', htemplate⟩ := List.any_eq_true.mp htemplate
  obtain ⟨hstring, hinit⟩ := Bool.and_eq_true_iff.mp hliteral
  obtain ⟨htext, hinit'⟩ := Bool.and_eq_true_iff.mp htemplate
  exact ⟨p, hp, p', hp', eq_of_beq hstring, of_decide_eq_true htext, hinit, hinit'⟩

theorem of_isAdmissible {v : Text} (h : isAdmissible v = true) :
    Text.trim v = v ∧ leastLength ≤ v.length ∧ ("pk_" : Text).isPrefixOf v = false ∧
      isCredential v = true := by
  obtain ⟨h, hcredential⟩ := Bool.and_eq_true_iff.mp h
  obtain ⟨h, hpublic⟩ := Bool.and_eq_true_iff.mp h
  obtain ⟨hbare, hlong⟩ := Bool.and_eq_true_iff.mp h
  have htrim : (v == Text.trim v) = true := (Bool.and_eq_true_iff.mp hbare).2
  rw [Bool.not_eq_true'] at hpublic
  exact ⟨(eq_of_beq htrim).symm, of_decide_eq_true hlong, hpublic, hcredential⟩

end Spelled

/-- Both spellings of a connection string are reported if nothing in it looks like a placeholder. -/
theorem spellings_judged_sample :
    ∃ s p p', Script.parse (Spelled.text Spelled.secret) = .ok (.ok s) ∧ p ∈ s.places ∧
      p' ∈ s.places ∧ p.node.string? = some Spelled.secret ∧ IsTemplateOf s p' Spelled.secret ∧
      isInitializer p = true ∧ isInitializer p' = true ∧
      IsReported s "input.js" p ∧ IsReported s "input.js" p' := by
  obtain ⟨hread, hspelled, hadmissible, hencodable⟩ :=
    Spelled.facts Spelled.secret List.mem_cons_self
  obtain ⟨htrim, hlong, hpublic, hcredential⟩ := Spelled.of_isAdmissible hadmissible
  obtain ⟨p, hp, p', hp', hstring, htemplate, hinit, hinit'⟩ := Spelled.exists_spelled hspelled
  have hfile : (slashed "input.js").IsEncodable := by decide
  obtain ⟨hliteral, -, halike⟩ :=
    spellings_judged hstring htemplate hinit hinit' hlong hpublic htrim hcredential
  have hreported : IsReported (Script.ofText (Spelled.text Spelled.secret)) "input.js" p :=
    hliteral.mpr ⟨by decide, hencodable, hfile⟩
  refine ⟨_, p, p', Script.parse_of_isRead hread, hp, hp', hstring, htemplate, hinit, hinit',
    hreported, (halike.mpr fun _ _ => judgedAlike_iff.mpr ?_).mp hreported⟩
  decide

/-- A connection string can be reported as a literal and missed as a template. The host of this one
looks like a placeholder, and its password does not. -/
theorem missed_in_template :
    ∃ s p p', Script.parse (Spelled.text Spelled.value) = .ok (.ok s) ∧ p ∈ s.places ∧
      p' ∈ s.places ∧ p.node.string? = some Spelled.value ∧ IsTemplateOf s p' Spelled.value ∧
      isInitializer p = true ∧ isInitializer p' = true ∧ Spelled.isAdmissible Spelled.value = true ∧
      (connection? Spelled.value).isSome = true ∧
      IsReported s "input.js" p ∧ ¬ IsReported s "input.js" p' := by
  obtain ⟨hread, hspelled, hadmissible, hencodable⟩ :=
    Spelled.facts Spelled.value (List.mem_cons_of_mem _ List.mem_cons_self)
  obtain ⟨htrim, hlong, hpublic, hcredential⟩ := Spelled.of_isAdmissible hadmissible
  obtain ⟨p, hp, p', hp', hstring, htemplate, hinit, hinit'⟩ := Spelled.exists_spelled hspelled
  have hfile : (slashed "input.js").IsEncodable := by decide
  have hnonempty : Spelled.value ≠ [] := by decide
  refine ⟨_, p, p', Script.parse_of_isRead hread, hp, hp', hstring, htemplate, hinit, hinit',
    hadmissible, by decide, ?_, ?_⟩
  · refine (isReported_literal hstring hinit hlong hpublic hcredential).mpr
      ⟨?_, hencodable, hfile⟩
    decide
  · intro h
    have hplaceholder := ((isReported_template htemplate hinit' hnonempty htrim hcredential).mp h).1
    exact absurd hplaceholder (by decide)

end Secret

end Readiness
