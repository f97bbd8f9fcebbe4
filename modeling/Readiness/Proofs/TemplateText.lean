import Readiness.Script.Quoted
import Readiness.Script.Requote

/-!
# What a template comes to

A template is read in stretches: text up to its closing quote or up to an
interpolation, then the expression, then text again. `TemplateValue` is what comes of
it for given values of expressions, with `templateFrom`, the scanner's own reader, to
say what the text between interpolations denotes. Where an expression ends is a matter
of the grammar; here it is one of the expressions at hand, up to the brace behind it.
Where no expression has a brace of its own that leaves one value at most, so whatever
values expressions have, templates have values that go with them (`exists_valuation`).

What is written by `requoteInside` for a template is read back by that reader
character for character (`templateFrom_requoteInside`). The escapes are there for just
three reasons: a character would end the text, start an interpolation, or break the
line.
-/

namespace Readiness.Script

/-- The quote of templates. -/
abbrev backquote : CodePoint := .char '`'

abbrev dollar : CodePoint := .char '$'

abbrev backslash : CodePoint := .char '\\'

abbrev openBrace : CodePoint := .char '\x7b'

abbrev closeBrace : CodePoint := .char '\x7d'

/-! ## Reading back what was written -/

theorem Cursor.move_move (c : Cursor) (r r' : Text) (n m : Nat) :
    (c.move r n).move r' m = c.move r' (n + m) := by
  simp only [Cursor.move, Nat.add_assoc]

theorem templateFrom_plain {x : CodePoint} (notQuote : x ≠ backquote) (notDollar : x ≠ dollar)
    (notBackslash : x ≠ backslash) (onLine : isLineBreak x = false) (r : Text) (c : Cursor)
    (acc : Text) : templateFrom (x :: r) c acc = templateFrom r (c.move r 1) (x :: acc) := by
  rw [templateFrom.eq_def]
  split
  · next heq => cases heq
  · next heq =>
      cases heq
      exact absurd rfl notQuote
  · next heq =>
      cases heq
      exact absurd rfl notDollar
  · next heq =>
      cases heq
      exact absurd rfl notBackslash
  · next heq =>
      cases heq
      rw [onLine]
      rfl

theorem templateFrom_letter {e d : CodePoint} (letter : letterEscape? e = some d)
    (onLine : isLineBreak e = false) (notCode : e ≠ .char 'u') (notByte : e ≠ .char 'x') (r : Text)
    (c : Cursor) (acc : Text) :
    templateFrom (backslash :: e :: r) c acc = templateFrom r (c.move r 2) (d :: acc) := by
  rw [templateFrom.eq_def]
  simp [onLine, notCode, notByte, letter]

/-- A character that has no escape of its own stands for itself behind a backslash. -/
theorem templateFrom_itself {e : CodePoint} (letter : letterEscape? e = none)
    (onLine : isLineBreak e = false) (notCode : e ≠ .char 'u') (notByte : e ≠ .char 'x')
    (noDigit : isOctalDigit e = false) (notZero : e ≠ .char '0') (r : Text) (c : Cursor)
    (acc : Text) :
    templateFrom (backslash :: e :: r) c acc = templateFrom r (c.move r 2) (e :: acc) := by
  rw [templateFrom.eq_def]
  simp [onLine, notCode, notByte, letter, noDigit, notZero]

/-- The escape of a code point by its number. -/
theorem templateFrom_code {a d : CodePoint} {k : Nat} {digits r : Text}
    (code : fixedEscape 4 (a :: digits) = .char d k r) (noBrace : a ≠ openBrace) (c : Cursor)
    (acc : Text) :
    templateFrom (backslash :: .char 'u' :: a :: digits) c acc =
      templateFrom r (c.move r (k + 2)) (d :: acc) := by
  have onLine : isLineBreak (.char 'u') = false := rfl
  rw [templateFrom.eq_def]
  simp only [onLine, Bool.false_eq_true, if_false, beq_self_eq_true, if_true]
  split
  · next heq =>
      cases heq
      exact absurd rfl noBrace
  · split
    · next hcode =>
        cases code.symm.trans hcode
        rfl
    · next hcode => cases code.symm.trans hcode

theorem templateFrom_requoteChar (x : CodePoint) (r : Text) (c : Cursor) (acc : Text) :
    templateFrom (requoteChar backquote x ++ r) c acc =
      templateFrom r (c.move r (requoteChar backquote x).length) (x :: acc) := by
  by_cases hbackslash : x = backslash
  · subst hbackslash
    exact templateFrom_itself rfl rfl (by decide) (by decide) rfl (by decide) r c acc
  by_cases hfeed : x = .char '\n'
  · subst hfeed
    exact templateFrom_letter rfl rfl (by decide) (by decide) r c acc
  by_cases hreturn : x = .char '\r'
  · subst hreturn
    exact templateFrom_letter rfl rfl (by decide) (by decide) r c acc
  by_cases htab : x = .char '\t'
  · subst htab
    exact templateFrom_letter rfl rfl (by decide) (by decide) r c acc
  by_cases hline : x = .char '\u2028'
  · subst hline
    exact templateFrom_code rfl (by decide) c acc
  by_cases hparagraph : x = .char '\u2029'
  · subst hparagraph
    exact templateFrom_code rfl (by decide) c acc
  by_cases hquote : x = backquote
  · subst hquote
    exact templateFrom_itself rfl rfl (by decide) (by decide) rfl (by decide) r c acc
  by_cases hdollar : x = dollar
  · subst hdollar
    exact templateFrom_itself rfl rfl (by decide) (by decide) rfl (by decide) r c acc
  have hsame : requoteChar backquote x = [x] := by
    simp [requoteChar, hbackslash, hfeed, hreturn, htab, hline, hparagraph, hquote, hdollar]
  have honLine : isLineBreak x = false := by
    simp [isLineBreak, hfeed, hreturn, hline, hparagraph]
  rw [hsame]
  exact templateFrom_plain hquote hdollar hbackslash honLine r c acc

/-- A text that was written for a template reads as itself, and the reader stays on its line. -/
theorem templateFrom_requoteInside (t r : Text) {c : Cursor}
    (here : c.rest = requoteInside backquote t ++ r) (acc : Text) :
    templateFrom (requoteInside backquote t ++ r) c acc =
      templateFrom r (c.move r (requoteInside backquote t).length) (t.reverse ++ acc) := by
  induction t generalizing c acc with
  | nil =>
      cases here
      rfl
  | cons x t ih =>
      have hcons : requoteInside backquote (x :: t) =
          requoteChar backquote x ++ requoteInside backquote t := rfl
      rw [hcons, List.append_assoc, templateFrom_requoteChar, ih rfl, Cursor.move_move,
        List.length_append, List.reverse_cons, List.append_assoc, List.singleton_append]

/-! ## Values of templates -/

/-- What a template comes to from behind its opening quote, or from behind an interpolation, for the
given values of the expressions that may be interpolated. -/
inductive TemplateValue (expressions : List Text) (value : Text → Text) : Text → Text → Prop
  | last {t cooked : Text} {after : Cursor}
      (read : templateFrom t (Cursor.start t) [] = .ok ⟨cooked, true, after⟩)
      (whole : after.rest = []) : TemplateValue expressions value t cooked
  | interpolated {t cooked source more v : Text} {after : Cursor}
      (read : templateFrom t (Cursor.start t) [] = .ok ⟨cooked, false, after⟩)
      (expression : source ∈ expressions)
      (interpolation : after.rest = source ++ closeBrace :: more)
      (rest : TemplateValue expressions value more v) :
      TemplateValue expressions value t (cooked ++ value source ++ v)

/-- Texts and expressions in a template: what was written for the text is its text. -/
theorem templateValue_interpolated {expressions : List Text} {value : Text → Text}
    {source more v : Text} (t : Text) (expression : source ∈ expressions)
    (rest : TemplateValue expressions value more v) :
    TemplateValue expressions value
      (requoteInside backquote t ++ dollar :: openBrace :: (source ++ closeBrace :: more))
      (t ++ value source ++ v) := by
  have hopen (c : Cursor) : templateFrom (dollar :: openBrace :: (source ++ closeBrace :: more)) c
      (t.reverse ++ []) = .ok ⟨t, false, c.move (source ++ closeBrace :: more) 2⟩ := by
    rw [templateFrom.eq_def]
    simp
  exact .interpolated ((templateFrom_requoteInside t _ rfl []).trans (hopen _)) expression rfl rest

theorem templateValue_last {expressions : List Text} {value : Text → Text} (t : Text) :
    TemplateValue expressions value (requoteInside backquote t ++ [backquote]) t := by
  have hclose (c : Cursor) :
      templateFrom [backquote] c (t.reverse ++ []) = .ok ⟨t, true, c.move [] 1⟩ := by
    rw [templateFrom.eq_def]
    simp
  exact .last ((templateFrom_requoteInside t [backquote] rfl []).trans (hclose _)) rfl

/-- What a source text comes to that is one of the expressions, or a template of them. -/
inductive Evaluates (expressions : List Text) (value : Text → Text) : Text → Text → Prop
  | expression {source : Text} (known : source ∈ expressions) :
      Evaluates expressions value source (value source)
  | template {t v : Text} (whole : TemplateValue expressions value t v) :
      Evaluates expressions value (backquote :: t) v

/-- Values that are given to templates as well are what source texts come to. -/
theorem Evaluates.eq_value {expressions : List Text} {value : Text → Text}
    (law : ∀ t v, TemplateValue expressions value t v → value (backquote :: t) = v) {t v : Text}
    (h : Evaluates expressions value t v) : v = value t := by
  cases h with
  | expression => rfl
  | template whole => exact (law _ _ whole).symm

/-- The value depends on those of the expressions only. -/
theorem TemplateValue.congr {expressions : List Text} {value value' : Text → Text}
    (same : ∀ source ∈ expressions, value source = value' source) {t v : Text}
    (h : TemplateValue expressions value t v) : TemplateValue expressions value' t v := by
  induction h with
  | last read whole => exact .last read whole
  | interpolated read expression interpolation _ ih =>
      rw [same _ expression]
      exact .interpolated read expression interpolation ih

/-- An expression without braces ends at the first one. -/
theorem source_unique {source source' more more' : Text} (plain : closeBrace ∉ source)
    (plain' : closeBrace ∉ source')
    (same : source ++ closeBrace :: more = source' ++ closeBrace :: more') :
    source = source' ∧ more = more' := by
  have hfirst : ∀ t rest : Text, closeBrace ∉ t →
      (t ++ closeBrace :: rest).takeWhile (· != closeBrace) = t := by
    intro t rest ht
    rw [List.takeWhile_append_of_pos fun c hc => bne_iff_ne.mpr (ne_of_mem_of_not_mem hc ht)]
    simp
  have hsource : source = source' := by
    rw [← hfirst source more plain, same, hfirst source' more' plain']
  subst hsource
  exact ⟨rfl, (List.cons.inj (List.append_cancel_left same)).2⟩

/-- Where no expression has a brace, a template has one value. -/
theorem TemplateValue.unique {expressions : List Text} {value : Text → Text}
    (plain : ∀ source ∈ expressions, closeBrace ∉ source) {t v v' : Text}
    (h : TemplateValue expressions value t v) (h' : TemplateValue expressions value t v') :
    v = v' := by
  induction h generalizing v' with
  | last read whole =>
      cases h' with
      | last read' whole' =>
          cases read.symm.trans read'
          rfl
      | interpolated read' => cases read.symm.trans read'
  | interpolated read expression interpolation _ ih =>
      cases h' with
      | last read' => cases read.symm.trans read'
      | interpolated read' expression' interpolation' rest' =>
          cases read.symm.trans read'
          obtain ⟨rfl, rfl⟩ := source_unique (plain _ expression) (plain _ expression')
            (interpolation.symm.trans interpolation')
          rw [ih rest']

/-- There are values for all source texts that follow those of templates, whatever the values of
the expressions are. -/
theorem exists_valuation {expressions : List Text}
    (plain : ∀ source ∈ expressions, closeBrace ∉ source ∧ source.head? ≠ some backquote)
    (values : Text → Text) :
    ∃ value : Text → Text, (∀ source ∈ expressions, value source = values source) ∧
      ∀ t v, TemplateValue expressions value t v → value (backquote :: t) = v := by
  classical
  let value (t : Text) : Text :=
    if t ∈ expressions then values t
    else if h : ∃ v, TemplateValue expressions values t.tail v then h.choose else []
  have hvalue : ∀ source ∈ expressions, value source = values source :=
    fun source hsource => if_pos hsource
  refine ⟨value, hvalue, fun t v h => ?_⟩
  have ht : backquote :: t ∉ expressions := fun hmem => (plain _ hmem).2 rfl
  have hv : TemplateValue expressions values t v := h.congr hvalue
  have hsome : ∃ v, TemplateValue expressions values (backquote :: t).tail v := ⟨v, hv⟩
  have hchosen : value (backquote :: t) = hsome.choose := (if_neg ht).trans (dif_pos hsome)
  rw [hchosen]
  exact hsome.choose_spec.unique (fun source hsource => (plain source hsource).1) hv

end Readiness.Script
