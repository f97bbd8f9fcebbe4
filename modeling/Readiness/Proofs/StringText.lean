import Readiness.Proofs.TemplateText
import Readiness.Script.Lexer

/-!
# What a string literal denotes

`requote` writes a text as a literal in one of the two quotes of strings, and the
lexer reads the literal back as one token with that text for a value
(`lex_requote`). The reader differs from that of templates in two ways only: a line
break ends it, where a template goes on, and the other quote is nothing to it.
-/

namespace Readiness.Script

/-- The characters that delimit strings. -/
def IsStringQuote (q : CodePoint) : Prop := q = .char '\'' ∨ q = .char '"'

section Reading

variable {quote : CodePoint} {start : Nat} {octal : Bool} {problems : List Problem}

theorem stringFrom_plain {x : CodePoint} (notQuote : x ≠ quote) (notBackslash : x ≠ backslash)
    (onLine : isLineBreak x = false) (r : Text) (c : Cursor) (acc : Text) :
    stringFrom quote start (x :: r) c acc octal problems =
      stringFrom quote start r (c.move r 1) (x :: acc) octal problems := by
  rw [stringFrom.eq_def]
  simp [notQuote, notBackslash, onLine]

theorem stringFrom_letter (isQuote : IsStringQuote quote) {e d : CodePoint}
    (letter : letterEscape? e = some d) (onLine : isLineBreak e = false) (notCode : e ≠ .char 'u')
    (notByte : e ≠ .char 'x') (r : Text) (c : Cursor) (acc : Text) :
    stringFrom quote start (backslash :: e :: r) c acc octal problems =
      stringFrom quote start r (c.move r 2) (d :: acc) octal problems := by
  have notQuote : backslash ≠ quote := by rcases isQuote with rfl | rfl <;> decide
  rw [stringFrom.eq_def]
  simp [notQuote, onLine, notCode, notByte, letter]

theorem stringFrom_itself (isQuote : IsStringQuote quote) {e : CodePoint}
    (letter : letterEscape? e = none) (onLine : isLineBreak e = false) (notCode : e ≠ .char 'u')
    (notByte : e ≠ .char 'x') (noDigit : isOctalDigit e = false)
    (notHigh : e ≠ .char '8' ∧ e ≠ .char '9') (r : Text) (c : Cursor) (acc : Text) :
    stringFrom quote start (backslash :: e :: r) c acc octal problems =
      stringFrom quote start r (c.move r 2) (e :: acc) octal problems := by
  have notQuote : backslash ≠ quote := by rcases isQuote with rfl | rfl <;> decide
  rw [stringFrom.eq_def]
  simp [notQuote, onLine, notCode, notByte, letter, noDigit, notHigh.1, notHigh.2]

theorem stringFrom_code (isQuote : IsStringQuote quote) {a d : CodePoint} {k : Nat}
    {digits r : Text} (code : fixedEscape 4 (a :: digits) = .char d k r) (noBrace : a ≠ openBrace)
    (c : Cursor) (acc : Text) :
    stringFrom quote start (backslash :: .char 'u' :: a :: digits) c acc octal problems =
      stringFrom quote start r (c.move r (k + 2)) (d :: acc) octal problems := by
  have notQuote : backslash ≠ quote := by rcases isQuote with rfl | rfl <;> decide
  have onLine : isLineBreak (.char 'u') = false := rfl
  rw [stringFrom.eq_def]
  simp only [beq_iff_eq, notQuote, if_false, beq_self_eq_true, if_true, onLine,
    Bool.false_eq_true]
  split
  · next heq =>
      cases heq
      exact absurd rfl noBrace
  · split
    · next hcode =>
        cases code.symm.trans hcode
        rfl
    · next hcode => cases code.symm.trans hcode

/-- A character that was written for a string reads as itself. -/
theorem stringFrom_requoteChar (isQuote : IsStringQuote quote) (x : CodePoint) (r : Text)
    (c : Cursor) (acc : Text) :
    stringFrom quote start (requoteChar quote x ++ r) c acc octal problems =
      stringFrom quote start r (c.move r (requoteChar quote x).length) (x :: acc) octal
        problems := by
  by_cases hbackslash : x = backslash
  · subst hbackslash
    exact stringFrom_itself isQuote rfl rfl (by decide) (by decide) rfl (by decide) r c acc
  by_cases hfeed : x = .char '\n'
  · subst hfeed
    exact stringFrom_letter isQuote rfl rfl (by decide) (by decide) r c acc
  by_cases hreturn : x = .char '\r'
  · subst hreturn
    exact stringFrom_letter isQuote rfl rfl (by decide) (by decide) r c acc
  by_cases htab : x = .char '\t'
  · subst htab
    exact stringFrom_letter isQuote rfl rfl (by decide) (by decide) r c acc
  by_cases hline : x = .char '\u2028'
  · subst hline
    exact stringFrom_code isQuote rfl (by decide) c acc
  by_cases hparagraph : x = .char '\u2029'
  · subst hparagraph
    exact stringFrom_code isQuote rfl (by decide) c acc
  by_cases hquote : x = quote
  · have hescaped : requoteChar quote x = [backslash, quote] := by
      rw [hquote]
      rcases isQuote with rfl | rfl <;> rfl
    rw [hescaped, hquote]
    rcases isQuote with rfl | rfl
    · exact stringFrom_itself (.inl rfl) rfl rfl (by decide) (by decide) rfl (by decide) r c acc
    · exact stringFrom_itself (.inr rfl) rfl rfl (by decide) (by decide) rfl (by decide) r c acc
  have hnoTemplate : (quote == backquote) = false := by
    rcases isQuote with rfl | rfl <;> decide
  have hsame : requoteChar quote x = [x] := by
    simp [requoteChar, hbackslash, hfeed, hreturn, htab, hline, hparagraph, hquote, hnoTemplate]
  have honLine : isLineBreak x = false := by
    simp [isLineBreak, hfeed, hreturn, hline, hparagraph]
  rw [hsame]
  exact stringFrom_plain hquote hbackslash honLine r c acc

/-- A text that was written for a string reads as itself, and the reader stays on its line. -/
theorem stringFrom_requoteInside (isQuote : IsStringQuote quote) (t r : Text) {c : Cursor}
    (here : c.rest = requoteInside quote t ++ r) (acc : Text) :
    stringFrom quote start (requoteInside quote t ++ r) c acc octal problems =
      stringFrom quote start r (c.move r (requoteInside quote t).length) (t.reverse ++ acc) octal
        problems := by
  induction t generalizing c acc with
  | nil =>
      cases here
      rfl
  | cons x t ih =>
      have hcons : requoteInside quote (x :: t) =
          requoteChar quote x ++ requoteInside quote t := rfl
      rw [hcons, List.append_assoc, stringFrom_requoteChar isQuote, ih rfl, Cursor.move_move,
        List.length_append, List.reverse_cons, List.append_assoc, List.singleton_append]

end Reading

/-- What was written as a string literal is one token, whose value is the text. It ends with the
closing quote, on the line on which it starts. -/
theorem lex_requote {quote : CodePoint} (isQuote : IsStringQuote quote) (t : Text) {c : Cursor}
    {more : Text} (here : c.rest = requote quote t ++ more) (braces : List Brace) :
    lex c braces = .ok ⟨Token.between .string t c (c.move more (requote quote t).length),
      c.move more (requote quote t).length, braces, []⟩ := by
  have hbody : c.rest = quote :: (requoteInside quote t ++ quote :: more) := by
    rw [here, requote]
    simp
  have hskip : c.skip 1 = c.move (requoteInside quote t ++ quote :: more) 1 := by
    rw [Cursor.skip, hbody]
    rfl
  have hclose (c' : Cursor) : stringFrom quote c.index (quote :: more) c' (t.reverse ++ []) false
      [] = .ok ⟨t, false, [], c'.move more 1⟩ := by
    rw [stringFrom.eq_def]
    simp
  have hlength : 1 + (requoteInside quote t).length + 1 = (requote quote t).length := by
    rw [requote, List.length_append, List.length_cons, List.length_singleton]
    omega
  have hread : stringBody quote c.index (c.skip 1) [] false [] =
      .ok ⟨t, false, [], c.move more (requote quote t).length⟩ := by
    rw [hskip, ← hlength, ← Cursor.move_move, ← Cursor.move_move c (quote :: more)]
    exact (stringFrom_requoteInside isQuote t (quote :: more) rfl []).trans (hclose _)
  have hstring : lexString quote c braces =
      .ok ⟨Token.between .string t c (c.move more (requote quote t).length),
        c.move more (requote quote t).length, braces, []⟩ := by
    rw [lexString, hread]
    rfl
  rw [lex, hbody]
  rcases isQuote with rfl | rfl
  · exact hstring
  · exact hstring

/-- A text that is one string literal, and what it denotes. -/
def Denotes (literal t : Text) : Prop :=
  ∃ after, after.rest = [] ∧ lex (Cursor.start literal) [] =
    .ok ⟨Token.between .string t (Cursor.start literal) after, after, [], []⟩

theorem denotes_requote {quote : CodePoint} (isQuote : IsStringQuote quote) (t : Text) :
    Denotes (requote quote t) t :=
  ⟨_, rfl, lex_requote isQuote t (List.append_nil _).symm []⟩

theorem Denotes.unique {literal t u : Text} (h : Denotes literal t) (h' : Denotes literal u) :
    t = u := by
  obtain ⟨after, -, hlex⟩ := h
  obtain ⟨after', -, hlex'⟩ := h'
  have hlexeme := Except.ok.inj (hlex.symm.trans hlex')
  exact congrArg (fun l => l.token.value) hlexeme

end Readiness.Script
