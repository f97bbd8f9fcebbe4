import Readiness.Proofs.ParserSteps
import Readiness.Proofs.SecretRead
import Readiness.Proofs.TemplateText

/-!
# The ends of an expression

An expression inside of brackets is followed by a comma, by the closing bracket, or by
the brace behind which a template goes on. None of these goes on with the expression,
whatever it is (`Token.Closes`), and none of the tokens that a list, a group, a template
or a plain name begins with is taken for an operator (`Token.Leads`). Between two such
tokens the grammar has nothing to decide.

That is a fact about tokens. `Ends` is the text behind an expression, and the lexer
reads one of the closing tokens off it wherever it stands.
-/

namespace Readiness.Script

/-! ## Reading single tokens -/

theorem Token.seen_of_ne {k : Token} (other : k.kind ≠ .identifier) (strict : Bool) :
    k.seen strict = k := by
  rw [Token.seen, beq_eq_false_iff_ne.mpr other, Bool.and_false, Bool.false_and]
  rfl

theorem Token.seen_of_free {k : Token} (free : Token.isStrictReserved k.value = false)
    (strict : Bool) : k.seen strict = k := by
  rw [Token.seen, free, Bool.and_false]
  rfl

theorem lexes_punctuator {x : CodePoint} (h : x ∈ ("([,])" : Text)) (b : List Brace) (r : Text) :
    Lexes (fun k => k.kind = .punctuator ∧ k.value = [x]) b (x :: r) b r := by
  rintro ⟨rest, index, line, lineStart⟩ hc
  cases hc
  have hlex : lex ⟨x :: r, index, line, lineStart⟩ b =
      .ok ⟨Token.between .punctuator [x] ⟨x :: r, index, line, lineStart⟩
        ⟨r, index + 1, line, lineStart⟩, ⟨r, index + 1, line, lineStart⟩, b, []⟩ := by
    have hcases : x = .char '(' ∨ x = .char '[' ∨ x = .char ',' ∨ x = .char ']' ∨
        x = .char ')' := by
      simpa [Text.ofString] using h
    rcases hcases with rfl | rfl | rfl | rfl | rfl <;> rfl
  refine ⟨_, hlex, rfl, Nat.lt_succ_self index, fun strict => ?_, rfl, rfl⟩
  rw [Token.seen_of_ne fun h => by cases h]
  exact ⟨rfl, rfl⟩

theorem templateFrom_index {t : Text} {c : Cursor} {acc : Text} {body : TemplateBody}
    (h : templateFrom t c acc = .ok body) : c.index < body.after.index := by
  fun_induction templateFrom t c acc with
  | case1 | case4 | case7 | case11 | case14 => cases h
  | case2 | case3 =>
      cases h
      exact Nat.lt_add_of_pos_right (by decide)
  | _ =>
      next ih => exact Nat.lt_of_le_of_lt (Nat.le_add_right _ _) (ih h)

/-- What opens a piece of a template: the template itself, or the end of an interpolation. -/
def opener (head : Bool) : CodePoint := if head then backquote else closeBrace

/-- What ends a piece of a template: the template itself, or the start of an interpolation. -/
def ender (tail : Bool) : Text := if tail then [backquote] else [dollar, openBrace]

theorem templateFrom_ender (tail : Bool) (r : Text) (c : Cursor) (acc : Text) :
    templateFrom (ender tail ++ r) c acc =
      .ok ⟨acc.reverse, tail, c.move r (ender tail).length⟩ := by
  cases tail
  · rw [ender, templateFrom.eq_def]
    simp
  · rw [ender, templateFrom.eq_def]
    simp

theorem lexTemplate_requoteInside (head tail : Bool) (t r : Text) (b : List Brace) (x : CodePoint)
    (index line lineStart : Nat) :
    ∃ l, lexTemplate head ⟨x :: (requoteInside backquote t ++ (ender tail ++ r)), index, line,
        lineStart⟩ (if head then b else .interpolation :: b) = .ok l ∧ l.problems = [] ∧
      index < l.after.index ∧ l.braces = (if tail then b else .interpolation :: b) ∧
      l.after.rest = r ∧ l.token.kind = .template ∧ l.token.head = head ∧ l.token.tail = tail ∧
      l.token.cooked = t := by
  have hread := @templateFrom_requoteInside t (ender tail ++ r)
    ⟨requoteInside backquote t ++ (ender tail ++ r), index + 1, line, lineStart⟩ rfl []
  rw [templateFrom_ender, List.append_nil, List.reverse_reverse] at hread
  have hindex := templateFrom_index hread
  have hbody : templateBody (Cursor.skip ⟨x :: (requoteInside backquote t ++ (ender tail ++ r)),
      index, line, lineStart⟩ 1) [] = .ok ⟨t, tail, _⟩ := hread
  rw [lexTemplate, hbody]
  refine ⟨_, rfl, rfl, Nat.lt_trans (Nat.lt_succ_self index) hindex, ?_, rfl, rfl, rfl, rfl, rfl⟩
  cases head <;> cases tail <;> rfl

theorem lexes_template (head tail : Bool) (t r : Text) (b : List Brace) :
    Lexes (fun k => k.kind = .template ∧ k.head = head ∧ k.tail = tail ∧ k.cooked = t)
      (if head then b else .interpolation :: b)
      (opener head :: (requoteInside backquote t ++ (ender tail ++ r)))
      (if tail then b else .interpolation :: b) r := by
  rintro ⟨rest, index, line, lineStart⟩ hc
  cases hc
  obtain ⟨l, hl, hclean, hindex, hbraces, hrest, hkind, hfields⟩ :=
    lexTemplate_requoteInside head tail t r b (opener head) index line lineStart
  refine ⟨l, ?_, hclean, hindex, fun strict => ?_, hbraces, hrest⟩
  · rw [← hl, lex]
    cases head <;> rfl
  · rw [Token.seen_of_ne (by rw [hkind]; nofun)]
    exact ⟨hkind, hfields⟩

/-! ## Tokens at the ends of an expression -/

/-- A token that begins a list, a group, a template or a plain name. -/
structure Token.Leads (t : Token) : Prop where
  notKeyword : t.kind ≠ .keyword
  bracket : t.kind = .punctuator → t.value ∈ Text.ofStrings ["[", "("]
  plain : t.kind = .identifier → t.value ≠ "async" ∧ t.value ≠ "await"

/-- A token that no expression goes on with: between or behind the items of a list, or a piece of a
template behind an interpolation. -/
def Token.Closes (t : Token) : Prop :=
  t.kind = .punctuator ∧ t.value ∈ Text.ofStrings [",", "]", ")"] ∨
    t.kind = .template ∧ t.head = false

namespace Token

variable {t : Token}

theorem Leads.isWord (h : t.Leads) (v : Text) : t.isWord v = false := by
  rw [Token.isWord, beq_eq_false_iff_ne.mpr h.notKeyword, Bool.false_and]

theorem Leads.isPunct (h : t.Leads) {v : Text} (other : v ∉ Text.ofStrings ["[", "("]) :
    t.isPunct v = false := by
  rw [Token.isPunct, Bool.and_eq_false_iff, beq_eq_false_iff_ne, beq_eq_false_iff_ne]
  by_cases hkind : t.kind = .punctuator
  · exact .inr (ne_of_mem_of_not_mem (h.bracket hkind) other)
  · exact .inl hkind

theorem Leads.isName (h : t.Leads) {v : Text} (special : v = "async" ∨ v = "await") :
    t.isName v = false := by
  rw [Token.isName, Bool.and_eq_false_iff, beq_eq_false_iff_ne, beq_eq_false_iff_ne]
  by_cases hkind : t.kind = .identifier
  · rcases special with rfl | rfl
    · exact .inr (h.plain hkind).1
    · exact .inr (h.plain hkind).2
  · exact .inl hkind

theorem Closes.isWord (h : t.Closes) (v : Text) : t.isWord v = false := by
  rcases h with ⟨hkind, -⟩ | ⟨hkind, -⟩ <;> rw [Token.isWord, hkind] <;> rfl

theorem Closes.isPunct (h : t.Closes) {v : Text} (other : v ∉ Text.ofStrings [",", "]", ")"]) :
    t.isPunct v = false := by
  rcases h with ⟨hkind, hvalue⟩ | ⟨hkind, -⟩
  · rw [Token.isPunct, beq_eq_false_iff_ne.mpr (ne_of_mem_of_not_mem hvalue other), Bool.and_false]
  · rw [Token.isPunct, hkind]
    rfl

theorem Closes.noTemplate (h : t.Closes) : (t.kind == .template && t.head) = false := by
  rcases h with ⟨hkind, -⟩ | ⟨-, hhead⟩
  · rw [hkind]
    rfl
  · rw [hhead, Bool.and_false]

theorem mem_closing {v : Text} (h : v ∈ Text.ofStrings [",", "]", ")"]) :
    v = "," ∨ v = "]" ∨ v = ")" := by
  simpa only [Text.ofStrings, List.map_cons, List.map_nil, List.mem_cons, List.not_mem_nil,
    or_false] using h

theorem Closes.precedence (h : t.Closes) (allowIn : Bool) : Parser.precedence t allowIn = 0 := by
  rcases h with ⟨hkind, hvalue⟩ | ⟨hkind, -⟩
  · rw [Parser.precedence, hkind]
    rcases mem_closing hvalue with h | h | h <;> rw [h] <;> rfl
  · rw [Parser.precedence, hkind]

theorem Closes.assigns (h : t.Closes) : Parser.assigns t = false := by
  rcases h with ⟨hkind, hvalue⟩ | ⟨hkind, -⟩
  · rw [Parser.assigns, hkind]
    rcases mem_closing hvalue with h | h | h <;> rw [h] <;> rfl
  · rw [Parser.assigns, hkind]
    rfl

end Token

/-! ## The text behind an expression -/

/-- What may follow an expression inside of brackets: the next item of a list, the end of the list,
or the rest of a template that interpolates the expression. -/
inductive Ends : List Brace → Text → Prop
  | item {x : CodePoint} (closing : x = ',' ∨ x = ']' ∨ x = ')') (b : List Brace) (r : Text) :
      Ends b (x :: r)
  | interpolation (tail : Bool) (t r : Text) (b : List Brace) :
      Ends (.interpolation :: b) (closeBrace :: (requoteInside backquote t ++ (ender tail ++ r)))

theorem Ends.begins {b : List Brace} {r : Text} (h : Ends b r) : Begins Token.Closes b r := by
  cases h with
  | @item x closing _ r =>
      have hbracket : x ∈ ("([,])" : Text) := by
        rcases closing with rfl | rfl | rfl <;> decide
      refine (lexes_punctuator hbracket b r).begins.imp fun k hk => .inl ⟨hk.1, ?_⟩
      rw [hk.2]
      rcases closing with rfl | rfl | rfl <;> decide
  | interpolation tail t r b =>
      exact (lexes_template false tail t r b).begins.imp fun k hk => .inr ⟨hk.1, hk.2.1⟩

theorem Ends.exists_cons {b : List Brace} {r : Text} (h : Ends b r) :
    ∃ x more, r = x :: more ∧ (x = ',' ∨ x = ']' ∨ x = ')' ∨ x = '\x7d') := by
  cases h with
  | item closing b r => exact ⟨_, _, rfl, closing.imp_right fun h => h.imp_right .inl⟩
  | interpolation tail t r b => exact ⟨_, _, rfl, .inr (.inr (.inr rfl))⟩

theorem Ends.solid {b : List Brace} {r : Text} (h : Ends b r) : Solid r := by
  obtain ⟨x, more, rfl, hx⟩ := h.exists_cons
  rcases hx with rfl | rfl | rfl | rfl <;> exact solid_cons (by decide) rfl rfl more

/-! ## Names -/

/-- The numbers of the characters that stand between tokens on one line. -/
def gapNumbers : List Nat :=
  [0x20, 0x09, 0x0B, 0x0C, 0xA0, 0x1680, 0x180E, 0x202F, 0x205F, 0x3000, 0xFEFF] ++
    List.range' 0x2000 11

theorem mem_gapNumbers {x : CodePoint} (h : isGap x = true) : x.toNat ∈ gapNumbers := by
  simp only [isGap, Bool.or_eq_true, beq_iff_eq, Bool.and_eq_true, decide_eq_true_iff] at h
  simp only [gapNumbers, List.mem_append, List.mem_cons, List.not_mem_nil, List.mem_range'_1]
  omega

/-- The other characters that line breaks and comments begin with. -/
def triviaMarks : Text :=
  [.char '\r', .char '/', .char '-', .char '<', .char '\n', .char '\u2028', .char '\u2029']

theorem not_isIdentifierStart : (∀ n ∈ gapNumbers, isIdentifierStart (.ofNat n) = false) ∧
    ∀ x ∈ triviaMarks, isIdentifierStart x = false := by
  decide +kernel

theorem solid_identifier {x : CodePoint} (h : isIdentifierStart x = true) (r : Text) :
    Solid (x :: r) := by
  have hgap : isGap x = false := by
    rw [Bool.eq_false_iff]
    intro hgap
    have hnone := not_isIdentifierStart.1 x.toNat (mem_gapNumbers hgap)
    rw [CodePoint.ofNat_toNat, h] at hnone
    cases hnone
  have hmark : x ∉ triviaMarks := by
    intro hmem
    rw [not_isIdentifierStart.2 x hmem] at h
    cases h
  simp only [triviaMarks, List.mem_cons, List.not_mem_nil, or_false, not_or] at hmark
  refine solid_cons ?_ hgap ?_ r
  · simp [hmark]
  · simp [isLineBreak, hmark]

/-- A name that is read as itself wherever an expression may stand. -/
structure PlainName (name : Text) : Prop where
  start : ∃ x more, name = x :: more ∧ isIdentifierStart x = true
  word : IsWord name
  noKeyword : classOfName name name.length = .identifier
  free : Token.isStrictReserved name = false
  plain : name ≠ "async" ∧ name ≠ "await"

theorem Ends.endsName {b : List Brace} {r : Text} (h : Ends b r) : EndsName r := by
  obtain ⟨y, more, rfl, hy⟩ := h.exists_cons
  intro x hx
  cases hx
  rcases hy with rfl | rfl | rfl | rfl <;> rfl

theorem PlainName.lex {name : Text} (h : PlainName name) {r : Text} (stop : EndsName r)
    {c : Cursor} (here : c.rest = name ++ r) (b : List Brace) :
    Script.lex c b = .ok ⟨Token.between .identifier name c (c.move r name.length),
      c.move r name.length, b, []⟩ := by
  have hname : lexName c b = .ok ⟨Token.between .identifier name c (c.move r name.length),
      c.move r name.length, b, []⟩ := by
    rw [lexName, identifierName_of_append here h.word stop]
    simp only [bind, Except.bind, h.noKeyword]
    rfl
  obtain ⟨x, more, rfl, hx⟩ := h.start
  rw [Script.lex, here]
  exact (if_pos hx).trans hname

theorem lexes_word {name : Text} (h : PlainName name) {b : List Brace} {r : Text}
    (stop : EndsName r) :
    Lexes (fun k => k.kind = .identifier ∧ k.value = name) b (name ++ r) b r := by
  intro c hc
  refine ⟨_, h.lex stop hc b, rfl, ?_, fun strict => ?_, rfl, rfl⟩
  · obtain ⟨x, more, rfl, -⟩ := h.start
    exact Nat.lt_add_of_pos_right (Nat.succ_pos _)
  · rw [Token.seen_of_free (show Token.isStrictReserved name = false from h.free)]
    exact ⟨rfl, rfl⟩

theorem lexes_name {name : Text} (h : PlainName name) {b : List Brace} {r : Text}
    (ends : Ends b r) :
    Lexes (fun k => k.kind = .identifier ∧ k.value = name) b (name ++ r) b r :=
  lexes_word h ends.endsName

end Readiness.Script
