import Readiness.Proofs.StringText
import Readiness.Proofs.SumValue

/-!
# Queries without values

A query that is joined from strings, numbers and templates that interpolate nothing
has no parameters, and its repair is a literal for the whole text. The literal
denotes the texts of the terms, one after the other, and that is the value of the
query as far as strings and templates go: both are taken for what they denote, and
`requote` writes down what the lexer reads back.

A number is taken as it is written. It joins a text as it is shown, which is the same
for `10` and not for `0x10`. So the value is kept where all numbers are written the
way they are shown (`parameterized_constant`), and where one is not, the query that
runs afterwards is another one.
-/

namespace Readiness.Query

open Script

variable {N : Type}

/-- An expression joined from strings, numbers and templates without interpolations, in which no sum
is one of numbers alone. -/
inductive Constant : Node → Prop
  | string {n : Node} {t : Text} (string : n.string? = some t) : Constant n
  | number {n : Node} (number : isNumber n = true) : Constant n
  | template {n q : Node} (isTemplate : n.isTemplate = true) (text : n.fields .quasi = [q])
      (plain : n.fields .expression = []) : Constant n
  | sum {span : Span} {l r : Role} {left right : Node} (constantLeft : Constant left)
      (constantRight : Constant right) (text : (hasString left || hasString right) = true) :
      Constant (.mk (.binary "+") span [(l, left), (r, right)])

/-- What a term without values adds to the text of its query: a number stands as it is written. -/
def writtenText (s : Script) (p : Node) : Text :=
  match p.string? with
  | some t => t
  | none => if isNumber p then s.textOf p else (p.fields .quasi).flatMap cookedText

theorem not_isTemplate_of_literal {n : Node} {v : Literal} (h : n.kind = .literal v) :
    n.isTemplate = false := by
  rw [Node.isTemplate, h]

theorem not_literal_of_isTemplate {n : Node} (h : n.isTemplate = true) :
    n.string? = none ∧ isNumber n = false := by
  rw [Node.isTemplate] at h
  split at h
  · next hkind => simp [Node.string?, isNumber, hkind]
  · cases h

theorem Constant.built {n : Node} (h : Constant n) : Built n := by
  induction h with
  | string hstring =>
      have hkind := kind_of_string? hstring
      exact .operand (isSum_of_literal hkind) (not_isTemplate_of_literal hkind)
  | number hnumber =>
      obtain ⟨x, hkind⟩ := exists_of_isNumber hnumber
      exact .operand (isSum_of_literal hkind) (not_isTemplate_of_literal hkind)
  | template isTemplate text plain => exact .template isTemplate (by rw [text, plain]; rfl)
  | sum _ _ _ ihLeft ihRight => exact .sum ihLeft ihRight

/-- The terms of a constant are its strings, numbers and templates. -/
theorem Constant.terms {n p : Node} (h : Constant n) (mem : p ∈ terms n) :
    Constant p ∧ isSum p = false := by
  induction h with
  | @string n t hstring =>
      have hsum := isSum_of_literal (kind_of_string? hstring)
      rw [terms_of_noSum hsum, List.mem_singleton] at mem
      subst mem
      exact ⟨.string hstring, hsum⟩
  | number hnumber =>
      obtain ⟨x, hkind⟩ := exists_of_isNumber hnumber
      rw [terms_of_noSum (isSum_of_literal hkind), List.mem_singleton] at mem
      subst mem
      exact ⟨.number hnumber, isSum_of_literal hkind⟩
  | template isTemplate text plain =>
      rw [terms_of_noSum (isSum_of_isTemplate isTemplate), List.mem_singleton] at mem
      subst mem
      exact ⟨.template isTemplate text plain, isSum_of_isTemplate isTemplate⟩
  | sum _ _ text ihLeft ihRight =>
      rw [terms_sum, text, if_pos rfl] at mem
      rcases List.mem_append.mp mem with hleft | hright
      · exact ihLeft hleft
      · exact ihRight hright

theorem Constant.addPart (s : Script) {p : Node} (h : Constant p) (noSum : isSum p = false)
    (acc : List Piece) : addPart s acc p = Piece.addText (writtenText s p) acc := by
  rw [Query.addPart, writtenText]
  cases h with
  | string hstring => rw [hstring]
  | number hnumber =>
      obtain ⟨x, hkind⟩ := exists_of_isNumber hnumber
      have hnone : p.string? = none := by rw [Node.string?, hkind]
      rw [hnone, hnumber]
      rfl
  | template isTemplate text plain =>
      obtain ⟨hnone, hnumber⟩ := not_literal_of_isTemplate isTemplate
      rw [hnone, hnumber, isTemplate, text, plain, List.flatMap_singleton]
      exact addTemplate_last s _ acc
  | sum => cases noSum

theorem foldl_addPart_constant (s : Script) {ps : List Node}
    (constant : ∀ p ∈ ps, Constant p ∧ isSum p = false) (u : Text) :
    ps.foldl (addPart s) [.text u] = [.text (u ++ ps.flatMap (writtenText s))] := by
  induction ps generalizing u with
  | nil => rw [List.foldl_nil, List.flatMap_nil, List.append_nil]
  | cons p ps ih =>
      obtain ⟨hp, hps⟩ := List.forall_mem_cons.mp constant
      rw [List.foldl_cons, hp.1.addPart s hp.2, Piece.addText, ih hps, List.flatMap_cons,
        List.append_assoc]

theorem Constant.assemble (s : Script) {query : Node} (h : Constant query) :
    assemble (pieces s query) = .ok ⟨(Query.terms query).flatMap (writtenText s), []⟩ := by
  have hterms : ∀ p ∈ Query.terms query, Constant p ∧ isSum p = false := fun p hp => h.terms hp
  rw [pieces, parts_eq_terms]
  cases hlist : Query.terms query with
  | nil => rfl
  | cons p ps =>
      rw [hlist] at hterms
      obtain ⟨hp, hps⟩ := List.forall_mem_cons.mp hterms
      rw [List.foldl_cons, hp.1.addPart s hp.2, Piece.addText, foldl_addPart_constant s hps]
      · rfl
      · intro u more hnil
        cases hnil

theorem quoteStyle_isStringQuote (s : Script) (ps : List Node) :
    IsStringQuote (quoteStyle s ps) := by
  rw [quoteStyle]
  induction ps with
  | nil => exact .inr rfl
  | cons p ps ih =>
      rw [List.filterMap_cons]
      split
      · exact ih
      · next q hq =>
          split at hq
          · split at hq
            · cases hq
              exact .inl rfl
            · cases hq
              exact .inr rfl
            · cases hq
          · cases hq

/-- What a term comes to is what it adds to the text, for a number if it is written as it is
shown. -/
theorem Constant.shown_value (s : Script) {p : Node} (h : Constant p) (noSum : isSum p = false)
    (a : Arithmetic N) (operand : Node → Value N)
    (written : ∀ x, p.kind = .literal (.number x) → s.textOf p = a.shown (a.read x)) :
    (value a operand p).shown a = writtenText s p := by
  rw [writtenText]
  cases h with
  | string hstring =>
      rw [hstring, value_of_string? a operand hstring]
      rfl
  | number hnumber =>
      obtain ⟨x, hkind⟩ := exists_of_isNumber hnumber
      have hnone : p.string? = none := by rw [Node.string?, hkind]
      rw [hnone, hnumber, written x hkind, value_of_noSum a operand noSum, leafValue, hkind]
      rfl
  | template isTemplate text plain =>
      obtain ⟨hnone, hnumber⟩ := not_literal_of_isTemplate isTemplate
      rw [hnone, hnumber, value_of_noSum a operand noSum,
        leafValue_of_isTemplate a operand isTemplate, templateText, text, plain]
      simp [Value.shown]
  | sum => cases noSum

/-- A query without values is repaired to a literal without parameters, which denotes the terms of
the query, one after the other, with the numbers as they are written. The query itself comes to a
text, and the literal denotes that text exactly if the two are the same. They are if each number is
written as it is shown. -/
theorem parameterized_constant (s : Script) {query : Node} (constant : Constant query)
    (text : hasString query = true) (a : Arithmetic N) (operand : Node → Value N) :
    ∃ literal t, parameterized s query = .ok (literal, []) ∧
      Denotes literal ((terms query).flatMap (writtenText s)) ∧
      value a operand query = .text t ∧
      (Denotes literal t ↔ t = (terms query).flatMap (writtenText s)) ∧
      ((∀ p ∈ terms query, ∀ x, p.kind = .literal (.number x) →
        s.textOf p = a.shown (a.read x)) → t = (terms query).flatMap (writtenText s)) := by
  obtain ⟨t, ht⟩ := exists_text_of_hasString a operand constant.built text
  have hdenotes : Denotes (requote (quoteStyle s (parts query))
      ((terms query).flatMap (writtenText s))) ((terms query).flatMap (writtenText s)) :=
    denotes_requote (quoteStyle_isStringQuote s (parts query)) _
  refine ⟨_, t, ?_, hdenotes, ht, ⟨fun h => h.unique hdenotes, fun h => h ▸ hdenotes⟩,
    fun written => ?_⟩
  · rw [parameterized, constant.assemble s]
    rfl
  · have hterms := shown_terms a operand constant.built
    rw [ht] at hterms
    refine hterms.symm.trans (List.flatMap_congr fun p hp => ?_)
    obtain ⟨hconstant, hsum⟩ := constant.terms hp
    exact hconstant.shown_value s hsum a operand (written p hp)

/-! A number that is written as it is shown. -/

namespace Limit

def script : Script := ⟨"\"LIMIT \"+10", default, false, []⟩

def word : Node := .mk (.literal (.string "LIMIT ")) (Rows.span 0 8) []

def ten : Node := .mk (.literal (.number (.whole 10))) (Rows.span 9 11) []

def query : Node := Rows.sum 11 word ten

theorem constant : Constant query := .sum (.string rfl) (.number rfl) rfl

theorem shown : ∀ p ∈ terms query, ∀ x, p.kind = .literal (.number x) →
    script.textOf p = Rows.naturals.shown (Rows.naturals.read x) := by
  have hterms : terms query = [word, ten] := rfl
  rw [hterms]
  intro p hp x hx
  rcases List.mem_cons.mp hp with rfl | hp
  · cases hx
  · cases List.mem_singleton.mp hp
    cases hx
    decide

end Limit

theorem parameterized_constant_sample :
    ∃ literal, parameterized Limit.script Limit.query = .ok (literal, []) ∧
      value Rows.naturals Rows.operand Limit.query = .text "LIMIT 10" ∧
      Denotes literal "LIMIT 10" := by
  obtain ⟨literal, t, hliteral, -, hvalue, hdenotes, hsame⟩ :=
    parameterized_constant Limit.script Limit.constant rfl Rows.naturals Rows.operand
  have ht : t = "LIMIT 10" := Value.text.inj (hvalue.symm.trans rfl)
  subst ht
  exact ⟨literal, hliteral, hvalue, hdenotes.mpr (hsame Limit.shown)⟩

/-! A number that is written in another base. -/

/-- The two sides of a sum. -/
def sides? : Node → Option (Node × Node)
  | .mk (.binary operator) _ [(_, left), (_, right)] =>
    if operator == "+" then some (left, right) else none
  | _ => none

theorem exists_of_sides? {n left right : Node} (h : sides? n = some (left, right)) :
    ∃ span l r, n = .mk (.binary "+") span [(l, left), (r, right)] := by
  rw [sides?.eq_def] at h
  split at h
  · next operator span l left' r right' =>
      split at h
      · next hoperator =>
          cases h
          cases eq_of_beq hoperator
          exact ⟨span, l, r, rfl⟩
      · cases h
  · cases h

namespace Sixteen

def text : Text := "run(\"a\"+0x10)"

def letter : Text := "a"

def literal : Text := "\"a0x10\""

/-- The text and the whole number that stand side by side. -/
def operands? (sides : Node × Node) : Option (Text × Nat) :=
  match sides.1.string?, sides.2.kind with
  | some t, .literal (.number (.whole n)) => some (t, n)
  | _, _ => none

theorem text_facts :
    Script.isPlain text = true ∧ ∃ call ∈ (Script.ofText text).places, isCandidate call = true ∧
      ((target (Script.ofText text) call).toOption.bind sides?).bind operands? =
        some (letter, 16) ∧
      (target (Script.ofText text) call).toOption.bind
        (fun q => (parameterized (Script.ofText text) q).toOption) = some (literal, []) := by
  rw [text, Text.ofString_ofList]
  decide +kernel

theorem of_operands? {left right : Node} {t : Text} {k : Nat}
    (h : operands? (left, right) = some (t, k)) :
    left.string? = some t ∧ right.kind = .literal (.number (.whole k)) := by
  rw [operands?] at h
  split at h
  · next ht hk =>
      cases h
      exact ⟨ht, hk⟩
  · cases h

end Sixteen

/-- The repair of a query without values can change it. The call of this text runs a text with the
number sixteen behind it, and it does so in base sixteen. The query is "a16"; the literal for it is
the text with the number as it is written. -/
theorem number_as_written :
    ∃ s call query, Script.parse Sixteen.text = .ok (.ok s) ∧ call ∈ s.places ∧
      isCandidate call = true ∧ target s call = .ok query ∧ Constant query ∧
      hasString query = true ∧ parameterized s query = .ok (Sixteen.literal, []) ∧
      (∀ (N : Type) (a : Arithmetic N) (operand : Node → Value N),
        a.shown (a.read (.whole 16)) = "16" → value a operand query = .text "a16") ∧
      ¬ Denotes Sixteen.literal "a16" := by
  obtain ⟨hplain, call, hcall, hcandidate, hsides, hliteral⟩ := Sixteen.text_facts
  obtain ⟨sides, hquery, hoperands⟩ := Option.bind_eq_some_iff.mp hsides
  obtain ⟨query, hquery, hsides⟩ := Option.bind_eq_some_iff.mp hquery
  rw [hquery, Option.bind_some] at hliteral
  obtain ⟨left, right⟩ := sides
  obtain ⟨span, l, r, rfl⟩ := exists_of_sides? hsides
  obtain ⟨hleft, hright⟩ := Sixteen.of_operands? hoperands
  have hnumber : isNumber right = true := by rw [isNumber, hright]
  have hstring : hasString left = true := by
    rw [hasString_of_noSum (isSum_of_literal (kind_of_string? hleft)), isString, hleft]
    rfl
  have htext : (hasString left || hasString right) = true := by rw [hstring, Bool.true_or]
  refine ⟨_, call, _, Script.parse_of_isPlain hplain, hcall, hcandidate, ok_of_toOption hquery,
    .sum (.string hleft) (.number hnumber) htext, ?_, ok_of_toOption hliteral, ?_, ?_⟩
  · rw [hasString_sum, htext]
  · intro N a operand hshown
    rw [value_sum, value_of_string? a operand hleft,
      value_of_noSum a operand (isSum_of_literal hright), leafValue, hright, text_plus,
      Value.shown, hshown]
    rfl
  · intro hdenotes
    have hsame := hdenotes.unique (denotes_requote (.inr rfl) "a0x10")
    exact absurd hsame (by decide)

end Readiness.Query
