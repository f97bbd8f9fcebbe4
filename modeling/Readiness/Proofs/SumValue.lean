import Readiness.Proofs.QueryValue

/-!
# What a sum comes to

A plus sign adds two numbers, and joins its sides as soon as one of them is a text.
So the terms of a sum can be read off one after the other where a text is among
them, but `limit + offset + " rows"` adds before it joins, and its first two terms
are one value.

`terms` splits a sum only where a string literal or a template stands in it. That is
right because of what such an expression comes to: `exists_text_of_hasString` says
that it is a text whatever its operands are. One side of each sum that is split is
therefore a text, and the sum is its two sides joined (`shown_terms`). Nothing is
known about the operands that stay whole, and nothing has to be.

The rest is bookkeeping. The pieces of a query are built from the left with the last
one first, and neighbours are merged on the way; `Spells` follows the expressions
and the text along.
-/

namespace Readiness.Query

open Script

variable {N : Type}

/-! ## Values of expressions -/

/-- What an operand of a sum may come to. -/
inductive Value (N : Type) where
  | number (x : N)
  | text (t : Text)

/-- What a script does with numbers: it reads them, adds them and shows them. -/
structure Arithmetic (N : Type) where
  read : Decimal.Numeral → N
  add : N → N → N
  shown : N → Text

/-- A value as a text. -/
def Value.shown (a : Arithmetic N) : Value N → Text
  | .number x => a.shown x
  | .text t => t

/-- The sum of two values: of two numbers it is a number, and a text as soon as one is a text. -/
def Value.plus (a : Arithmetic N) : Value N → Value N → Value N
  | .number x, .number y => .number (a.add x y)
  | v, w => .text (v.shown a ++ w.shown a)

/-- The text that a piece of a template denotes. -/
def cookedText (q : Node) : Text :=
  match q.kind with
  | .templateElement cooked _ => cooked
  | _ => []

/-- What a template comes to: its first text, then the value and the text behind each
interpolation. -/
def templateText (a : Arithmetic N) (operand : Node → Value N) (n : Node) : Text :=
  match n.fields .quasi with
  | [] => []
  | q :: quasis =>
    cookedText q ++ (List.zipWith (fun e q => (operand e).shown a ++ cookedText q)
      (n.fields .expression) quasis).flatten

/-- What an expression comes to that is no sum. -/
def leafValue (a : Arithmetic N) (operand : Node → Value N) (n : Node) : Value N :=
  match n.kind with
  | .literal (.string t) => .text t
  | .literal (.number x) => .number (a.read x)
  | .templateLiteral => .text (templateText a operand n)
  | _ => operand n

/-- What an expression comes to, for given values of the operands and interpolations in it. -/
def value (a : Arithmetic N) (operand : Node → Value N) : Node → Value N
  | .mk (.binary operator) span [(l, left), (r, right)] =>
    if operator == "+" then (value a operand left).plus a (value a operand right)
    else operand (.mk (.binary operator) span [(l, left), (r, right)])
  | n => leafValue a operand n

/-- Whether an expression is a sum. -/
def isSum (n : Node) : Bool :=
  match n.kind with
  | .binary operator => operator == "+"
  | _ => false

/-- An expression that is built with plus signs from any other expressions. A sum has two sides, and
a template has one text more than it has interpolations. -/
inductive Built : Node → Prop
  | operand {n : Node} (noSum : isSum n = false) (noTemplate : n.isTemplate = false) : Built n
  | template {n : Node} (isTemplate : n.isTemplate = true)
      (texts : (n.fields .quasi).length = (n.fields .expression).length + 1) : Built n
  | sum {span : Span} {l r : Role} {left right : Node} (builtLeft : Built left)
      (builtRight : Built right) : Built (.mk (.binary "+") span [(l, left), (r, right)])

theorem Built.exists_quasis {n : Node} (built : Built n) (isTemplate : n.isTemplate = true) :
    ∃ q quasis, n.fields .quasi = q :: quasis ∧
      quasis.length = (n.fields .expression).length := by
  cases built with
  | operand noSum noTemplate => rw [isTemplate] at noTemplate; cases noTemplate
  | template isTemplate texts =>
      obtain ⟨q, quasis, hquasis⟩ := List.exists_cons_of_length_eq_add_one texts
      rw [hquasis] at texts
      exact ⟨q, quasis, hquasis, Nat.succ.inj texts⟩
  | sum => cases isTemplate

theorem isSum_of_isTemplate {n : Node} (h : n.isTemplate = true) : isSum n = false := by
  rw [isSum]
  rw [Node.isTemplate] at h
  split at h
  · next hkind => rw [hkind]
  · cases h

theorem isSum_of_literal {n : Node} {v : Literal} (h : n.kind = .literal v) : isSum n = false := by
  rw [isSum, h]

theorem value_sum (a : Arithmetic N) (operand : Node → Value N) (span : Span) (l r : Role)
    (left right : Node) : value a operand (.mk (.binary "+") span [(l, left), (r, right)]) =
      (value a operand left).plus a (value a operand right) := by
  rw [value]
  exact if_pos rfl

theorem value_of_noSum (a : Arithmetic N) (operand : Node → Value N) {n : Node}
    (noSum : isSum n = false) : value a operand n = leafValue a operand n := by
  rw [value.eq_def]
  split
  · next operator span l left r right =>
      have hoperator : (operator == "+") = false := noSum
      rw [hoperator]
      rfl
  · rfl

theorem terms_sum (span : Span) (l r : Role) (left right : Node) :
    terms (.mk (.binary "+") span [(l, left), (r, right)]) =
      if hasString left || hasString right then terms left ++ terms right
      else [.mk (.binary "+") span [(l, left), (r, right)]] := by
  simp [terms, allTerms, anyHasString]

theorem hasString_sum (span : Span) (l r : Role) (left right : Node) :
    hasString (.mk (.binary "+") span [(l, left), (r, right)]) =
      (hasString left || hasString right) := by
  simp [hasString, anyHasString]

theorem terms_of_noSum {n : Node} (noSum : isSum n = false) : terms n = [n] := by
  obtain ⟨kind, span, children⟩ := n
  cases kind with
  | binary operator =>
      have hoperator : (operator == "+") = false := noSum
      rw [terms, hoperator]
      rfl
  | _ => rfl

theorem hasString_of_noSum {n : Node} (noSum : isSum n = false) :
    hasString n = (isString n || n.isTemplate) := by
  obtain ⟨kind, span, children⟩ := n
  cases kind with
  | binary operator =>
      have hoperator : (operator == "+") = false := noSum
      rw [hasString, hoperator]
      rfl
  | literal v => cases v <;> rfl
  | _ => rfl

theorem kind_of_string? {n : Node} {t : Text} (h : n.string? = some t) :
    n.kind = .literal (.string t) := by
  rw [Node.string?] at h
  split at h
  · next hkind =>
      cases h
      exact hkind
  · cases h

theorem exists_of_isNumber {n : Node} (h : isNumber n = true) :
    ∃ x, n.kind = .literal (.number x) := by
  rw [isNumber] at h
  split at h
  · next x hkind => exact ⟨x, hkind⟩
  · cases h

theorem value_of_string? (a : Arithmetic N) (operand : Node → Value N) {n : Node} {t : Text}
    (h : n.string? = some t) : value a operand n = .text t := by
  have hkind := kind_of_string? h
  rw [value_of_noSum a operand (isSum_of_literal hkind), leafValue, hkind]

theorem leafValue_of_isTemplate (a : Arithmetic N) (operand : Node → Value N) {n : Node}
    (h : n.isTemplate = true) : leafValue a operand n = .text (templateText a operand n) := by
  rw [Node.isTemplate] at h
  rw [leafValue]
  split at h
  · next hkind => rw [hkind]
  · cases h

theorem text_plus (a : Arithmetic N) (t : Text) (w : Value N) :
    (Value.text t).plus a w = .text (t ++ w.shown a) := rfl

theorem plus_text (a : Arithmetic N) (v : Value N) (t : Text) :
    v.plus a (.text t) = .text (v.shown a ++ t) := by
  cases v <;> rfl

/-- An expression with a string in it comes to a text. -/
theorem exists_text_of_hasString (a : Arithmetic N) (operand : Node → Value N) {n : Node}
    (built : Built n) (h : hasString n = true) : ∃ t, value a operand n = .text t := by
  induction built with
  | operand noSum noTemplate =>
      rw [hasString_of_noSum noSum, noTemplate, Bool.or_false, isString] at h
      obtain ⟨t, ht⟩ := Option.isSome_iff_exists.mp h
      exact ⟨t, value_of_string? a operand ht⟩
  | template isTemplate =>
      have hvalue := value_of_noSum a operand (isSum_of_isTemplate isTemplate)
      exact ⟨_, hvalue.trans (leafValue_of_isTemplate a operand isTemplate)⟩
  | sum _ _ ihLeft ihRight =>
      rw [hasString_sum, Bool.or_eq_true] at h
      rw [value_sum]
      rcases h with hleft | hright
      · obtain ⟨t, ht⟩ := ihLeft hleft
        exact ⟨_, by rw [ht, text_plus]⟩
      · obtain ⟨t, ht⟩ := ihRight hright
        exact ⟨_, by rw [ht, plus_text]⟩

theorem shown_plus (a : Arithmetic N) {v w : Value N}
    (h : (∃ t, v = .text t) ∨ ∃ t, w = .text t) :
    (v.plus a w).shown a = v.shown a ++ w.shown a := by
  rcases h with ⟨t, rfl⟩ | ⟨t, rfl⟩
  · rfl
  · rw [plus_text]
    rfl

/-- The terms of an expression, one after the other, are what it comes to. -/
theorem shown_terms (a : Arithmetic N) (operand : Node → Value N) {n : Node} (built : Built n) :
    (terms n).flatMap (fun p => (value a operand p).shown a) = (value a operand n).shown a := by
  induction built with
  | @operand n noSum noTemplate => rw [terms_of_noSum noSum, List.flatMap_singleton]
  | template isTemplate =>
      rw [terms_of_noSum (isSum_of_isTemplate isTemplate), List.flatMap_singleton]
  | @sum span l r left right builtLeft builtRight ihLeft ihRight =>
      rw [terms_sum]
      split
      · next hstring =>
          rw [Bool.or_eq_true] at hstring
          rw [List.flatMap_append, ihLeft, ihRight, value_sum, shown_plus]
          exact hstring.imp (exists_text_of_hasString a operand builtLeft)
            (exists_text_of_hasString a operand builtRight)
      · rw [List.flatMap_singleton]

theorem built_of_mem_terms {n p : Node} (built : Built n) (h : p ∈ terms n) : Built p := by
  induction built with
  | operand noSum noTemplate =>
      rw [terms_of_noSum noSum, List.mem_singleton] at h
      exact h ▸ .operand noSum noTemplate
  | template isTemplate texts =>
      rw [terms_of_noSum (isSum_of_isTemplate isTemplate), List.mem_singleton] at h
      exact h ▸ .template isTemplate texts
  | sum builtLeft builtRight ihLeft ihRight =>
      rw [terms_sum] at h
      split at h
      · rcases List.mem_append.mp h with hleft | hright
        · exact ihLeft hleft
        · exact ihRight hright
      · rw [List.mem_singleton] at h
        exact h ▸ .sum builtLeft builtRight

theorem parts_eq_terms (query : Node) : parts query = terms query := by
  rw [parts]
  split
  · next htemplate => exact (terms_of_noSum (isSum_of_isTemplate htemplate)).symm
  · rfl

/-! ## Values in place of expressions -/

/-- The text of pieces with the given texts in place of their expressions. -/
def spell : List Text → List Piece → Text
  | _, [] => []
  | values, .text t :: more => t ++ spell values more
  | values, .values run :: more =>
    (values.take run.length).flatten ++ spell (values.drop run.length) more

theorem sources_append (l m : List Piece) : sources (l ++ m) = sources l ++ sources m :=
  List.flatMap_append

theorem spell_append {values : List Text} {l : List Piece}
    (same : values.length = (sources l).length) (more : List Text) (m : List Piece) :
    spell (values ++ more) (l ++ m) = spell values l ++ spell more m := by
  induction l generalizing values with
  | nil =>
      obtain rfl := List.eq_nil_of_length_eq_zero same
      rfl
  | cons piece l ih =>
      cases piece with
      | text t => rw [List.cons_append, spell, spell, ih same, List.append_assoc]
      | values run =>
          have hlength : values.length = run.length + (sources l).length :=
            same.trans List.length_append
          have hrest : (values.drop run.length).length = (sources l).length := by
            rw [List.length_drop]
            omega
          have hrun : run.length ≤ values.length := by omega
          rw [List.cons_append, spell, spell, List.take_append_of_le_length hrun,
            List.drop_append_of_le_length hrun, ih hrest, List.append_assoc]

theorem sources_text (l : List Piece) (t : Text) : sources (l ++ [Piece.text t]) = sources l := by
  rw [sources_append]
  exact List.append_nil _

theorem sources_values (l : List Piece) (run : List Text) :
    sources (l ++ [Piece.values run]) = sources l ++ run := by
  rw [sources_append]
  exact congrArg (sources l ++ ·) (List.append_nil run)

theorem spell_text {values : List Text} {l : List Piece}
    (same : values.length = (sources l).length) (t : Text) :
    spell values (l ++ [Piece.text t]) = spell values l ++ t := by
  have happend := spell_append same [] [.text t]
  rwa [List.append_nil, spell, spell, List.append_nil] at happend

theorem spell_values {values : List Text} {l : List Piece}
    (same : values.length = (sources l).length) {more run : List Text}
    (sameRun : more.length = run.length) :
    spell (values ++ more) (l ++ [Piece.values run]) = spell values l ++ more.flatten := by
  rw [spell_append same, spell, spell, ← sameRun, List.take_length, List.append_nil]

theorem sources_addText (t : Text) (acc : List Piece) :
    sources (Piece.addText t acc).reverse = sources acc.reverse := by
  cases acc with
  | nil => rfl
  | cons piece acc => cases piece <;> simp [Piece.addText, sources]

theorem sources_addValue (source : Text) (acc : List Piece) :
    sources (Piece.addValue source acc).reverse = sources acc.reverse ++ [source] := by
  cases acc with
  | nil => rfl
  | cons piece acc => cases piece <;> simp [Piece.addValue, sources]

theorem spell_addText {values : List Text} {acc : List Piece}
    (same : values.length = (sources acc.reverse).length) (t : Text) :
    spell values (Piece.addText t acc).reverse = spell values acc.reverse ++ t := by
  rcases acc with _ | ⟨piece | run, acc⟩
  · exact spell_text same t
  · rw [List.reverse_cons, sources_text] at same
    rw [Piece.addText, List.reverse_cons, List.reverse_cons, spell_text same, spell_text same,
      List.append_assoc]
  · rw [Piece.addText, List.reverse_cons, spell_text same]
    exact fun t more hacc => Piece.noConfusion (List.cons.inj hacc).1

theorem spell_addValue {values : List Text} {acc : List Piece}
    (same : values.length = (sources acc.reverse).length) (source v : Text) :
    spell (values ++ [v]) (Piece.addValue source acc).reverse = spell values acc.reverse ++ v := by
  have hone : [v].length = [source].length := rfl
  have hnew : spell (values ++ [v]) (acc.reverse ++ [Piece.values [source]]) =
      spell values acc.reverse ++ v := by
    rw [spell_values same hone, List.flatten_singleton]
  rcases acc with _ | ⟨t | run, acc⟩
  · exact hnew
  · simpa [Piece.addValue] using hnew
  · rw [List.reverse_cons] at same
    -- The values of the last run stand behind those of the expressions in front of it.
    obtain ⟨front, back, rfl, hfront, hback⟩ :
        ∃ front back, values = front ++ back ∧ front.length = (sources acc.reverse).length ∧
          back.length = run.length := by
      rw [sources_values, List.length_append] at same
      refine ⟨values.take (sources acc.reverse).length, values.drop (sources acc.reverse).length,
        (List.take_append_drop _ _).symm, ?_, ?_⟩
      · rw [List.length_take]
        omega
      · rw [List.length_drop]
        omega
    rw [Piece.addValue, List.reverse_cons, List.reverse_cons, List.append_assoc,
      spell_values hfront (by simp [hback]), spell_values hfront hback, List.flatten_append,
      List.flatten_singleton, List.append_assoc]

/-! ## The expressions that stay values -/

theorem addTemplate_last (s : Script) (q : Node) (acc : List Piece) :
    addTemplate s [q] [] acc = Piece.addText (cookedText q) acc := rfl

theorem addTemplate_cons (s : Script) (q e : Node) (quasis more : List Node) (acc : List Piece) :
    addTemplate s (q :: quasis) (e :: more) acc = addTemplate s quasis more
      (Piece.addValue (s.textOf e) (Piece.addText (cookedText q) acc)) := rfl

/-- An expression that stays a value: a term of the sum, or what a template among the terms
interpolates. -/
inductive Entry where
  | term (n : Node)
  | interpolation (n : Node)

/-- The source text of an entry. -/
def Entry.source (s : Script) : Entry → Text
  | .term n => expressionSource s n
  | .interpolation n => s.textOf n

/-- What an entry comes to, as a text. -/
def Entry.worth (a : Arithmetic N) (operand : Node → Value N) : Entry → Text
  | .term n => (value a operand n).shown a
  | .interpolation n => (operand n).shown a

/-- The entries of a term. -/
def termEntries (p : Node) : List Entry :=
  if isString p || isNumber p then []
  else if p.isTemplate then (p.fields .expression).map .interpolation
  else [.term p]

/-- The entries of a query, from left to right. -/
def entries (query : Node) : List Entry := (parts query).flatMap termEntries

/-- The pieces, of which the last one comes first, have the given entries, and with the values of
these they say the given text. -/
structure Spells (s : Script) (a : Arithmetic N) (operand : Node → Value N) (es : List Entry)
    (acc : List Piece) (t : Text) : Prop where
  sources : sources acc.reverse = es.map (Entry.source s)
  spell : spell (es.map (Entry.worth a operand)) acc.reverse = t

section Spells

variable {s : Script} {a : Arithmetic N} {operand : Node → Value N} {es : List Entry}
  {acc : List Piece} {t : Text}

theorem Spells.addText (h : Spells s a operand es acc t) (u : Text) :
    Spells s a operand es (Piece.addText u acc) (t ++ u) := by
  refine ⟨(sources_addText u acc).trans h.sources, ?_⟩
  rw [spell_addText (by rw [h.sources, List.length_map, List.length_map]), h.spell]

theorem Spells.addValue (h : Spells s a operand es acc t) (e : Entry) :
    Spells s a operand (es ++ [e]) (Piece.addValue (e.source s) acc)
      (t ++ e.worth a operand) := by
  constructor
  · rw [sources_addValue, h.sources, List.map_append, List.map_singleton]
  · rw [List.map_append, List.map_singleton,
      spell_addValue (by rw [h.sources, List.length_map, List.length_map]), h.spell]

theorem Spells.addTemplate (h : Spells s a operand es acc t) (q : Node)
    {quasis expressions : List Node} (same : quasis.length = expressions.length) :
    Spells s a operand (es ++ expressions.map .interpolation)
      (addTemplate s (q :: quasis) expressions acc)
      (t ++ (cookedText q ++ (List.zipWith (fun e q => (operand e).shown a ++ cookedText q)
        expressions quasis).flatten)) := by
  induction expressions generalizing q quasis es acc t with
  | nil =>
      obtain rfl := List.eq_nil_of_length_eq_zero same
      rw [addTemplate_last]
      simpa using h.addText (cookedText q)
  | cons e expressions ih =>
      cases quasis with
      | nil => cases same
      | cons q' quasis =>
          have hstep := ((h.addText (cookedText q)).addValue (.interpolation e))
          have hrest := ih hstep q' (Nat.succ.inj same)
          rw [addTemplate_cons]
          simpa [Entry.worth, Entry.source] using hrest

theorem Spells.addPart (h : Spells s a operand es acc t) {p : Node} (built : Built p)
    (written : ∀ x, p.kind = .literal (.number x) → s.textOf p = a.shown (a.read x)) :
    Spells s a operand (es ++ termEntries p) (addPart s acc p)
      (t ++ (value a operand p).shown a) := by
  rw [Query.addPart, termEntries, isString]
  cases hstring : p.string? with
  | some v =>
      rw [value_of_string? a operand hstring, Option.isSome_some, Bool.true_or, if_pos rfl,
        List.append_nil]
      exact h.addText v
  | none =>
      rw [Option.isSome_none, Bool.false_or]
      cases hnumber : isNumber p with
      | true =>
          obtain ⟨x, hx⟩ := exists_of_isNumber hnumber
          have hvalue : (value a operand p).shown a = s.textOf p := by
            rw [written x hx, value_of_noSum a operand (isSum_of_literal hx), leafValue, hx]
            rfl
          rw [hvalue, if_pos rfl, List.append_nil]
          exact h.addText _
      | false =>
          cases htemplate : p.isTemplate with
          | true =>
              have hvalue : value a operand p = .text (templateText a operand p) :=
                (value_of_noSum a operand (isSum_of_isTemplate htemplate)).trans
                  (leafValue_of_isTemplate a operand htemplate)
              obtain ⟨q, quasis, hquasis, hlength⟩ := built.exists_quasis htemplate
              rw [hvalue, templateText, hquasis]
              exact h.addTemplate q hlength
          | false => exact h.addValue (.term p)

theorem Spells.addParts {ps : List Node} (h : Spells s a operand es acc t)
    (built : ∀ p ∈ ps, Built p)
    (written : ∀ p ∈ ps, ∀ x, p.kind = .literal (.number x) → s.textOf p = a.shown (a.read x)) :
    Spells s a operand (es ++ ps.flatMap termEntries) (ps.foldl (Query.addPart s) acc)
      (t ++ ps.flatMap fun p => (value a operand p).shown a) := by
  induction ps generalizing es acc t with
  | nil => simpa using h
  | cons p ps ih =>
      have hp := h.addPart (built p List.mem_cons_self) (written p List.mem_cons_self)
      have hrest := ih hp (fun p' hp' => built p' (List.mem_cons_of_mem p hp'))
        fun p' hp' => written p' (List.mem_cons_of_mem p hp')
      simpa [List.append_assoc] using hrest

end Spells

/-- The pieces of a query say what the query comes to. Take any expression that is built with plus
signs, any numbers with any addition, and any values of its operands and interpolations, and let
the number literals among its terms be written as numbers are shown. Then the sources in the pieces
are those of its entries, one after the other, and with the values of the entries in their places
the pieces are the text of the expression's value. -/
theorem spell_pieces (s : Script) {query : Node} (built : Built query) (a : Arithmetic N)
    (operand : Node → Value N)
    (written : ∀ p ∈ parts query, ∀ x, p.kind = .literal (.number x) →
      s.textOf p = a.shown (a.read x)) :
    sources (pieces s query) = (entries query).map (Entry.source s) ∧
      spell ((entries query).map (Entry.worth a operand)) (pieces s query) =
        (value a operand query).shown a := by
  have hstart : Spells s a operand [] [] [] := ⟨rfl, rfl⟩
  rw [parts_eq_terms] at written
  have hparts := hstart.addParts (fun p hp => built_of_mem_terms built hp) written
  rw [List.nil_append, List.nil_append, shown_terms a operand built, ← parts_eq_terms] at hparts
  exact ⟨hparts.sources, hparts.spell⟩

/-! Two numbers that are added before a text is joined to them, and one that is not. -/

namespace Rows

def script : Script := ⟨"m+n+\" rows \"+1", default, false, []⟩

def span (start stop : Nat) : Span := ⟨start, stop, 1, some start, 1⟩

def sum (stop : Nat) (left right : Node) : Node :=
  .mk (.binary "+") (span 0 stop) [(.left, left), (.right, right)]

def name (start : Nat) (t : Text) : Node := .mk (.identifier t) (span start (start + 1)) []

def count : Node := sum 3 (name 0 "m") (name 2 "n")

def rows : Node := .mk (.literal (.string " rows ")) (span 4 12) []

def one : Node := .mk (.literal (.number (.whole 1))) (span 13 14) []

def query : Node := sum 14 (sum 12 count rows) one

def naturals : Arithmetic Nat where
  read
    | .whole n => n
    | .double _ => 0
  add := Nat.add
  shown n := Text.ofString (toString n)

/-- The value of the name at the start is 20, and that of the other one is 3. -/
def operand (n : Node) : Value Nat := if n.start = 0 then .number 20 else .number 3

theorem built : Built query :=
  .sum (.sum (.sum (.operand rfl rfl) (.operand rfl rfl)) (.operand rfl rfl)) (.operand rfl rfl)

theorem written : ∀ p ∈ parts query, ∀ x, p.kind = .literal (.number x) →
    script.textOf p = naturals.shown (naturals.read x) := by
  have hparts : parts query = [count, rows, one] := rfl
  rw [hparts]
  intro p hp x hx
  rcases List.mem_cons.mp hp with rfl | hp
  · cases hx
  · rcases List.mem_cons.mp hp with rfl | hp
    · cases hx
    · cases List.mem_singleton.mp hp
      cases hx
      decide

end Rows

theorem spell_pieces_sample :
    pieces Rows.script Rows.query = [.values ["m+n"], .text " rows 1"] ∧
      spell ((entries Rows.query).map (Entry.worth Rows.naturals Rows.operand))
        (pieces Rows.script Rows.query) = "23 rows 1" := by
  obtain ⟨-, hspell⟩ :=
    spell_pieces Rows.script Rows.built Rows.naturals Rows.operand Rows.written
  refine ⟨by decide +kernel, hspell.trans ?_⟩
  decide +kernel

end Readiness.Query
