import Readiness.Proofs.ConstantQuery

/-!
# Two spellings of a query

A text with operands in it can be written as a template, and as a string to which the
operands and the texts between them are added. A sum leaves out the texts that are
empty, but a template cannot: between two interpolations it always has a text.

That is the one difference there is. `addTemplate` adds every text of a template, and
an empty text keeps the operands around it apart, where those of a sum are merged
into one run. At the end of a query nothing comes of it, because a run reads as if an
empty text were behind it. So the two spellings have the same repair exactly if no
empty text stands between two operands (`spellings_agree`), and with one there they
have not even the same number of parameters.
-/

namespace Readiness.Query

open Script

/-- An operand, by its name, with the text behind it. -/
structure Operand where
  name : Text
  behind : Text
deriving DecidableEq

/-! ## The two spellings -/

/-- A template with a text at its start and operands behind it. -/
structure Interpolates (s : Script) (n : Node) (first : Text) (operands : List Operand) : Prop where
  isTemplate : n.isTemplate = true
  texts : (n.fields .quasi).map cookedText = first :: operands.map Operand.behind
  names : (n.fields .expression).map (fun e => (e.identifier?, s.textOf e)) =
    operands.map fun o => (some o.name, o.name)

/-- A string to which operands are added, each with its text behind it if that is not empty. -/
inductive Adds (s : Script) : Node → Text → List Operand → Prop
  | first {n : Node} {t : Text} (string : n.string? = some t) : Adds s n t []
  | name {span : Span} {l r : Role} {left right : Node} {first name : Text}
      {operands : List Operand} (adds : Adds s left first operands)
      (identifier : right.identifier? = some name) (written : expressionSource s right = name) :
      Adds s (.mk (.binary "+") span [(l, left), (r, right)]) first (operands ++ [⟨name, []⟩])
  | text {span : Span} {l r : Role} {left right : Node} {first name t : Text}
      {operands : List Operand} (adds : Adds s left first (operands ++ [⟨name, []⟩]))
      (string : right.string? = some t) (nonempty : t ≠ []) :
      Adds s (.mk (.binary "+") span [(l, left), (r, right)]) first (operands ++ [⟨name, t⟩])

/-! ## The pieces of each -/

/-- The pieces with an operand behind them, as a template has it. -/
def interpolate (acc : List Piece) (o : Operand) : List Piece :=
  Piece.addText o.behind (Piece.addValue o.name acc)

/-- The pieces with an operand behind them, as a sum has it. -/
def addOperand (acc : List Piece) (o : Operand) : List Piece :=
  if o.behind = [] then Piece.addValue o.name acc else interpolate acc o

theorem foldl_addTemplate (s : Script) {q : Node} {quasis expressions : List Node}
    {operands : List Operand} (texts : quasis.map cookedText = operands.map Operand.behind)
    (names : expressions.map (fun e => (e.identifier?, s.textOf e)) =
      operands.map fun o => (some o.name, o.name)) (acc : List Piece) :
    addTemplate s (q :: quasis) expressions acc =
      operands.foldl interpolate (Piece.addText (cookedText q) acc) := by
  induction operands generalizing q quasis expressions acc with
  | nil =>
      obtain rfl := List.map_eq_nil_iff.mp texts
      obtain rfl := List.map_eq_nil_iff.mp names
      exact addTemplate_last s q acc
  | cons o operands ih =>
      obtain ⟨q', quasis, rfl, hbehind, hquasis⟩ := List.map_eq_cons_iff.mp texts
      obtain ⟨e, expressions, rfl, hname, hexpressions⟩ := List.map_eq_cons_iff.mp names
      have hwritten : s.textOf e = o.name := congrArg Prod.snd hname
      rw [addTemplate_cons, ih hquasis hexpressions, hwritten, hbehind]
      rfl

theorem Interpolates.pieces {s : Script} {n : Node} {first : Text} {operands : List Operand}
    (h : Interpolates s n first operands) :
    pieces s n = (operands.foldl interpolate [.text first]).reverse := by
  obtain ⟨q, quasis, hquasis, hfirst, htexts⟩ := List.map_eq_cons_iff.mp h.texts
  obtain ⟨hnone, hnumber⟩ := not_literal_of_isTemplate h.isTemplate
  rw [Query.pieces, parts, if_pos h.isTemplate, List.foldl_cons, List.foldl_nil, addPart, hnone,
    hnumber, h.isTemplate, hquasis]
  exact congrArg List.reverse (hfirst ▸ foldl_addTemplate s htexts h.names [])

theorem Adds.hasString {s : Script} {n : Node} {first : Text} {operands : List Operand}
    (h : Adds s n first operands) : hasString n = true := by
  induction h with
  | first string =>
      rw [hasString_of_noSum (isSum_of_literal (kind_of_string? string)), isString, string]
      rfl
  | name _ _ _ ih => rw [hasString_sum, ih, Bool.true_or]
  | text _ _ _ ih => rw [hasString_sum, ih, Bool.true_or]

theorem Adds.terms_cons {s : Script} {left right : Node} {first : Text} {operands : List Operand}
    (h : Adds s left first operands) (noSum : isSum right = false) (span : Span) (l r : Role) :
    terms (.mk (.binary "+") span [(l, left), (r, right)]) = terms left ++ [right] := by
  rw [terms_sum, h.hasString, Bool.true_or, if_pos rfl, terms_of_noSum noSum]

theorem kind_of_identifier? {n : Node} {name : Text} (h : n.identifier? = some name) :
    n.kind = .identifier name := by
  rw [Node.identifier?] at h
  split at h
  · next hkind =>
      cases h
      exact hkind
  · cases h

theorem addPart_string (s : Script) {p : Node} {t : Text} (string : p.string? = some t)
    (acc : List Piece) : addPart s acc p = Piece.addText t acc := by
  rw [addPart, string]

theorem addPart_identifier (s : Script) {p : Node} {name : Text}
    (identifier : p.identifier? = some name) (acc : List Piece) :
    addPart s acc p = Piece.addValue (expressionSource s p) acc := by
  have hkind := kind_of_identifier? identifier
  have hstring : p.string? = none := by rw [Node.string?, hkind]
  have hnumber : isNumber p = false := by rw [isNumber, hkind]
  have htemplate : p.isTemplate = false := by rw [Node.isTemplate, hkind]
  rw [addPart, hstring, hnumber, htemplate]
  rfl

theorem Adds.foldl_terms {s : Script} {n : Node} {first : Text} {operands : List Operand}
    (h : Adds s n first operands) :
    (terms n).foldl (addPart s) [] = operands.foldl addOperand [.text first] := by
  induction h with
  | first string =>
      rw [terms_of_noSum (isSum_of_literal (kind_of_string? string)), List.foldl_cons,
        addPart_string s string]
      rfl
  | @name span l r left right first name operands adds identifier written ih =>
      have hsum : isSum right = false := by rw [isSum, kind_of_identifier? identifier]
      rw [adds.terms_cons hsum, List.foldl_append, ih, List.foldl_cons, List.foldl_nil,
        addPart_identifier s identifier, written, List.foldl_append]
      rfl
  | @text span l r left right first name t operands adds string nonempty ih =>
      rw [adds.terms_cons (isSum_of_literal (kind_of_string? string)), List.foldl_append, ih,
        List.foldl_cons, List.foldl_nil, addPart_string s string, List.foldl_append,
        List.foldl_append]
      have hadd : ∀ acc, addOperand acc ⟨name, t⟩ = interpolate acc ⟨name, t⟩ :=
        fun acc => if_neg nonempty
      rw [List.foldl_cons, List.foldl_cons, hadd]
      rfl

theorem Adds.pieces {s : Script} {n : Node} {first : Text} {operands : List Operand}
    (h : Adds s n first operands) :
    pieces s n = (operands.foldl addOperand [.text first]).reverse := by
  rw [Query.pieces, parts_eq_terms, h.foldl_terms]

/-! ## Where the pieces differ -/

theorem interpolate_empty (acc : List Piece) (name : Text) :
    interpolate acc ⟨name, []⟩ = .text [] :: Piece.addValue name acc := by
  rcases acc with _ | ⟨t | run, acc⟩ <;> rfl

/-- With no empty text between two operands the pieces are the same, up to an empty text at the
end of a template. -/
theorem foldl_interpolate {operands : List Operand}
    (apart : ∀ o ∈ operands.dropLast, o.behind ≠ []) (acc : List Piece) :
    operands.foldl interpolate acc = operands.foldl addOperand acc ∨
      ∃ run more, operands.foldl addOperand acc = .values run :: more ∧
        operands.foldl interpolate acc = .text [] :: .values run :: more := by
  induction operands generalizing acc with
  | nil => exact .inl rfl
  | cons o operands ih =>
      by_cases hempty : o.behind = []
      · -- An empty text is the last one.
        obtain rfl : operands = [] := by
          rcases operands with _ | ⟨o', operands⟩
          · rfl
          · exact absurd hempty (apart o List.mem_cons_self)
        obtain ⟨name, behind⟩ := o
        cases hempty
        refine .inr ?_
        rw [List.foldl_cons, List.foldl_cons, List.foldl_nil, List.foldl_nil, interpolate_empty,
          addOperand, if_pos rfl]
        rcases acc with _ | ⟨t | run, acc⟩
        · exact ⟨_, _, rfl, rfl⟩
        · exact ⟨_, _, rfl, rfl⟩
        · exact ⟨_, _, rfl, rfl⟩
      · rw [List.foldl_cons, List.foldl_cons, addOperand, if_neg hempty]
        refine ih (fun o' ho' => apart o' ?_) _
        rcases operands with _ | ⟨p, operands⟩
        · cases ho'
        · exact List.mem_cons_of_mem o ho'

/-- How many runs there are among pieces. -/
def runs (acc : List Piece) : Nat := acc.countP Piece.isValues

theorem runs_addText (t : Text) (acc : List Piece) : runs (Piece.addText t acc) = runs acc := by
  rcases acc with _ | ⟨u | run, acc⟩ <;> rfl

theorem runs_values (run : List Text) (acc : List Piece) :
    runs (.values run :: acc) = runs acc + 1 := List.countP_cons_of_pos rfl

theorem runs_addValue_le (source : Text) (acc : List Piece) :
    runs (Piece.addValue source acc) ≤ runs acc + 1 := by
  rcases acc with _ | ⟨u | run, acc⟩
  · exact (runs_values [source] []).le
  · exact (runs_values [source] (.text u :: acc)).le
  · rw [Piece.addValue, runs_values, runs_values]
    exact Nat.le_succ _

theorem runs_addOperand (acc : List Piece) (o : Operand) :
    runs (addOperand acc o) = runs (Piece.addValue o.name acc) := by
  rw [addOperand]
  split
  · rfl
  · exact runs_addText _ _

theorem runs_addOperand_le (acc : List Piece) (o : Operand) :
    runs (addOperand acc o) ≤ runs acc + 1 := by
  rw [runs_addOperand]
  exact runs_addValue_le o.name acc

theorem runs_foldl_addOperand_le (operands : List Operand) (acc : List Piece) :
    runs (operands.foldl addOperand acc) ≤ runs acc + operands.length := by
  induction operands generalizing acc with
  | nil => exact Nat.le_refl _
  | cons o operands ih =>
      have hstep := runs_addOperand_le acc o
      have hrest := ih (addOperand acc o)
      rw [List.foldl_cons, List.length_cons]
      omega

theorem runs_foldl_interpolate (operands : List Operand) (t : Text) (acc : List Piece) :
    runs (operands.foldl interpolate (.text t :: acc)) = runs acc + operands.length := by
  induction operands generalizing t acc with
  | nil => rfl
  | cons o operands ih =>
      have hrest := ih o.behind (.values [o.name] :: .text t :: acc)
      rw [runs_values] at hrest
      rw [List.foldl_cons, List.length_cons]
      exact hrest.trans (by rw [Nat.add_right_comm]; rfl)

/-- Two operands of a sum without a text between them are one run. -/
theorem runs_foldl_addOperand_lt {operands : List Operand}
    (joined : ∃ o ∈ operands.dropLast, o.behind = []) (acc : List Piece) :
    runs (operands.foldl addOperand acc) < runs acc + operands.length := by
  induction operands generalizing acc with
  | nil =>
      obtain ⟨o, ho, -⟩ := joined
      cases ho
  | cons o operands ih =>
      obtain ⟨e, he, hempty⟩ := joined
      rcases operands with _ | ⟨o', operands⟩
      · cases he
      · rw [List.foldl_cons, List.length_cons]
        rw [List.dropLast_cons_cons, List.mem_cons] at he
        rcases he with rfl | he
        · have hrun : runs (addOperand (addOperand acc e) o') = runs (addOperand acc e) := by
            rw [runs_addOperand, addOperand, if_pos hempty]
            rcases acc with _ | ⟨u | run, acc⟩ <;> rfl
          have hstep := runs_addOperand_le acc e
          have hrest := runs_foldl_addOperand_le operands (addOperand (addOperand acc e) o')
          rw [List.foldl_cons, List.length_cons]
          omega
        · have hstep := runs_addOperand_le acc o
          have hrest := ih ⟨e, he, hempty⟩ (addOperand acc o)
          omega

/-! ## What they come to -/

theorem exists_assemble {pieces : List Piece} (h : Alternates pieces) :
    ∃ p, assemble pieces = .ok p := by
  obtain ⟨full, hwoven, hsame, -⟩ := exists_full h
  obtain ⟨p, hp, -⟩ := assemble_invariant (P := fun _ _ => True) trivial (fun _ => trivial)
    (fun _ _ _ _ => trivial) hwoven
  exact ⟨p, hsame.symm.trans hp⟩

theorem params_length {pieces : List Piece} {p : Parameterized} (h : assemble pieces = .ok p) :
    p.params.length = runs pieces := by
  have hparams := assembleFrom_params (show assembleFrom [] [] 0 pieces = .ok p from h)
  rwa [List.length_nil, Nat.zero_add] at hparams

theorem runs_reverse (acc : List Piece) : runs acc.reverse = runs acc := List.countP_reverse

theorem quoteStyle_template (s : Script) {n : Node} (h : n.isTemplate = true) :
    quoteStyle s (parts n) = .char '"' := by
  obtain ⟨hnone, -⟩ := not_literal_of_isTemplate h
  rw [parts, if_pos h, quoteStyle, List.filterMap_cons, isString, hnone]
  rfl

/-- A template and a sum that spell the same query, in one script or in two, have the same
placeholders and parameters exactly if no empty text stands between two operands. The template has
a parameter for each of its operands. -/
theorem spellings_agree {s s' : Script} {template sum : Node} {first : Text}
    {operands : List Operand} (interpolates : Interpolates s template first operands)
    (adds : Adds s' sum first operands) :
    ∃ (p p' : Parameterized) (quote : CodePoint),
      parameterized s template = .ok (requote '"' p.sql, p.params) ∧ IsStringQuote quote ∧
      parameterized s' sum = .ok (requote quote p'.sql, p'.params) ∧
      p.params.length = operands.length ∧
      (p = p' ↔ ∀ o ∈ operands.dropLast, o.behind ≠ []) := by
  obtain ⟨p, hp⟩ := exists_assemble (alternates_pieces s template)
  obtain ⟨p', hp'⟩ := exists_assemble (alternates_pieces s' sum)
  have hlength : p.params.length = operands.length := by
    rw [params_length hp, interpolates.pieces, runs_reverse, runs_foldl_interpolate]
    exact Nat.zero_add _
  refine ⟨p, p', quoteStyle s' (parts sum), ?_, quoteStyle_isStringQuote s' _, ?_, hlength, ?_,
    ?_⟩
  · rw [parameterized, hp, quoteStyle_template s interpolates.isTemplate]
    rfl
  · rw [parameterized, hp']
    rfl
  · rintro rfl
    by_contra hjoined
    push Not at hjoined
    have hless := runs_foldl_addOperand_lt hjoined [.text first]
    rw [params_length hp', adds.pieces, runs_reverse] at hlength
    rw [hlength] at hless
    exact absurd hless (by simp [runs, Piece.isValues])
  · intro apart
    have hsame : assemble (pieces s template) = assemble (pieces s' sum) := by
      have halternates := alternates_pieces s' sum
      rw [adds.pieces] at halternates
      rw [interpolates.pieces, adds.pieces]
      rcases foldl_interpolate apart [.text first] with hsame | ⟨run, more, hadd, hinterpolate⟩
      · rw [hsame]
      · rw [hadd, List.reverse_cons] at halternates
        rw [hadd, hinterpolate, List.reverse_cons, List.reverse_cons, List.append_assoc]
        exact (assemble_lastRun (woven_of_alternates halternates) run).symm
    exact Except.ok.inj (hp.symm.trans (hsame.trans hp'))

/-! A text between the operands. -/

namespace Apart

def operands : List Operand := [⟨"a", " "⟩, ⟨"b", []⟩]

def templateScript : Script := ⟨"`$\x7ba\x7d $\x7bb\x7d`", default, false, []⟩

def element (t : Text) : Role × Node :=
  (.quasi, .mk (.templateElement t false) (Rows.span 0 0) [])

def template : Node := .mk .templateLiteral (Rows.span 0 11)
  [element [], element " ", element [], (.expression, Rows.name 3 "a"),
    (.expression, Rows.name 8 "b")]

def sumScript : Script := ⟨"\"\"+a+\" \"+b", default, false, []⟩

def empty : Node := .mk (.literal (.string [])) (Rows.span 0 2) []

def space : Node := .mk (.literal (.string " ")) (Rows.span 5 8) []

def sum : Node :=
  Rows.sum 10 (Rows.sum 8 (Rows.sum 4 empty (Rows.name 3 "a")) space) (Rows.name 9 "b")

def repaired : Text × List Text := ("\"? ?\"", ["a", "b"])

theorem interpolates : Interpolates templateScript template [] operands :=
  ⟨rfl, rfl, by decide +kernel⟩

theorem adds : Adds sumScript sum [] operands := by
  have ha : Adds sumScript (Rows.sum 4 empty (Rows.name 3 "a")) [] ([] ++ [⟨"a", []⟩]) :=
    .name (.first rfl) rfl (by decide +kernel)
  exact .name (.text ha rfl (by decide)) rfl (by decide +kernel)

end Apart

theorem spellings_agree_sample :
    ∃ quote sql, requote '"' sql = "\"? ?\"" ∧
      parameterized Apart.templateScript Apart.template = .ok (requote '"' sql, ["a", "b"]) ∧
      parameterized Apart.sumScript Apart.sum = .ok (requote quote sql, ["a", "b"]) := by
  obtain ⟨p, p', quote, htemplate, -, hsum, -, hsame⟩ :=
    spellings_agree Apart.interpolates Apart.adds
  obtain rfl : p = p' := hsame.mpr (by decide)
  have hrepaired : (parameterized Apart.templateScript Apart.template).toOption =
      some Apart.repaired := by decide +kernel
  have hpair := Except.ok.inj ((ok_of_toOption hrepaired).symm.trans htemplate)
  obtain ⟨hliteral, hparams⟩ := Prod.mk.inj hpair
  rw [← hparams] at htemplate hsum
  exact ⟨quote, p.sql, hliteral.symm, htemplate, hsum⟩

/-! No text between the operands. -/

namespace Joined

def text : Text := "run(`$\x7ba\x7d$\x7bb\x7d`);\nrun(\"\"+a+b)"

def operands : List Operand := [⟨"a", []⟩, ⟨"b", []⟩]

def apart : Text × List Text := ("\"??\"", ["a", "b"])

def joined : Text × List Text := ("\"?\"", ["`$\x7ba\x7d$\x7bb\x7d`"])

/-- Whether an expression is a name that is written as such. -/
def isName (s : Script) (n : Node) (name : Text) : Bool :=
  n.identifier? == some name && expressionSource s n == name

/-- Whether an expression is the empty string with the two operands added. -/
def isSum (s : Script) (n : Node) : Bool :=
  (sides? n).any fun outer => (sides? outer.1).any fun inner =>
    inner.1.string? == some [] && isName s inner.2 "a" && isName s outer.2 "b"

instance (s : Script) (n : Node) (first : Text) (operands : List Operand) :
    Decidable (Interpolates s n first operands) :=
  decidable_of_iff (n.isTemplate = true ∧
    (n.fields .quasi).map cookedText = first :: operands.map Operand.behind ∧
    (n.fields .expression).map (fun e => (e.identifier?, s.textOf e)) =
      operands.map fun o => (some o.name, o.name))
    ⟨fun h => ⟨h.1, h.2.1, h.2.2⟩, fun h => ⟨h.isTemplate, h.texts, h.names⟩⟩

/-- Whether a call of the text is rewritten to the given literal and parameters, from an expression
with the given property. -/
def rewrites (property : Node → Bool) (result : Text × List Text) (call : Place) : Bool :=
  (target (Script.ofText text) call).toOption.any fun n =>
    property n && (parameterized (Script.ofText text) n).toOption == some result

theorem text_facts :
    Script.isRead text = true ∧
      (∃ call ∈ (Script.ofText text).places, isCandidate call = true ∧
        rewrites (fun n => decide (Interpolates (Script.ofText text) n [] operands)) apart call =
          true) ∧
      ∃ call ∈ (Script.ofText text).places, isCandidate call = true ∧
        rewrites (isSum (Script.ofText text)) joined call = true := by
  unfold rewrites text
  repeat rw [Text.ofString_ofList]
  decide +kernel

theorem exists_of_rewrites {property : Node → Bool} {result : Text × List Text} {call : Place}
    (h : rewrites property result call = true) :
    ∃ n, target (Script.ofText text) call = .ok n ∧ property n = true ∧
      parameterized (Script.ofText text) n = .ok result := by
  obtain ⟨n, htarget, hn⟩ := (Option.any_eq_true _ _).mp h
  rw [Bool.and_eq_true, beq_iff_eq] at hn
  exact ⟨n, ok_of_toOption htarget, hn.1, ok_of_toOption hn.2⟩

theorem adds_of_isSum {s : Script} {n : Node} (h : isSum s n = true) : Adds s n [] operands := by
  simp only [isSum, isName, Option.any_eq_true, Bool.and_eq_true, beq_iff_eq] at h
  obtain ⟨⟨m, b⟩, houter, ⟨first, a⟩, hinner, ⟨hfirst, ha, hasource⟩, hb, hbsource⟩ := h
  obtain ⟨span, l, r, rfl⟩ := exists_of_sides? houter
  obtain ⟨span', l', r', rfl⟩ := exists_of_sides? hinner
  have hinner : Adds s (.mk (.binary "+") span' [(l', first), (r', a)]) [] ([] ++ [⟨"a", []⟩]) :=
    .name (.first hfirst) ha hasource
  exact .name hinner hb hbsource

end Joined

/-- Two spellings of one query can have different repairs. The calls of this text run two operands
side by side, once in a template and once in a sum. They are one parameter in the sum, and in the
template they are two, with nothing between their placeholders. -/
theorem joined_in_sum_only :
    ∃ s call call' template sum, Script.parse Joined.text = .ok (.ok s) ∧ call ∈ s.places ∧
      call' ∈ s.places ∧ isCandidate call = true ∧ isCandidate call' = true ∧
      target s call = .ok template ∧ target s call' = .ok sum ∧
      Interpolates s template [] Joined.operands ∧ Adds s sum [] Joined.operands ∧
      parameterized s template = .ok ("\"??\"", ["a", "b"]) ∧
      parameterized s sum = .ok ("\"?\"", ["`$\x7ba\x7d$\x7bb\x7d`"]) := by
  obtain ⟨hread, ⟨call, hcall, hcandidate, htemplate⟩, call', hcall', hcandidate', hsum⟩ :=
    Joined.text_facts
  obtain ⟨template, htarget, hinterpolates, htemplate⟩ := Joined.exists_of_rewrites htemplate
  obtain ⟨sum, htarget', hadds, hsum⟩ := Joined.exists_of_rewrites hsum
  exact ⟨_, call, call', template, sum, Script.parse_of_isRead hread, hcall,
    hcall', hcandidate, hcandidate', htarget, htarget',
    of_decide_eq_true hinterpolates, Joined.adds_of_isSum hadds, htemplate, hsum⟩

end Readiness.Query
