import Mathlib.Data.List.Count
import Readiness.Proofs.QueryAssembly

/-!
# Where placeholders stand

A query that is put together well keeps the order of its pieces: each run of values
has a placeholder where it stood and a parameter of its own, and what is neither
placeholder nor parameter is the text around it, less the quotes that were taken off.
`Placed` says this by cutting the pieces into slots, one for each run: the text that
stays in front of the placeholder, the run, and the quotation around it if there was
one.

Whether a query is placed can be told by counting, and that is the theorem. There is
always one parameter for each run, and never a placeholder too many. There may be one
too few: where a quoted string holds several runs, the quotes come off around the last
one, and what stood in front of it inside of them moves into its parameter, earlier
placeholders included. `Swallows` is that event. As long as it does not happen the
slots can be read off step by step, and once it has happened the numbers never agree
again.
-/

namespace Readiness.Query

open Script

/-! ## Slots -/

/-- What a query is made of, one after the other: its characters and its runs of values. -/
inductive Item where
  | char (c : CodePoint)
  | run (sources : List Text)
deriving DecidableEq

def chars (t : Text) : List Item := t.map .char

def Piece.items : Piece → List Item
  | .text t => chars t
  | .values run => [.run run]

/-- The items of pieces. -/
def items (pieces : List Piece) : List Item := pieces.flatMap Piece.items

theorem items_append (l m : List Piece) : items (l ++ m) = items l ++ items m :=
  List.flatMap_append

theorem items_more (before : List Piece) (run : List Text) (t : Text) :
    items (before ++ [Piece.values run, .text t]) = items before ++ .run run :: chars t := by
  rw [items_append]
  simp [items, Piece.items]

theorem chars_append (t u : Text) : chars (t ++ u) = chars t ++ chars u := List.map_append

theorem count_chars (t : Text) (c : CodePoint) : (chars t).count (.char c) = t.count c :=
  List.count_map_of_injective t Item.char (fun _ _ h => Item.char.inj h) c

/-- What is taken off around a run: a pair of quotes, and the texts inside of them in front of the
run and behind it. -/
structure Quotation where
  quote : CodePoint
  front : Text
  back : Text

/-- A run of values in a query, with the text in front of it that stays, and the quotation around it
if one is taken off. -/
structure Slot where
  lead : Text
  run : List Text
  quotation : Option Quotation

namespace Slot

/-- The text between the lead and the run. -/
def opening (s : Slot) : Text :=
  match s.quotation with
  | none => []
  | some u => u.quote :: u.front

/-- The text behind the run that goes with it. -/
def closing (s : Slot) : Text :=
  match s.quotation with
  | none => []
  | some u => u.back ++ [u.quote]

/-- The parameter of the run. -/
def parameter (s : Slot) : Text :=
  match s.quotation with
  | none => Query.parameter s.run [] []
  | some u => Query.parameter s.run u.front u.back

def items (s : Slot) : List Item := chars (s.lead ++ s.opening) ++ .run s.run :: chars s.closing

/-- What becomes of the slot in the query. -/
def sql (s : Slot) : Text := shortenEnd s.lead ++ [mark]

end Slot

/-- A query and its parameters keep the order of the pieces: slot for slot, the text that stays is
followed by the placeholder of the slot's run, and the parameters are those of the slots. -/
structure Placed (pieces : List Piece) (p : Parameterized) (slots : List Slot) (tail : Text) :
    Prop where
  items : items pieces = slots.flatMap Slot.items ++ chars tail
  sql : p.sql = slots.flatMap Slot.sql ++ tail
  params : p.params = slots.map Slot.parameter

/-- The text in front of the last run of blanks is no business of `shortenEnd`. -/
theorem shortenEnd_slots (slots : List Slot) (t : Text) :
    shortenEnd (slots.flatMap Slot.sql ++ t) = slots.flatMap Slot.sql ++ shortenEnd t := by
  rcases List.eq_nil_or_concat slots with rfl | ⟨init, s, rfl⟩
  · rfl
  · have hlast : ∀ u : Text, (init.concat s).flatMap Slot.sql ++ u =
        (init.flatMap Slot.sql ++ shortenEnd s.lead) ++ mark :: u := by
      intro u
      rw [List.concat_eq_append, List.flatMap_append, List.flatMap_singleton, Slot.sql]
      simp
    rw [hlast, hlast, shortenEnd_solid rfl (by decide)]

theorem Placed.kept {before : List Piece} {p : Parameterized} {slots : List Slot} {tail : Text}
    (h : Placed before p slots tail) (run : List Text) (t : Text) :
    Placed (before ++ [Piece.values run, .text t])
      ⟨shortenEnd p.sql ++ mark :: t, p.params ++ [parameter run [] []]⟩
      (slots ++ [⟨tail, run, none⟩]) t := by
  constructor
  · rw [items_more, h.items]
    simp [Slot.items, Slot.opening, Slot.closing, chars]
  · rw [h.sql, shortenEnd_slots]
    simp [Slot.sql]
  · rw [h.params]
    simp [Slot.parameter]

theorem Placed.taken {before : List Piece} {p : Parameterized} {slots : List Slot}
    {q : CodePoint} {lead front : Text} (h : Placed before p slots (lead ++ q :: front))
    (run : List Text) (back rest : Text) :
    Placed (before ++ [Piece.values run, .text (back ++ q :: rest)])
      ⟨shortenEnd (slots.flatMap Slot.sql ++ lead) ++ mark :: rest,
        p.params ++ [parameter run front back]⟩
      (slots ++ [⟨lead, run, some ⟨q, front, back⟩⟩]) rest := by
  constructor
  · rw [items_more, h.items]
    simp [Slot.items, Slot.opening, Slot.closing, chars]
  · rw [shortenEnd_slots]
    simp [Slot.sql]
  · rw [h.params]
    simp [Slot.parameter]

/-! ## Counting placeholders -/

/-- A run behind these pieces, with the text behind it, takes an earlier placeholder into its
parameter: the quote that is open stands in front of one, and the text closes it. -/
def Swallows (before : List Piece) (t : Text) : Prop :=
  ∃ p q cut front, assemble before = .ok p ∧ openQuote? p.sql = some q ∧ q ∈ t ∧
    p.sql = cut ++ q :: front ∧ q ∉ front ∧ mark ∈ front

/-- Somewhere in the pieces a placeholder is taken into a later parameter. -/
def SwallowsOne (pieces : List Piece) : Prop :=
  ∃ before run t, before ++ [.values run, .text t] <+: pieces ∧ Swallows before t

theorem isPrefix_more {before l : List Piece} {run r : List Text} {t u : Text} :
    l ++ [Piece.values r, .text u] <+: before ++ [Piece.values run, .text t] ↔
      l ++ [Piece.values r, .text u] <+: before ∨ l = before ∧ r = run ∧ u = t := by
  have htwo : ∀ (m : List Piece) (a b : Piece), m ++ [a, b] = (m ++ [a]) ++ [b] := by simp
  rw [htwo before, List.prefix_concat_iff, List.prefix_concat_iff, htwo l]
  constructor
  · rintro (hsame | hsame | hprefix)
    · obtain ⟨hinit, hlast⟩ := List.append_inj' hsame rfl
      obtain ⟨rfl, hrun⟩ := List.append_inj' hinit rfl
      cases hlast
      cases hrun
      exact .inr ⟨rfl, rfl, rfl⟩
    · obtain ⟨-, hlast⟩ := List.append_inj' hsame rfl
      cases hlast
    · exact .inl hprefix
  · rintro (hbefore | ⟨rfl, rfl, rfl⟩)
    · exact .inr (.inr hbefore)
    · exact .inl rfl

theorem swallowsOne_more {before : List Piece} {run : List Text} {t : Text} :
    SwallowsOne (before ++ [Piece.values run, .text t]) ↔
      SwallowsOne before ∨ Swallows before t := by
  constructor
  · rintro ⟨l, r, u, hprefix, hswallows⟩
    rcases isPrefix_more.mp hprefix with hbefore | ⟨rfl, rfl, rfl⟩
    · exact .inl ⟨l, r, u, hbefore, hswallows⟩
    · exact .inr hswallows
  · rintro (⟨l, r, u, hprefix, hswallows⟩ | hswallows)
    · exact ⟨l, r, u, hprefix.trans (List.prefix_append _ _), hswallows⟩
    · exact ⟨before, run, t, List.prefix_rfl, hswallows⟩

/-- The texts of the pieces have no placeholder of their own. -/
def Unmarked (pieces : List Piece) : Prop := ∀ t, .text t ∈ pieces → mark ∉ t

/-- What the numbers of placeholders and parameters say about a query. -/
structure Counted (pieces : List Piece) (p : Parameterized) : Prop where
  params : p.params.length = pieces.countP Piece.isValues
  marks : p.sql.count mark ≤ p.params.length
  fewer : p.sql.count mark < p.params.length ↔ SwallowsOne pieces
  placed : p.sql.count mark = p.params.length → ∃ slots tail, Placed pieces p slots tail

theorem not_swallowsOne_of_length {pieces : List Piece} (h : pieces.length < 2) :
    ¬ SwallowsOne pieces := by
  rintro ⟨before, run, t, hprefix, -⟩
  have hlength := hprefix.length_le
  simp at hlength
  omega

theorem counted_text {t : Text} (plain : mark ∉ t) : Counted [.text t] ⟨t, []⟩ := by
  have hcount : t.count mark = 0 := List.count_eq_zero.mpr plain
  constructor
  · rfl
  · exact Nat.le_of_eq hcount
  · constructor
    · intro hless
      cases hless
    · intro hswallows
      exact absurd hswallows (not_swallowsOne_of_length (by simp))
  · intro _
    exact ⟨[], t, by simp [items, Piece.items], rfl, rfl⟩

/-- Placeholders end slots, so the text from a quote on that has none lies in the last one. -/
theorem exists_lead {slots : List Slot} {tail cut rest : Text}
    (same : slots.flatMap Slot.sql ++ tail = cut ++ rest) (plain : mark ∉ rest) :
    ∃ lead, tail = lead ++ rest ∧ cut = slots.flatMap Slot.sql ++ lead := by
  rcases List.append_eq_append_iff.mp same with ⟨lead, hcut, htail⟩ | ⟨u, hslots, hrest⟩
  · exact ⟨lead, htail, hcut⟩
  · rcases List.eq_nil_or_concat slots with rfl | ⟨init, s, rfl⟩
    · obtain ⟨rfl, rfl⟩ := List.append_eq_nil_iff.mp hslots.symm
      exact ⟨[], hrest.symm, rfl⟩
    · rcases List.eq_nil_or_concat u with rfl | ⟨u', c, rfl⟩
      · exact ⟨[], hrest.symm, by rw [hslots]; simp⟩
      · rw [List.concat_eq_append, List.flatMap_append, List.flatMap_singleton, Slot.sql,
          List.concat_eq_append, ← List.append_assoc, ← List.append_assoc] at hslots
        obtain ⟨-, hc⟩ := List.append_inj' hslots rfl
        cases hc
        refine absurd ?_ plain
        rw [hrest]
        simp

theorem countP_more (before : List Piece) (run : List Text) (t : Text) :
    (before ++ [Piece.values run, .text t]).countP Piece.isValues =
      before.countP Piece.isValues + 1 := by
  rw [List.countP_append]
  rfl

theorem Counted.kept {before : List Piece} {run : List Text} {t : Text} {p : Parameterized}
    (h : Counted before p) (assembled : assemble before = .ok p) (plain : mark ∉ t)
    (closed : ∀ q, openQuote? p.sql = some q → q ∉ t) :
    Counted (before ++ [Piece.values run, .text t])
      ⟨shortenEnd p.sql ++ mark :: t, p.params ++ [parameter run [] []]⟩ := by
  have hmarks := h.marks
  have hcount : (shortenEnd p.sql ++ mark :: t).count mark = p.sql.count mark + 1 := by
    rw [List.count_append, List.count_cons_self, List.count_eq_zero.mpr plain,
      count_shortenEnd rfl]
  have hlength : (p.params ++ [parameter run [] []]).length = p.params.length + 1 := by simp
  have hquiet : ¬ Swallows before t := by
    rintro ⟨p', q, cut, front, hp', hopen, hmem, -⟩
    cases assembled.symm.trans hp'
    exact closed q hopen hmem
  constructor
  · rw [countP_more, ← h.params]
    exact hlength
  · dsimp only
    omega
  · rw [swallowsOne_more, ← h.fewer]
    dsimp only
    rw [hcount, hlength]
    simp [hquiet]
  · intro hsame
    obtain ⟨slots, tail, hplaced⟩ := h.placed (by dsimp only at hsame; omega)
    exact ⟨_, t, hplaced.kept run t⟩

theorem swallows_iff {before : List Piece} {t : Text} {p : Parameterized} {q : CodePoint}
    {cut front : Text} (assembled : assemble before = .ok p)
    (isOpen : openQuote? p.sql = some q) (sql : p.sql = cut ++ q :: front) (last : q ∉ front)
    (closed : q ∈ t) : Swallows before t ↔ 0 < front.count mark := by
  rw [List.count_pos_iff]
  constructor
  · rintro ⟨p', q', cut', front', hp', hopen, -, hsql, hlast, hmem⟩
    cases assembled.symm.trans hp'
    cases isOpen.symm.trans hopen
    obtain ⟨-, rfl⟩ := Text.last_unique last hlast (sql.symm.trans hsql)
    exact hmem
  · exact fun hmem => ⟨p, q, cut, front, assembled, isOpen, closed, sql, last, hmem⟩

theorem Counted.taken {before : List Piece} {run : List Text} {p : Parameterized}
    {q : CodePoint} {cut front back rest : Text} (h : Counted before p)
    (assembled : assemble before = .ok p) (plain : mark ∉ back ++ q :: rest)
    (isOpen : openQuote? p.sql = some q) (sql : p.sql = cut ++ q :: front) (last : q ∉ front) :
    Counted (before ++ [Piece.values run, .text (back ++ q :: rest)])
      ⟨shortenEnd cut ++ mark :: rest, p.params ++ [parameter run front back]⟩ := by
  have hmarks := h.marks
  have hquote : q ≠ mark := by
    rcases quote_of_openQuote? isOpen with rfl | rfl <;> decide
  have hbefore : p.sql.count mark = cut.count mark + front.count mark := by
    rw [sql, List.count_append, List.count_cons_of_ne hquote]
  have hrest : mark ∉ rest := fun hmem => plain (by simp [hmem])
  have hcount : (shortenEnd cut ++ mark :: rest).count mark = cut.count mark + 1 := by
    rw [List.count_append, List.count_cons_self, List.count_eq_zero.mpr hrest,
      count_shortenEnd rfl]
  have hlength : (p.params ++ [parameter run front back]).length = p.params.length + 1 := by simp
  constructor
  · rw [countP_more, ← h.params]
    exact hlength
  · dsimp only
    omega
  · rw [swallowsOne_more, ← h.fewer, swallows_iff assembled isOpen sql last (by simp)]
    dsimp only
    omega
  · intro hsame
    dsimp only at hsame
    obtain ⟨slots, tail, hplaced⟩ := h.placed (by omega)
    have hfront : mark ∉ q :: front := by
      rw [List.mem_cons, not_or, ← List.count_eq_zero]
      exact ⟨hquote.symm, by omega⟩
    -- No placeholder is lost, so the quote that comes off stands behind the last slot.
    obtain ⟨lead, rfl, rfl⟩ := exists_lead (hplaced.sql.symm.trans sql) hfront
    exact ⟨_, rest, hplaced.taken run back rest⟩

theorem counted_step {before : List Piece} {run : List Text} {t : Text} {p p' : Parameterized}
    (assembled : assemble before = .ok p) (h : Counted before p) (plain : mark ∉ t)
    (step : Step p run t p') : Counted (before ++ [Piece.values run, .text t]) p' := by
  cases step with
  | kept closed => exact h.kept assembled plain closed
  | taken isOpen sql last next first =>
      subst next
      exact h.taken assembled plain isOpen sql last

theorem unmarked_append {l m : List Piece} (h : Unmarked (l ++ m)) : Unmarked l ∧ Unmarked m :=
  ⟨fun t ht => h t (List.mem_append_left m ht), fun t ht => h t (List.mem_append_right l ht)⟩

theorem counted_of_woven {pieces : List Piece} (woven : Woven pieces) (plain : Unmarked pieces) :
    ∃ p, assemble pieces = .ok p ∧ Counted pieces p := by
  have hnil : Unmarked [] → Counted [] ⟨[], []⟩ := fun _ =>
    ⟨rfl, Nat.le_refl _, ⟨nofun, fun h => absurd h (not_swallowsOne_of_length (by simp))⟩,
      fun _ => ⟨[], [], rfl, rfl, rfl⟩⟩
  have htext : ∀ t, Unmarked [.text t] → Counted [.text t] ⟨t, []⟩ :=
    fun t h => counted_text (h t (by simp))
  obtain ⟨p, hp, hcounted, -⟩ := assemble_invariant
    (P := fun pieces p => Unmarked pieces → Counted pieces p) hnil htext
    (fun _ hp h hstep hplain =>
      have hboth := unmarked_append hplain
      counted_step hp (h hboth.1) (hboth.2 _ (by simp)) hstep) woven
  exact ⟨p, hp, hcounted plain⟩

/-- An empty text at the end changes nothing. -/
theorem counted_of_full {pieces full : List Piece} {p : Parameterized}
    (h : full = pieces ∨ full = pieces ++ [Piece.text []]) (counted : Counted full p) :
    Counted pieces p := by
  rcases h with rfl | rfl
  · exact counted
  · have hitems : items (pieces ++ [Piece.text []]) = items pieces := by
      rw [items_append]
      exact List.append_nil _
    have hone : SwallowsOne (pieces ++ [Piece.text []]) ↔ SwallowsOne pieces := by
      constructor
      · rintro ⟨before, run, t, hprefix, hswallows⟩
        refine ⟨before, run, t, ?_, hswallows⟩
        rcases List.prefix_concat_iff.mp hprefix with hsame | hprefix
        · have htwo : before ++ [Piece.values run, .text t] =
              before ++ [Piece.values run] ++ [Piece.text t] := by
            simp
          rw [htwo] at hsame
          obtain ⟨-, hlast⟩ := List.append_inj' hsame rfl
          cases hlast
          obtain ⟨_, _, _, _, -, -, hmem, -⟩ := hswallows
          cases hmem
        · exact hprefix
      · rintro ⟨before, run, t, hprefix, hswallows⟩
        exact ⟨before, run, t, hprefix.trans (List.prefix_append _ _), hswallows⟩
    constructor
    · rw [counted.params, List.countP_append]
      rfl
    · exact counted.marks
    · rw [counted.fewer, hone]
    · intro hsame
      obtain ⟨slots, tail, hplaced⟩ := counted.placed hsame
      exact ⟨slots, tail, hitems.symm.trans hplaced.items, hplaced.sql, hplaced.params⟩

theorem unmarked_items {pieces : List Piece} (plain : Unmarked pieces) :
    .char mark ∉ items pieces := by
  intro hmem
  obtain ⟨piece, hpiece, hmem⟩ := List.mem_flatMap.mp hmem
  cases piece with
  | text t =>
      obtain ⟨c, hc, hchar⟩ := List.mem_map.mp hmem
      cases hchar
      exact plain t hpiece hc
  | values run =>
      have hrun := List.mem_singleton.mp hmem
      cases hrun

/-- The slots of pieces have no placeholders in their texts. -/
theorem Placed.unmarked {pieces : List Piece} {p : Parameterized} {slots : List Slot} {tail : Text}
    (h : Placed pieces p slots tail) (plain : Unmarked pieces) :
    (∀ s ∈ slots, mark ∉ s.lead) ∧ mark ∉ tail := by
  have hplain := unmarked_items plain
  rw [h.items, List.mem_append, not_or] at hplain
  refine ⟨fun s hs hmem => hplain.1 ?_, fun hmem => hplain.2 (List.mem_map_of_mem hmem)⟩
  refine List.mem_flatMap.mpr ⟨s, hs, List.mem_append_left _ (List.mem_map_of_mem ?_)⟩
  exact List.mem_append_left _ hmem

theorem count_slots {slots : List Slot} (plain : ∀ s ∈ slots, mark ∉ s.lead) :
    (slots.flatMap Slot.sql).count mark = slots.length := by
  induction slots with
  | nil => rfl
  | cons s slots ih =>
      have hs : (shortenEnd s.lead).count mark = 0 := by
        rw [count_shortenEnd rfl, List.count_eq_zero]
        exact plain s List.mem_cons_self
      have hrest := ih fun s' hs' => plain s' (List.mem_cons_of_mem s hs')
      rw [List.flatMap_cons, List.count_append, hrest, Slot.sql, List.count_append, hs,
        List.count_singleton_self, List.length_cons]
      omega

/-- Where the placeholders of a query stand, for every expression whose texts have none of their
own. There is one parameter for each run of values, and never more placeholders than parameters.
The numbers agree exactly if each placeholder stands where its run stood and has that run's
parameter, slot for slot, and this fails in one case only: some run takes an earlier
placeholder into its parameter. -/
theorem assemble_positions (s : Script) (query : Node) (plain : Unmarked (pieces s query)) :
    ∃ p, assemble (pieces s query) = .ok p ∧
      p.params.length = (pieces s query).countP Piece.isValues ∧
      p.sql.count mark ≤ p.params.length ∧
      (p.sql.count mark = p.params.length ↔ ¬ SwallowsOne (pieces s query)) ∧
      (p.sql.count mark = p.params.length ↔
        ∃ slots tail, Placed (pieces s query) p slots tail ∧
          (∀ slot ∈ slots, mark ∉ slot.lead) ∧ mark ∉ tail) := by
  obtain ⟨full, hwoven, hassemble, hfull⟩ := exists_full (alternates_pieces s query)
  have hplain : Unmarked full := by
    rcases hfull with rfl | rfl
    · exact plain
    · intro t ht
      rcases List.mem_append.mp ht with ht | ht
      · exact plain t ht
      · cases List.mem_singleton.mp ht
        exact List.not_mem_nil
  obtain ⟨p, hp, hcounted⟩ := counted_of_woven hwoven hplain
  have h := counted_of_full hfull hcounted
  refine ⟨p, hassemble.symm.trans hp, h.params, h.marks, ?_, ?_⟩
  · have hmarks := h.marks
    rw [← h.fewer]
    omega
  · constructor
    · intro hsame
      obtain ⟨slots, tail, hplaced⟩ := h.placed hsame
      exact ⟨slots, tail, hplaced, hplaced.unmarked plain⟩
    · rintro ⟨slots, tail, hplaced, hleads, htail⟩
      rw [hplaced.sql, List.count_append, count_slots hleads, List.count_eq_zero.mpr htail,
        hplaced.params, List.length_map, Nat.add_zero]

/-! Two values in one quoted string. -/

namespace Twice

def text : Text := "run(\"'\"+a+\" \"+b+\"'\")"

def built : List Piece := [.text "'", .values ["a"], .text " ", .values ["b"], .text "'"]

def assembled : Parameterized := ⟨"?", ["a", "`? $\x7bb\x7d`"]⟩

theorem text_facts :
    Script.isPlain text = true ∧ ∃ call ∈ (Script.ofText text).places, isCandidate call = true ∧
      (target (Script.ofText text) call).toOption.map (pieces (Script.ofText text)) =
        some built := by
  rw [text, Text.ofString_ofList]
  decide +kernel

/-- The pieces are those of the query that the call of the text runs. -/
theorem exists_query : ∃ s call query, Script.parse text = .ok (.ok s) ∧ call ∈ s.places ∧
    isCandidate call = true ∧ target s call = .ok query ∧ pieces s query = built := by
  obtain ⟨hplain, call, hcall, hcandidate, htarget⟩ := text_facts
  obtain ⟨query, hquery, hpieces⟩ := Option.map_eq_some_iff.mp htarget
  exact ⟨_, call, query, Script.parse_of_isPlain hplain, hcall, hcandidate,
    ok_of_toOption hquery, hpieces⟩

theorem assemble_built : assemble built = .ok assembled := by rfl

theorem unmarked_built : Unmarked built := by
  intro t ht
  simp only [built, List.mem_cons, Piece.text.injEq, reduceCtorEq, List.not_mem_nil, or_false,
    false_or] at ht
  rcases ht with rfl | rfl | rfl <;> decide

end Twice

theorem assemble_positions_sample :
    ∃ s query p, Unmarked (pieces s query) ∧ assemble (pieces s query) = .ok p ∧
      p.params.length = 2 ∧ SwallowsOne (pieces s query) := by
  obtain ⟨s, -, query, -, -, -, -, hpieces⟩ := Twice.exists_query
  have hplain : Unmarked (pieces s query) := by
    rw [hpieces]
    exact Twice.unmarked_built
  obtain ⟨p, hp, hparams, -, hnever, -⟩ := assemble_positions s query hplain
  have hassembled : p = Twice.assembled := by
    rw [hpieces, Twice.assemble_built] at hp
    exact (Except.ok.inj hp).symm
  refine ⟨s, query, p, hplain, hp, ?_, ?_⟩
  · rw [hparams, hpieces]
    rfl
  · by_contra hnone
    have hsame := hnever.mpr hnone
    rw [hassembled] at hsame
    exact absurd hsame (by decide)

/-- A query can come to more parameters than placeholders. The call of this text runs a quoted
string with two values in it. The second value takes the string with it, and with the string the
placeholder of the first one: what is left is a single placeholder, and two parameters, of which the
second one has a question mark for the first. -/
theorem placeholder_swallowed :
    ∃ s call query p, Script.parse Twice.text = .ok (.ok s) ∧ call ∈ s.places ∧
      isCandidate call = true ∧ target s call = .ok query ∧ Unmarked (pieces s query) ∧
      assemble (pieces s query) = .ok p ∧ p.params = ["a", "`? $\x7bb\x7d`"] ∧
      (pieces s query).countP Piece.isValues = 2 ∧ p.sql.count mark = 1 := by
  obtain ⟨s, call, query, hparse, hcall, hcandidate, htarget, hpieces⟩ := Twice.exists_query
  refine ⟨s, call, query, Twice.assembled, hparse, hcall, hcandidate, htarget, ?_⟩
  rw [hpieces]
  exact ⟨Twice.unmarked_built, Twice.assemble_built, rfl, rfl, by decide⟩

end Readiness.Query
