import Readiness.Proofs.PlaceholderOrder

/-!
# Quotes come off as whole strings

The quotes around a value are taken off by parity: an odd number of one quote in the
query so far means that a string is open, the last such quote is taken to be where it
starts, and the next one where it ends. A reader of the query would go from left to
right instead. `Mode` is that reader: one quote opens a string, the same quote ends it,
a doubled one is a quote inside of it, and the other quote means nothing there.

The two agree as long as strings with values in them hold no quote of their own, and
others hold the other quote an even number of times. A string in single quotes may hold
any double ones besides its values, since single quotes are counted first; one in double
quotes holds an even number of single ones in front of each value. `Clean` says so, and
`unquoted_whole` is what follows: what is taken off is a string, from the quote that
opens it to the quote that ends it. Without the first demand the string is cut at a
doubled quote, and without the second one quotes are taken off where there is no string
at all.
-/

namespace Readiness.Query

open Script

/-! ## Strings of a query -/

/-- Whether a character can open a string. -/
def isQuote (c : CodePoint) : Bool := c == single || c == double

/-- The quote that is not this one. -/
def other (q : CodePoint) : CodePoint := if q = single then double else single

theorem quote_cases {q r : CodePoint} (hq : isQuote q = true) (hr : isQuote r = true) :
    r = q ∨ r = other q ∧ r ≠ q := by
  have hor : ∀ c : CodePoint, isQuote c = true → c = single ∨ c = double := by
    intro c hc
    simpa [isQuote] using hc
  rcases hor q hq with rfl | rfl <;> rcases hor r hr with rfl | rfl <;> decide

theorem isSpacing_of_isQuote {q : CodePoint} (h : isQuote q = true) :
    isSpacing q = false ∧ q ≠ .char '\n' ∧ q ≠ mark := by
  have hor : q = single ∨ q = double := by simpa [isQuote] using h
  rcases hor with rfl | rfl <;> decide

def Item.isRun : Item → Bool
  | .char _ => false
  | .run _ => true

/-- Where a reader of a query is: outside of strings, inside of one, or behind a quote that ends one
unless it is doubled. A string is known by its quote and by what it holds so far. -/
inductive Mode where
  | outside
  | inside (quote : CodePoint) (held : List Item)
  | ended (quote : CodePoint) (held : List Item)
deriving DecidableEq

namespace Mode

/-- Where a character leads that is read outside of strings. -/
def start (c : CodePoint) : Mode := if isQuote c then .inside c [] else .outside

/-- Where an item leads. -/
def next (m : Mode) (i : Item) : Mode :=
  match m, i with
  | .outside, .char c => start c
  | .outside, .run _ => .outside
  | .inside q held, i => if i = .char q then .ended q held else .inside q (held ++ [i])
  | .ended q held, .char c => if c = q then .inside q (held ++ [.char q, .char q]) else start c
  | .ended _ _, .run _ => .outside

end Mode

def modeAfter (l : List Item) : Mode := l.foldl Mode.next .outside

theorem modeAfter_snoc (l : List Item) (i : Item) :
    modeAfter (l ++ [i]) = (modeAfter l).next i := List.foldl_concat ..

/-- The items between `lead` and `rest` are a string: its first quote opens it, what it holds does
not end it, and its last quote is not doubled. -/
structure IsString (lead : List Item) (q : CodePoint) (held rest : List Item) : Prop where
  opens : modeAfter (lead ++ [.char q]) = .inside q []
  closes : modeAfter (lead ++ .char q :: (held ++ [.char q])) = .ended q held
  whole : rest.head? ≠ some (.char q)

/-- What may have been read in front of `next`. A string that holds a run holds none of its quotes, and
directly behind a run one in double quotes holds an even number of single ones. A string without
runs that is over, because `next` does not double its last quote, holds the other quote an even
number of times. -/
def Mode.Clean (next : Option Item) : Mode → Prop
  | .outside => True
  | .inside q held => held.any Item.isRun = true → .char q ∉ held ∧
      (held.getLast?.any Item.isRun = true → q = double → held.count (.char single) % 2 = 0)
  | .ended q held => held.any Item.isRun = true ∨ (∀ i ∈ next, i = .char q) ∨
      held.count (.char (other q)) % 2 = 0

instance (next : Option Item) (m : Mode) : Decidable (m.Clean next) :=
  match m with
  | .outside => inferInstanceAs (Decidable True)
  | .inside _ _ => inferInstanceAs (Decidable (_ → _ ∧ (_ → _ → _)))
  | .ended _ _ => inferInstanceAs (Decidable (_ ∨ _ ∨ _))

/-- Strings with runs in them hold none of their quotes, and in front of each run those in double
quotes hold an even number of single ones; other strings hold the other quote an even number of
times. -/
def Clean (l : List Item) : Prop := ∀ n ≤ l.length, (modeAfter (l.take n)).Clean (l.drop n).head?

instance (l : List Item) : Decidable (Clean l) := Nat.decidableBallLE _ _

theorem Clean.at {front rest : List Item} (h : Clean (front ++ rest)) :
    (modeAfter front).Clean rest.head? := by
  have hfront := h front.length (by simp)
  rwa [List.take_left, List.drop_left] at hfront

theorem Clean.atEnd {l : List Item} (h : Clean l) : (modeAfter l).Clean none := by
  rw [← List.append_nil l] at h
  exact h.at

theorem Clean.front {front rest : List Item} (h : Clean (front ++ rest)) : Clean front := by
  intro n hn
  have hsplit : front ++ rest = front.take n ++ (front.drop n ++ rest) := by
    rw [← List.append_assoc, List.take_append_drop]
  rw [hsplit] at h
  have hclean := h.at
  cases hm : modeAfter (front.take n) with
  | outside => trivial
  | inside q held =>
      rw [hm] at hclean
      exact hclean
  | ended q held =>
      rw [hm] at hclean
      cases hdrop : front.drop n with
      | nil => exact .inr (.inl nofun)
      | cons i more =>
          rw [hdrop] at hclean
          exact hclean

theorem modeAfter_chars {l held : List Item} {q : CodePoint} (inside : modeAfter l = .inside q held)
    {t : Text} (plain : q ∉ t) : modeAfter (l ++ chars t) = .inside q (held ++ chars t) := by
  induction t using List.reverseRecOn with
  | nil => simpa [chars] using inside
  | append_singleton t c ih =>
      rw [List.mem_append, not_or, List.mem_singleton] at plain
      have hc : Item.char c ≠ .char q := fun h => plain.2 (Item.char.inj h).symm
      have hsnoc : chars (t ++ [c]) = chars t ++ [Item.char c] := chars_append t [c]
      rw [hsnoc, ← List.append_assoc, ← List.append_assoc, modeAfter_snoc, ih plain.1, Mode.next,
        if_neg hc]

theorem modeAfter_run {l held : List Item} {q : CodePoint} (inside : modeAfter l = .inside q held)
    (run : List Text) : modeAfter (l ++ [Item.run run]) = .inside q (held ++ [Item.run run]) := by
  rw [modeAfter_snoc, inside, Mode.next, if_neg (by simp)]

/-- A string that goes on behind a run ends at the next one of its quotes. -/
theorem modeAfter_ends {l held : List Item} {q : CodePoint} (inside : modeAfter l = .inside q held)
    (run : List Text) {back : Text} (first : q ∉ back) :
    modeAfter (l ++ [Item.run run] ++ chars back ++ [Item.char q]) =
      .ended q (held ++ .run run :: chars back) := by
  rw [modeAfter_snoc, modeAfter_chars (modeAfter_run inside run) first, Mode.next, if_pos rfl,
    ← List.append_cons]

/-! ## What the numbers of quotes say -/

/-- No quote is open: both occur an even number of times. -/
def Paired (sql : Text) : Prop := ∀ q, isQuote q = true → sql.count q % 2 = 0

theorem openQuote?_of_paired {sql : Text} (h : Paired sql) : openQuote? sql = none := by
  have hsingle := h single rfl
  have hdouble := h double rfl
  rw [openQuote?_eq, if_neg (by omega), if_neg (by omega)]

/-- The quote of an open string is found if the string holds none of its quotes, and an even number of
single ones if it is in double quotes. -/
theorem openQuote?_of_last {cut front : Text} {q : CodePoint} (quote : isQuote q = true)
    (paired : Paired cut) (plain : q ∉ front)
    (even : q = double → front.count single % 2 = 0) : openQuote? (cut ++ q :: front) = some q := by
  have hcount : ∀ r, (cut ++ q :: front).count r =
      cut.count r + front.count r + if q = r then 1 else 0 := by
    intro r
    rw [List.count_append, List.count_cons, Nat.add_assoc]
    simp
  have hsingle := paired single rfl
  have hdouble := paired double rfl
  have hown := List.count_eq_zero.mpr plain
  have hor : q = single ∨ q = double := by simpa [isQuote] using quote
  rw [openQuote?_eq, hcount single, hcount double]
  rcases hor with rfl | rfl
  · rw [if_pos (by rw [if_pos rfl]; omega)]
  · have heven := even rfl
    rw [if_neg (by rw [if_neg (by decide)]; omega), if_pos (by rw [if_pos rfl]; omega)]

theorem Paired.keep {sql t : Text} (h : Paired sql) (plain : ∀ q, isQuote q = true → q ∉ t) :
    Paired (shortenEnd sql ++ t) := by
  intro q hq
  rw [List.count_append, count_shortenEnd (isSpacing_of_isQuote hq).1,
    List.count_eq_zero.mpr (plain q hq)]
  exact h q hq

theorem mark_plain : ∀ q, isQuote q = true → q ∉ [mark] := by
  intro q hq hmem
  exact (isSpacing_of_isQuote hq).2.2 (List.mem_singleton.mp hmem)

/-- A string is open in a query: in front of it stands the query of the items in front, without an
open quote, and behind its quote stand the quotes that it holds. -/
structure Opened (lead : List Item) (q : CodePoint) (held : List Item) (cut front : Text) :
    Prop where
  quote : isQuote q = true
  opens : modeAfter (lead ++ [.char q]) = .inside q []
  reached : ∃ opening params, items opening = lead ∧ assemble opening = .ok ⟨cut, params⟩
  paired : Paired cut
  same : ∀ r, isQuote r = true → front.count r = held.count (.char r)
  doubled : held.count (.char q) % 2 = 0

theorem Opened.holdText {lead held : List Item} {q : CodePoint} {cut front : Text}
    (h : Opened lead q held cut front) (t : Text) (doubled : t.count q % 2 = 0) :
    Opened lead q (held ++ chars t) cut (front ++ t) := by
  refine { h with same := fun r hr => ?_, doubled := ?_ }
  · rw [List.count_append, List.count_append, h.same r hr, count_chars]
  · have hheld := h.doubled
    rw [List.count_append, count_chars]
    omega

/-- A run in a string leaves a placeholder behind its quote. -/
theorem Opened.holdRun {lead held : List Item} {q : CodePoint} {cut front : Text}
    (h : Opened lead q held cut front) (run : List Text) {t : Text} (first : q ∉ t) :
    Opened lead q (held ++ .run run :: chars t) cut (shortenEnd front ++ mark :: t) := by
  have hcount : ∀ r, isQuote r = true →
      (shortenEnd front ++ mark :: t).count r = (held ++ .run run :: chars t).count (.char r) := by
    intro r hr
    obtain ⟨hsolid, -, hmark⟩ := isSpacing_of_isQuote hr
    rw [count_placeholder hsolid hmark.symm, h.same r hr, List.count_append,
      List.count_cons_of_ne (by simp), count_chars]
  refine { h with same := hcount, doubled := ?_ }
  rw [List.count_append, List.count_cons_of_ne (by simp), count_chars,
    List.count_eq_zero.mpr first]
  exact h.doubled

/-- A string that is open holds no run. -/
def Fresh (l : List Item) : Prop :=
  ∀ q held, modeAfter l = .inside q held → held.any Item.isRun = false

/-- How a query stands to a reader of its pieces. The query of a string that is over is kept until
it is certain that its last quote is not doubled, unless it was taken off. -/
inductive Fits (pieces : List Piece) (p : Parameterized) : Prop
  | outside (mode : modeAfter (items pieces) = .outside) (paired : Paired p.sql)
  | settled {q : CodePoint} {held : List Item} (mode : modeAfter (items pieces) = .ended q held)
      (quote : isQuote q = true) (runs : held.any Item.isRun = true) (paired : Paired p.sql)
  | inside {lead held : List Item} {q : CodePoint} {cut front : Text}
      (mode : modeAfter (items pieces) = .inside q held)
      (split : items pieces = lead ++ .char q :: held) (opened : Opened lead q held cut front)
      (sql : p.sql = cut ++ q :: front)
  | ended {lead held : List Item} {q : CodePoint} {cut front : Text}
      (mode : modeAfter (items pieces) = .ended q held) (plain : held.any Item.isRun = false)
      (split : items pieces = lead ++ .char q :: (held ++ [.char q]))
      (opened : Opened lead q held cut front) (sql : p.sql = cut ++ q :: (front ++ [q]))

/-- Whatever is read outside of strings finds no quote open. -/
theorem Fits.paired {pieces : List Piece} {p : Parameterized} (h : Fits pieces p) {i : Item}
    (clean : Clean (items pieces ++ [i]))
    (notInside : ∀ q held, modeAfter (items pieces) ≠ .inside q held)
    (single : ∀ q held, modeAfter (items pieces) = .ended q held → i ≠ .char q) : Paired p.sql := by
  cases h with
  | outside _ paired => exact paired
  | settled _ _ _ paired => exact paired
  | inside mode => exact absurd mode (notInside _ _)
  | @ended lead held q cut front mode plain _ opened sql =>
      have hclean := clean.at
      rw [mode] at hclean
      -- The next item does not double the last quote, so the string is over.
      have hother : held.count (.char (other q)) % 2 = 0 := by
        rcases hclean with hruns | hsame | hother
        · rw [plain] at hruns
          cases hruns
        · exact absurd (hsame i rfl) (single q held mode)
        · exact hother
      intro r hr
      have hcut := opened.paired r hr
      rw [sql, List.count_append, List.count_cons, List.count_append, opened.same r hr]
      rcases quote_cases opened.quote hr with rfl | ⟨rfl, hne⟩
      · have hdoubled := opened.doubled
        simp
        omega
      · simp [Ne.symm hne]
        omega

theorem fits_start {pieces pieces' : List Piece} {p p' : Parameterized} {c : CodePoint}
    (assembled : assemble pieces = .ok p) (paired : Paired p.sql)
    (hitems : items pieces' = items pieces ++ [Item.char c]) (hsql : p'.sql = p.sql ++ [c])
    (mode : modeAfter (items pieces') = Mode.start c) :
    Fits pieces' p' ∧ Fresh (items pieces') := by
  cases hc : isQuote c with
  | true =>
      have hinside : modeAfter (items pieces') = .inside c [] := by
        rw [mode, Mode.start, if_pos hc]
      have hopened : Opened (items pieces) c [] p.sql [] :=
        ⟨hc, hitems ▸ hinside, ⟨pieces, p.params, rfl, assembled⟩, paired, fun r _ => rfl, rfl⟩
      refine ⟨.inside hinside hitems hopened hsql, fun q held h => ?_⟩
      cases hinside.symm.trans h
      rfl
  | false =>
      have houtside : modeAfter (items pieces') = .outside := by
        rw [mode, Mode.start, hc]
        rfl
      refine ⟨.outside houtside fun q hq => ?_, fun q held h => ?_⟩
      · have hne : q ∉ [c] := by
          intro hmem
          rw [List.mem_singleton.mp hmem, hc] at hq
          cases hq
        rw [hsql, List.count_append, List.count_eq_zero.mpr hne]
        exact paired q hq
      · cases houtside.symm.trans h

theorem fits_char {pieces pieces' : List Piece} {p p' : Parameterized} {c : CodePoint}
    (assembled : assemble pieces = .ok p) (h : Fits pieces p) (fresh : Fresh (items pieces))
    (hitems : items pieces' = items pieces ++ [Item.char c]) (hsql : p'.sql = p.sql ++ [c])
    (clean : Clean (items pieces')) : Fits pieces' p' ∧ Fresh (items pieces') := by
  have hmode : modeAfter (items pieces') = (modeAfter (items pieces)).next (.char c) := by
    rw [hitems, modeAfter_snoc]
  have hclean := clean
  rw [hitems] at hclean
  cases h with
  | outside mode paired =>
      rw [mode] at hmode
      exact fits_start assembled paired hitems hsql hmode
  | @settled q held mode quote runs paired =>
      rw [mode] at hmode
      by_cases hc : c = q
      · -- The string goes on behind a doubled quote, and it holds a run.
        subst hc
        rw [Mode.next, if_pos rfl] at hmode
        have hend := clean.atEnd
        rw [hmode] at hend
        exact absurd (by simp) (hend (by simp [runs])).1
      · rw [Mode.next, if_neg hc] at hmode
        exact fits_start assembled paired hitems hsql hmode
  | @inside lead held q cut front mode split opened sql =>
      rw [mode, Mode.next] at hmode
      by_cases hc : c = q
      · subst hc
        rw [if_pos rfl] at hmode
        refine ⟨.ended hmode (fresh c held mode) ?_ opened ?_, fun _ _ h => ?_⟩
        · rw [hitems, split]
          simp
        · rw [hsql, sql]
          simp
        · cases hmode.symm.trans h
      · have hne : Item.char c ≠ .char q := fun h => hc (Item.char.inj h)
        rw [if_neg hne] at hmode
        have hopened : Opened lead q (held ++ [Item.char c]) cut (front ++ [c]) :=
          opened.holdText [c] (by rw [List.count_cons_of_ne hc, List.count_nil])
        refine ⟨.inside hmode ?_ hopened ?_, fun _ _ h => ?_⟩
        · rw [hitems, split]
          simp
        · rw [hsql, sql]
          simp
        · cases hmode.symm.trans h
          simp [fresh q held mode, Item.isRun]
  | @ended lead held q cut front mode plain split opened sql =>
      by_cases hc : c = q
      · subst hc
        rw [mode, Mode.next, if_pos rfl] at hmode
        have hopened : Opened lead c (held ++ [Item.char c, .char c]) cut (front ++ [c, c]) :=
          opened.holdText [c, c]
            (by rw [List.count_cons_self, List.count_cons_self, List.count_nil])
        refine ⟨.inside hmode ?_ hopened ?_, fun _ _ h => ?_⟩
        · rw [hitems, split]
          simp
        · rw [hsql, sql]
          simp
        · cases hmode.symm.trans h
          simp [plain, Item.isRun]
      · have hpaired := (Fits.ended mode plain split opened sql).paired hclean
          (by rw [mode]; nofun)
          (by
            rw [mode]
            rintro _ _ heq
            cases heq
            exact fun h => hc (Item.char.inj h))
        rw [mode, Mode.next, if_neg hc] at hmode
        exact fits_start assembled hpaired hitems hsql hmode

/-- A text is read character by character, from where no string is open. -/
theorem fits_text (behind : Text → List Piece) {base : List Item} {sql : Text}
    {params : List Text} (hitems : ∀ u, items (behind u) = base ++ chars u)
    (hassemble : ∀ u, assemble (behind u) = .ok ⟨sql ++ u, params⟩)
    (start : Fits (behind []) ⟨sql, params⟩)
    (notInside : ∀ q held, modeAfter (items (behind [])) ≠ .inside q held) (u : Text)
    (clean : Clean (items (behind u))) : Fits (behind u) ⟨sql ++ u, params⟩ := by
  suffices hfits : Fits (behind u) ⟨sql ++ u, params⟩ ∧ Fresh (items (behind u)) from hfits.1
  induction u using List.reverseRecOn with
  | nil =>
      rw [List.append_nil]
      exact ⟨start, fun q held h => absurd h (notInside q held)⟩
  | append_singleton u c ih =>
      have hnext : items (behind (u ++ [c])) = items (behind u) ++ [Item.char c] := by
        rw [hitems, hitems, chars_append, ← List.append_assoc]
        rfl
      have hfront : Clean (items (behind u)) := by
        rw [hnext] at clean
        exact clean.front
      obtain ⟨hfits, hfresh⟩ := ih hfront
      refine fits_char (hassemble u) hfits hfresh hnext ?_ clean
      rw [List.append_assoc]

/-- A run outside of strings stands for itself. -/
theorem fits_outside {before : List Piece} {run : List Text} {t : Text} {p p' : Parameterized}
    (woven : Woven before) (assembled : assemble before = .ok p) (paired : Paired p.sql)
    (mode : modeAfter (items before ++ [Item.run run]) = .outside) (step : Step p run t p')
    (clean : Clean (items (before ++ [Piece.values run, .text t]))) :
    Fits (before ++ [Piece.values run, .text t]) p' := by
  have hnone := openQuote?_of_paired paired
  cases step with
  | taken isOpen =>
      rw [hnone] at isOpen
      cases isOpen
  | kept _ =>
      have houtside : modeAfter (items (before ++ [Piece.values run, .text []])) = .outside := by
        rw [items_more]
        exact mode
      have hstart : Fits (before ++ [Piece.values run, .text []])
          ⟨shortenEnd p.sql ++ [mark], p.params ++ [parameter run [] []]⟩ :=
        .outside houtside (paired.keep mark_plain)
      have hfits := fits_text (fun u => before ++ [Piece.values run, .text u])
        (fun u => by rw [items_more, List.append_cons]) (fun u => ?_) hstart
        (by rw [houtside]; nofun) t clean
      · rw [List.append_assoc] at hfits
        exact hfits
      · rw [List.append_assoc]
        refine assemble_step woven assembled (.kept fun q hopen => ?_)
        rw [hnone] at hopen
        cases hopen

/-- In front of a run, the query has no such quote behind the quote that opens the string, and that is
the one that is found open. -/
theorem Opened.plain {l lead held : List Item} {q : CodePoint} {cut front : Text}
    {run : List Text} (opened : Opened lead q held cut front) (mode : modeAfter l = .inside q held)
    (clean : Clean (l ++ [Item.run run])) :
    q ∉ front ∧ openQuote? (cut ++ q :: front) = some q := by
  have hend := clean.atEnd
  rw [modeAfter_run mode] at hend
  obtain ⟨hown, heven⟩ := hend (by simp [Item.isRun])
  have hplain : q ∉ front := by
    rw [← List.count_eq_zero, opened.same q opened.quote, List.count_eq_zero]
    exact fun hmem => hown (List.mem_append_left _ hmem)
  refine ⟨hplain, openQuote?_of_last opened.quote opened.paired hplain fun hq => ?_⟩
  have hheld := heven (by simp [Item.isRun]) hq
  rwa [List.count_append, List.count_singleton, if_neg (by simp), Nat.add_zero,
    ← opened.same single rfl] at hheld

/-- A run inside of a string takes the string with it if the text behind it ends the string, and
what is behind that is read like any text. -/
theorem fits_inside {before : List Piece} {run : List Text} {t : Text} {p p' : Parameterized}
    {lead held : List Item} {q : CodePoint} {cut front : Text} (woven : Woven before)
    (assembled : assemble before = .ok p) (mode : modeAfter (items before) = .inside q held)
    (split : items before = lead ++ .char q :: held) (opened : Opened lead q held cut front)
    (sql : p.sql = cut ++ q :: front) (step : Step p run t p')
    (clean : Clean (items (before ++ [Piece.values run, .text t]))) :
    Fits (before ++ [Piece.values run, .text t]) p' := by
  have hrun : Clean (items before ++ [Item.run run]) := by
    rw [items_more, List.append_cons] at clean
    exact clean.front
  obtain ⟨hplain, hopen⟩ := opened.plain mode hrun
  rw [← sql] at hopen
  obtain ⟨hsolid, honLine, -⟩ := isSpacing_of_isQuote opened.quote
  cases step with
  | kept closed =>
      have hend : modeAfter (items (before ++ [Piece.values run, .text t])) =
          .inside q (held ++ .run run :: chars t) := by
        rw [items_more, List.append_cons, modeAfter_chars (modeAfter_run mode run) (closed q hopen),
          ← List.append_cons]
      refine .inside hend ?_ (opened.holdRun run (closed q hopen)) ?_
      · rw [items_more, split]
        simp
      · dsimp only
        rw [sql, shortenEnd_solid hsolid honLine, List.append_assoc, List.cons_append]
  | @taken q' cut' front' back rest isOpen sql' last next first =>
      cases hopen.symm.trans isOpen
      -- The last quote of the query is the one that opens the string, as the string holds none.
      obtain ⟨rfl, rfl⟩ := Text.last_unique hplain last (sql.symm.trans sql')
      subst next
      have hitems : ∀ u : Text, items (before ++ [Piece.values run, .text (back ++ q :: u)]) =
          items before ++ [Item.run run] ++ chars back ++ [Item.char q] ++ chars u := by
        intro u
        rw [items_more, chars_append]
        simp [chars]
      have hended : modeAfter (items (before ++ [Piece.values run, .text (back ++ [q])])) =
          .ended q (held ++ .run run :: chars back) := by
        have hnil : chars [] = [] := rfl
        rw [hitems [], hnil, List.append_nil, modeAfter_ends mode run first]
      have hstart : Fits (before ++ [Piece.values run, .text (back ++ [q])])
          ⟨shortenEnd cut ++ [mark], p.params ++ [parameter run front back]⟩ :=
        .settled hended opened.quote (by simp [Item.isRun]) (opened.paired.keep mark_plain)
      have hfits := fits_text (fun u => before ++ [Piece.values run, .text (back ++ q :: u)])
        hitems (fun u => ?_) hstart (fun _ _ h => by cases hended.symm.trans h) rest clean
      · rw [List.append_assoc] at hfits
        exact hfits
      · rw [List.append_assoc]
        exact assemble_step woven assembled (.taken isOpen sql last rfl first)

/-- In front of a run no quote is open, or exactly the string of the reader. -/
theorem Fits.beforeRun {before : List Piece} {run : List Text} {p : Parameterized}
    (h : Fits before p) (clean : Clean (items before ++ [Item.run run])) :
    Paired p.sql ∧ modeAfter (items before ++ [Item.run run]) = .outside ∨
      ∃ lead held q cut front, modeAfter (items before) = .inside q held ∧
        items before = lead ++ .char q :: held ∧ Opened lead q held cut front ∧
        p.sql = cut ++ q :: front := by
  cases hm : modeAfter (items before) with
  | inside q held =>
      cases h with
      | inside mode split opened sql =>
          cases hm.symm.trans mode
          exact .inr ⟨_, _, _, _, _, rfl, split, opened, sql⟩
      | outside mode => cases hm.symm.trans mode
      | settled mode => cases hm.symm.trans mode
      | ended mode => cases hm.symm.trans mode
  | outside =>
      exact .inl ⟨h.paired clean (by rw [hm]; nofun) (fun _ _ _ => by simp),
        by rw [modeAfter_snoc, hm]; rfl⟩
  | ended q held =>
      exact .inl ⟨h.paired clean (by rw [hm]; nofun) (fun _ _ _ => by simp),
        by rw [modeAfter_snoc, hm]; rfl⟩

theorem items_run (before : List Piece) (run : List Text) (more : List Piece) :
    items (before ++ .values run :: more) = items before ++ [Item.run run] ++ items more := by
  rw [items_append, List.append_assoc]
  rfl

theorem fits_step {before : List Piece} {run : List Text} {t : Text} {p p' : Parameterized}
    (woven : Woven before) (assembled : assemble before = .ok p) (h : Fits before p)
    (step : Step p run t p') (clean : Clean (items (before ++ [Piece.values run, .text t]))) :
    Fits (before ++ [Piece.values run, .text t]) p' := by
  have hrun := clean
  rw [items_run] at hrun
  rcases h.beforeRun hrun.front with
    ⟨hpaired, hmode⟩ | ⟨_, _, _, _, _, hmode, hsplit, hopened, hsql⟩
  · exact fits_outside woven assembled hpaired hmode step clean
  · exact fits_inside woven assembled hmode hsplit hopened hsql step clean

theorem Clean.before {before more : List Piece} (h : Clean (items (before ++ more))) :
    Clean (items before) := by
  rw [items_append] at h
  exact h.front

theorem fits_of_woven {pieces : List Piece} (woven : Woven pieces) (clean : Clean (items pieces)) :
    ∃ p, assemble pieces = .ok p ∧ Fits pieces p := by
  have hpaired : Paired [] := fun _ _ => rfl
  have htext : ∀ t, Clean (items [.text t]) → Fits [.text t] ⟨t, []⟩ := fun t ht =>
    fits_text (fun u => [.text u]) (fun u => List.append_nil ([] ++ chars u)) (fun u => rfl)
      (.outside rfl hpaired) nofun t ht
  obtain ⟨p, hp, hfits, -⟩ := assemble_invariant
    (P := fun pieces p => Clean (items pieces) → Fits pieces p) (fun _ => .outside rfl hpaired)
    htext (fun hwoven hassembled h hstep hclean =>
      fits_step hwoven hassembled (h hclean.before) hstep hclean) woven
  exact ⟨p, hp, hfits clean⟩

/-- In front of a run the quote that is found open is that of the string the reader is in. -/
theorem Fits.openQuote?_iff {before : List Piece} {run : List Text} {p : Parameterized}
    (h : Fits before p) (clean : Clean (items before ++ [Item.run run])) {q : CodePoint} :
    openQuote? p.sql = some q ↔ ∃ held, modeAfter (items before) = .inside q held := by
  rcases h.beforeRun clean with
    ⟨hpaired, hmode⟩ | ⟨lead, held, q', cut, front, hmode, -, hopened, hsql⟩
  · rw [openQuote?_of_paired hpaired]
    constructor
    · nofun
    · rintro ⟨held, hinside⟩
      rw [modeAfter_run hinside] at hmode
      cases hmode
  · rw [hsql, (hopened.plain hmode clean).2, hmode]
    simp

/-! ## What is taken off -/

/-- A string that is ended behind a run is over: if its last quote were doubled, it would hold a run
and one of its quotes. -/
theorem isString_behindRun {l lead held rest : List Item} {q : CodePoint} {run : List Text}
    {back : Text} {cut front : Text} (opened : Opened lead q held cut front)
    (mode : modeAfter l = .inside q held) (split : l = lead ++ .char q :: held) (first : q ∉ back)
    (clean : Clean (l ++ [Item.run run] ++ chars back ++ [Item.char q] ++ rest)) :
    IsString lead q (held ++ .run run :: chars back) rest := by
  have hends := modeAfter_ends mode run first
  refine ⟨opened.opens, ?_, fun hhead => ?_⟩
  · rw [← hends, split]
    simp
  · obtain ⟨more, rfl⟩ : ∃ more, rest = .char q :: more :=
      ⟨rest.tail, (List.cons_head?_tail hhead).symm⟩
    rw [List.append_cons] at clean
    have hgoes := clean.at
    rw [modeAfter_snoc, hends, Mode.next, if_pos rfl] at hgoes
    exact absurd (by simp) (hgoes (by simp [Item.isRun])).1

/-- Quotes come off as whole strings, for all pieces in turn whose strings are clean. At every run there is
a query of what stands in front of it. Either the run stands for itself there, and then it does not
stand in a string that the text behind it ends; or it does stand in such a string. What is taken off
then starts at the quote that opens the string, for what is left is the query of what stands in
front of that, and it ends at the quote that ends the string. -/
theorem unquoted_whole {before more : List Piece} {run : List Text}
    (alternates : Alternates (before ++ .values run :: more))
    (clean : Clean (items (before ++ .values run :: more))) :
    ∃ p cut front back used, assemble before = .ok p ∧
      unquoted p.sql more = .ok (cut, front, back, used) ∧
      assemble (before ++ .values run :: more) =
        assembleFrom (shortenEnd cut ++ [mark]) (parameter run front back :: p.params.reverse) used
          more ∧
      ((cut, front, back, used) = (p.sql, [], [], 0) ∧
          (∀ q held t rest, modeAfter (items before) = .inside q held → more = .text t :: rest →
            q ∉ t) ∨
        ∃ lead q held after rest opening params,
          items before = lead ++ .char q :: held ∧ more = .text (back ++ q :: after) :: rest ∧
          IsString lead q (held ++ .run run :: chars back) (chars after ++ items rest) ∧
          items opening = lead ∧ assemble opening = .ok ⟨cut, params⟩ ∧
          p.sql = cut ++ q :: front ∧ used = back.length + 1) := by
  have hwoven := woven_of_alternates alternates
  obtain ⟨p, hp, hfits⟩ := fits_of_woven hwoven clean.before
  have hgoes : ∀ {cut front back used}, unquoted p.sql more = .ok (cut, front, back, used) →
      assemble (before ++ .values run :: more) =
        assembleFrom (shortenEnd cut ++ [mark]) (parameter run front back :: p.params.reverse) used
          more := by
    intro cut front back used hunquoted
    rw [assemble_append hwoven hp, assembleFrom, hunquoted]
    rfl
  rw [items_run] at clean
  rcases unquoted_cases p.sql (noRun_of_alternates alternates) with
    ⟨hkept, hends⟩ | ⟨q, cut, front, back, after, rest, hopen, hsql, hlast, rfl, hfirst, htaken⟩
  · refine ⟨p, _, _, _, _, hp, hkept, hgoes hkept, .inl ⟨rfl, fun q held t rest hmode => ?_⟩⟩
    exact hends q t rest ((hfits.openQuote?_iff clean.front).mpr ⟨held, hmode⟩)
  · rcases hfits.beforeRun clean.front with
      ⟨hpaired, -⟩ | ⟨lead, held, q', cut', front', hmode, hsplit, hopened, hsql'⟩
    · rw [openQuote?_of_paired hpaired] at hopen
      cases hopen
    · obtain ⟨hplain, hquote⟩ := hopened.plain hmode clean.front
      rw [← hsql', hopen] at hquote
      cases hquote
      obtain ⟨rfl, rfl⟩ := Text.last_unique hlast hplain (hsql.symm.trans hsql')
      have hitems : items (.text (back ++ q :: after) :: rest) =
          chars back ++ ([.char q] ++ (chars after ++ items rest)) := by
        simp [items, Piece.items, chars]
      rw [hitems, ← List.append_assoc, ← List.append_assoc] at clean
      obtain ⟨opening, params, hlead, hopening⟩ := hopened.reached
      exact ⟨p, _, _, _, _, hp, htaken, hgoes htaken, .inr ⟨lead, q, held, after, rest, opening,
        params, hsplit, rfl, isString_behindRun hopened hmode hsplit hfirst clean, hlead, hopening,
        hsql, rfl⟩⟩

theorem unquoted_whole_sample :
    ∃ before run more, Alternates (before ++ .values run :: more) ∧
      Clean (items (before ++ .values run :: more)) ∧
      ∃ lead q held after rest opening params, items before = lead ++ .char q :: held ∧
        more = .text ("%" ++ q :: after) :: rest ∧
        IsString lead q (held ++ .run run :: chars "%") (chars after ++ items rest) ∧
        items opening = lead ∧ assemble opening = .ok ⟨"a = 'O''Neil' AND b LIKE ", params⟩ := by
  have halternates : Alternates ([.text "a = 'O''Neil' AND b LIKE '%"] ++
      .values ["x"] :: [.text "%' AND c = 1"]) := by decide
  have hclean : Clean (items ([.text "a = 'O''Neil' AND b LIKE '%"] ++
      .values ["x"] :: [.text "%' AND c = 1"])) := by decide
  have hunquoted : unquoted "a = 'O''Neil' AND b LIKE '%" [.text "%' AND c = 1"] =
      .ok ("a = 'O''Neil' AND b LIKE ", "%", "%", 2) := by rfl
  obtain ⟨p, cut, front, back, used, hp, htaken, -, hwhole⟩ := unquoted_whole halternates hclean
  obtain rfl := Except.ok.inj hp
  have hsame := Except.ok.inj (hunquoted.symm.trans htaken)
  simp only [Prod.mk.injEq] at hsame
  obtain ⟨rfl, rfl, rfl, rfl⟩ := hsame
  rcases hwhole with ⟨hkept, -⟩ | ⟨lead, q, held, after, rest, opening, params, hsplit, hmore,
    hstring, hlead, hopening, -⟩
  · exact absurd (congrArg (fun taken => taken.2.2.2) hkept) (by decide)
  · exact ⟨_, _, _, halternates, hclean, lead, q, held, after, rest, opening, params, hsplit, hmore,
      hstring, hlead, hopening⟩

/-- Without the second demand quotes come off where there is no string. An apostrophe is part of a
string in double quotes here. Behind that string no string is open, and still the text from the
apostrophe to the next string is taken off and becomes part of the parameter. -/
theorem quotes_taken_outside :
    ∃ before run more, Alternates (before ++ .values run :: more) ∧
      modeAfter (items before) = .outside ∧
      ∃ p, assemble before = .ok p ∧
        unquoted p.sql more = .ok ("a = \"it", "s\" AND b = ", " AND c = ", 10) ∧
        assemble (before ++ .values run :: more) =
          .ok ⟨"a = \"it?y'", ["`s\" AND b = $\x7bx\x7d AND c = `"]⟩ := by
  refine ⟨[.text "a = \"it's\" AND b = "], ["x"], [.text " AND c = 'y'"], ?_, ?_, _, rfl, ?_, ?_⟩
  · decide
  · decide
  · rfl
  · rfl

/-- Without the first demand a string is cut where it holds a doubled quote. What is left of the
query in front of the value ends in the middle of the string. -/
theorem string_cut_at_doubled :
    ∃ before run more, Alternates (before ++ .values run :: more) ∧
      modeAfter (items before) = .inside single (chars "it''s ") ∧
      ∃ p, assemble before = .ok p ∧
        unquoted p.sql more = .ok ("a = 'it'", "s ", [], 1) ∧
        assemble (before ++ .values run :: more) = .ok ⟨"a = 'it'?", ["`s $\x7bx\x7d`"]⟩ := by
  refine ⟨[.text "a = 'it''s "], ["x"], [.text "'"], ?_, ?_, _, rfl, ?_, ?_⟩
  · decide
  · decide
  · rfl
  · rfl

end Readiness.Query
