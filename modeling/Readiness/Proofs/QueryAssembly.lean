import Mathlib.Data.List.Chain
import Readiness.Proofs.QueryParameters

/-!
# How a query is put together

`assemble` walks over the pieces of a query with three things in hand: the query so
far, its parameters, and how much of the next text is used up already. The last of
the three is awkward in an induction, and it is only ever there between a run of
values and the text behind it. So the pieces are taken two at a time. A woven list
has a text behind each of its runs; `Step` says what one run and its text make of a
query, with nothing left over, and `assemble_invariant` is the induction that the
theorems about queries share.

A step asks one thing of the query so far: which quote is open at its end. The answer
leaves out doubled quotes, but that changes nothing. Two quotes more or less do not
change whether a number is odd, so the test is one of parity, and `openQuote?_eq` says
so.
-/

namespace Readiness

/-! ## Where a character stands in a text -/

namespace Text

theorem indexOf?_of_not_mem {q : CodePoint} {t : Text} (h : q ∉ t) : indexOf? [q] t = none := by
  induction t with
  | nil => rfl
  | cons c r ih =>
      rw [List.mem_cons, not_or] at h
      rw [indexOf?, ih h.2]
      simp [List.isPrefixOf, h.1]

theorem indexOf?_of_split {q : CodePoint} {back rest : Text} (first : q ∉ back) :
    indexOf? [q] (back ++ q :: rest) = some back.length := by
  induction back with
  | nil => simp [indexOf?, List.isPrefixOf]
  | cons c r ih =>
      rw [List.mem_cons, not_or] at first
      rw [List.cons_append, indexOf?, ih first.2]
      simp [List.isPrefixOf, first.1]

theorem lastIndexOf?_of_not_mem {q : CodePoint} {t : Text} (h : q ∉ t) :
    lastIndexOf? [q] t = none := by
  induction t with
  | nil => rfl
  | cons c r ih =>
      rw [List.mem_cons, not_or] at h
      rw [lastIndexOf?, ih h.2]
      simp [List.isPrefixOf, h.1]

theorem lastIndexOf?_of_split {q : CodePoint} {cut front : Text} (last : q ∉ front) :
    lastIndexOf? [q] (cut ++ q :: front) = some cut.length := by
  induction cut with
  | nil =>
      rw [List.nil_append, lastIndexOf?, lastIndexOf?_of_not_mem last]
      simp [List.isPrefixOf]
  | cons c r ih =>
      rw [List.cons_append, lastIndexOf?, ih]
      rfl

theorem exists_last {q : CodePoint} {t : Text} (h : q ∈ t) :
    ∃ cut front, t = cut ++ q :: front ∧ q ∉ front := by
  obtain ⟨front, cut, hsplit, hlast⟩ := List.eq_append_cons_of_mem (List.mem_reverse.mpr h)
  refine ⟨cut.reverse, front.reverse, ?_, fun hmem => hlast (List.mem_reverse.mp hmem)⟩
  rw [← List.reverse_reverse t, hsplit]
  simp

theorem last_unique {q : CodePoint} {cut cut' front front' : Text} (last : q ∉ front)
    (last' : q ∉ front') (same : cut ++ q :: front = cut' ++ q :: front') :
    cut = cut' ∧ front = front' := by
  have hcut := congrArg (lastIndexOf? [q]) same
  rw [lastIndexOf?_of_split last, lastIndexOf?_of_split last'] at hcut
  obtain ⟨rfl, hrest⟩ := List.append_inj same (Option.some.inj hcut)
  exact ⟨rfl, (List.cons.inj hrest).2⟩

theorem count_replaceAll_pair (q : CodePoint) (t : Text) :
    (replaceAll [q, q] [] t).count q % 2 = t.count q % 2 := by
  have go : ∀ (n : Nat) (t : Text),
      (replaceAll.go [q, q] [] n t).count q % 2 = t.count q % 2 := by
    intro n
    induction n with
    | zero => exact fun t => rfl
    | succ n ih =>
        intro t
        match t with
        | [] => rfl
        | [c] =>
            have hc := ih []
            simp only [replaceAll.go, List.isEmpty_cons, Bool.false_eq_true, if_false,
              List.isPrefixOf, Bool.and_false, List.count_cons]
            simp only [List.count_nil] at hc ⊢
            omega
        | c :: d :: r =>
            rw [replaceAll.go]
            by_cases hpair : q = c ∧ q = d
            · obtain ⟨rfl, rfl⟩ := hpair
              have hr := ih r
              simp only [List.isEmpty_cons, Bool.false_eq_true, if_false, List.isPrefixOf,
                beq_self_eq_true, Bool.and_self, if_true, List.nil_append, List.length_cons,
                List.length_nil, List.drop_succ_cons, List.drop_zero, List.count_cons_self]
              omega
            · have hr := ih (d :: r)
              have hno : List.isPrefixOf [q, q] (c :: d :: r) = false := by
                simpa [List.isPrefixOf] using hpair
              rw [if_neg (by simp), hno, if_neg (by simp), List.count_cons,
                List.count_cons (l := d :: r)]
              omega
  exact go t.length t

end Text

namespace Query

open Script

/-- The placeholder of a query. -/
abbrev mark : CodePoint := .char '?'

/-- The quotes of a query's strings. -/
abbrev single : CodePoint := .char '\''

abbrev double : CodePoint := .char '"'

abbrev blank : CodePoint := .char ' '

/-! ## What a step looks at -/

/-- The quote that is open is the first of the two that occurs an odd number of times. -/
theorem openQuote?_eq (sql : Text) :
    openQuote? sql =
      if sql.count single % 2 = 1 then some single
      else if sql.count double % 2 = 1 then some double else none := by
  have hsingle := Text.count_replaceAll_pair single sql
  have hdouble := Text.count_replaceAll_pair double sql
  rw [openQuote?, List.find?_cons, List.find?_cons, List.find?_nil, hsingle, hdouble]
  by_cases h : sql.count single % 2 = 1
  · rw [if_pos h, beq_iff_eq.mpr h]
  · rw [if_neg h, beq_eq_false_iff_ne.mpr h]
    by_cases h' : sql.count double % 2 = 1
    · rw [if_pos h', beq_iff_eq.mpr h']
    · rw [if_neg h', beq_eq_false_iff_ne.mpr h']

theorem odd_of_openQuote? {sql : Text} {q : CodePoint} (h : openQuote? sql = some q) :
    sql.count q % 2 = 1 := by
  rw [openQuote?_eq] at h
  split at h
  · cases h
    assumption
  · split at h
    · cases h
      assumption
    · cases h

theorem mem_of_openQuote? {sql : Text} {q : CodePoint} (h : openQuote? sql = some q) :
    q ∈ sql := by
  have hodd := odd_of_openQuote? h
  exact List.count_pos_iff.mp (by omega)

theorem quote_of_openQuote? {sql : Text} {q : CodePoint} (h : openQuote? sql = some q) :
    q = single ∨ q = double := by
  rw [openQuote?_eq] at h
  split at h
  · cases h
    exact .inl rfl
  · split at h
    · cases h
      exact .inr rfl
    · cases h

/-- The characters of which a run becomes one blank. -/
def isSpacing (c : CodePoint) : Bool := c == ' ' || c == '\t'

theorem shortened_eq (r tail : Text) :
    shortenEnd.shortened r tail =
      if 2 ≤ (r.takeWhile isSpacing).length then (r.dropWhile isSpacing).reverse ++ blank :: tail
      else r.reverse ++ tail := by
  have hunfold : shortenEnd.shortened r tail =
      if 2 ≤ (r.takeWhile isSpacing).length then (r.dropWhile isSpacing).reverse ++ [blank] ++ tail
      else r.reverse ++ tail := rfl
  rw [hunfold, List.append_assoc, List.singleton_append]

theorem shortened_cases (r tail : Text) :
    shortenEnd.shortened r tail = r.reverse ++ tail ∨ ∃ a w, r.reverse = a ++ w ∧
      shortenEnd.shortened r tail = a ++ blank :: tail ∧ w ≠ [] ∧ ∀ c ∈ w, isSpacing c = true := by
  rw [shortened_eq]
  split
  · next hlong =>
      refine .inr ⟨(r.dropWhile isSpacing).reverse, (r.takeWhile isSpacing).reverse, ?_, rfl, ?_,
        ?_⟩
      · rw [← List.reverse_append, List.takeWhile_append_dropWhile]
      · intro hnil
        rw [List.reverse_eq_nil_iff] at hnil
        rw [hnil] at hlong
        exact absurd hlong (by decide)
      · intro c hc
        exact List.all_eq_true.mp List.all_takeWhile c (List.mem_reverse.mp hc)
  · exact .inl rfl

/-- Nothing but a run of blanks is ever shortened, and to one blank. -/
theorem shortenEnd_cases (t : Text) :
    shortenEnd t = t ∨ ∃ a w tail, t = a ++ w ++ tail ∧ shortenEnd t = a ++ blank :: tail ∧
      w ≠ [] ∧ ∀ c ∈ w, isSpacing c = true := by
  rw [shortenEnd]
  split
  · next r heq =>
      have ht : t = r.reverse ++ [CodePoint.char '\n'] := by
        rw [← List.reverse_reverse t, heq, List.reverse_cons]
      rcases shortened_cases r [.char '\n'] with hsame | ⟨a, w, hr, hshort, hw⟩
      · exact .inl (hsame.trans ht.symm)
      · exact .inr ⟨a, w, [.char '\n'], by rw [ht, hr], hshort, hw⟩
  · rcases shortened_cases t.reverse [] with hsame | ⟨a, w, hr, hshort, hw⟩
    · rw [List.append_nil, List.reverse_reverse] at hsame
      exact .inl hsame
    · rw [List.reverse_reverse] at hr
      exact .inr ⟨a, w, [], by rw [hr, List.append_nil], hshort, hw⟩

theorem count_shortenEnd {q : CodePoint} (solid : isSpacing q = false) (t : Text) :
    (shortenEnd t).count q = t.count q := by
  rcases shortenEnd_cases t with hsame | ⟨a, w, tail, ht, hshort, -, hgaps⟩
  · rw [hsame]
  · have hw : w.count q = 0 := by
      rw [List.count_eq_zero]
      intro hmem
      rw [hgaps q hmem] at solid
      cases solid
    have hblank : (blank == q) = false := by
      rw [beq_eq_false_iff_ne]
      rintro rfl
      cases solid
    rw [hshort, ht, List.count_append, List.count_append, List.count_append, hw,
      List.count_cons, hblank, Nat.add_zero]
    rfl

/-- A placeholder behind a query leaves the number of everything else alone. -/
theorem count_placeholder {q : CodePoint} (solid : isSpacing q = false) (notMark : mark ≠ q)
    (sql t : Text) : (shortenEnd sql ++ mark :: t).count q = sql.count q + t.count q := by
  rw [List.count_append, List.count_cons_of_ne notMark, count_shortenEnd solid]

theorem shortened_solid {q : CodePoint} (solid : isSpacing q = false) (r a tail : Text) :
    shortenEnd.shortened (r ++ q :: a) tail = a.reverse ++ q :: shortenEnd.shortened r tail := by
  have hgaps : (r ++ q :: a).takeWhile isSpacing = r.takeWhile isSpacing ∧
      (r ++ q :: a).dropWhile isSpacing = r.dropWhile isSpacing ++ q :: a := by
    induction r with
    | nil => simp [solid]
    | cons c r ih => cases h : isSpacing c <;> simp [h, ih]
  rw [shortened_eq, shortened_eq, hgaps.1, hgaps.2]
  split <;> simp

/-- Shortening does not look beyond a character that is no blank and no line feed. -/
theorem shortenEnd_solid {q : CodePoint} (solid : isSpacing q = false) (onLine : q ≠ .char '\n')
    (a b : Text) : shortenEnd (a ++ q :: b) = a ++ q :: shortenEnd b := by
  have hreverse : (a ++ q :: b).reverse = b.reverse ++ q :: a.reverse := by simp
  rw [shortenEnd, shortenEnd, hreverse]
  cases hb : b.reverse with
  | nil =>
      rw [List.nil_append]
      split
      · next s heq =>
          cases heq
          exact absurd rfl onLine
      · exact (shortened_solid solid [] a.reverse []).trans (by rw [List.reverse_reverse])
  | cons c r =>
      rw [List.cons_append]
      split
      · next s heq =>
          cases heq
          rw [shortened_solid solid, List.reverse_reverse]
          rfl
      · next hother =>
          split
          · next s heq =>
              cases heq
              exact absurd rfl (hother _)
          · rw [← List.cons_append, shortened_solid solid, List.reverse_reverse]

/-! ## One run and the text behind it -/

/-- What one more run of values, with the text behind it, makes of a query: the run stands for
itself, or the quotes around it are taken off, from the last one in front of it to the first one
behind it, and what stood inside of them becomes part of the parameter. -/
inductive Step (p : Parameterized) (run : List Text) (t : Text) : Parameterized → Prop
  | kept (closed : ∀ q, openQuote? p.sql = some q → q ∉ t) :
      Step p run t ⟨shortenEnd p.sql ++ mark :: t, p.params ++ [parameter run [] []]⟩
  | taken {q : CodePoint} {cut front back rest : Text} (isOpen : openQuote? p.sql = some q)
      (sql : p.sql = cut ++ q :: front) (last : q ∉ front) (next : t = back ++ q :: rest)
      (first : q ∉ back) :
      Step p run t ⟨shortenEnd cut ++ mark :: rest, p.params ++ [parameter run front back]⟩

theorem unquoted_kept {sql t : Text} (closed : ∀ q, openQuote? sql = some q → q ∉ t)
    (more : List Piece) : unquoted sql (.text t :: more) = .ok (sql, [], [], 0) := by
  rw [unquoted]
  cases hopen : openQuote? sql with
  | none => rfl
  | some q =>
      have hnone := Text.indexOf?_of_not_mem (closed q hopen)
      simp only [unquoted.nextText, bind, Except.bind, hnone]
      rfl

theorem unquoted_taken {sql t : Text} {q : CodePoint} {cut front back rest : Text}
    (isOpen : openQuote? sql = some q) (hsql : sql = cut ++ q :: front) (last : q ∉ front)
    (next : t = back ++ q :: rest) (first : q ∉ back) (more : List Piece) :
    unquoted sql (.text t :: more) = .ok (cut, front, back, back.length + 1) := by
  have hclose : Text.indexOf? [q] (back ++ q :: rest) = some back.length :=
    Text.indexOf?_of_split first
  have hhead : Text.lastIndexOf? [q] (cut ++ q :: front) = some cut.length :=
    Text.lastIndexOf?_of_split last
  have hdrop : (cut ++ q :: front).drop (cut.length + 1) = front :=
    List.drop_length_add_append 1
  rw [unquoted, isOpen]
  subst hsql next
  simp only [unquoted.nextText, bind, Except.bind, hclose, hhead, hdrop, List.take_left']
  rfl

theorem unquoted_cases (sql : Text) {more : List Piece}
    (noRun : ∀ run rest, more ≠ .values run :: rest) :
    (unquoted sql more = .ok (sql, [], [], 0) ∧
      ∀ q t rest, openQuote? sql = some q → more = .text t :: rest → q ∉ t) ∨
    ∃ q cut front back after rest, openQuote? sql = some q ∧ sql = cut ++ q :: front ∧
      q ∉ front ∧ more = .text (back ++ q :: after) :: rest ∧ q ∉ back ∧
      unquoted sql more = .ok (cut, front, back, back.length + 1) := by
  cases more with
  | nil =>
      refine .inl ⟨?_, fun q t rest _ hmore => by cases hmore⟩
      rw [unquoted]
      cases openQuote? sql <;> rfl
  | cons piece rest =>
      cases piece with
      | values run => exact absurd rfl (noRun run rest)
      | text t =>
          by_cases hopen : ∃ q, openQuote? sql = some q ∧ q ∈ t
          · obtain ⟨q, hq, hmem⟩ := hopen
            obtain ⟨back, after, rfl, hfirst⟩ := List.eq_append_cons_of_mem hmem
            obtain ⟨cut, front, hsql, hlast⟩ := Text.exists_last (mem_of_openQuote? hq)
            exact .inr ⟨q, cut, front, back, after, rest, hq, hsql, hlast, rfl, hfirst,
              unquoted_taken hq hsql hlast rfl hfirst rest⟩
          · have hclosed : ∀ q, openQuote? sql = some q → q ∉ t :=
              fun q hq hmem => hopen ⟨q, hq, hmem⟩
            refine .inl ⟨unquoted_kept hclosed rest, fun q u more hq hmore => ?_⟩
            cases hmore
            exact hclosed q hq

/-! ## Texts and runs in turn -/

/-- No two pieces of one kind stand side by side. -/
def Alternates (pieces : List Piece) : Prop := pieces.IsChain fun a b => a.isValues ≠ b.isValues

instance (pieces : List Piece) : Decidable (Alternates pieces) :=
  inferInstanceAs (Decidable (pieces.IsChain _))

/-- Texts and runs in turn, with a text behind each run. -/
inductive Woven : List Piece → Prop
  | nil : Woven []
  | text (t : Text) : Woven [.text t]
  | more {before : List Piece} (run : List Text) (t : Text) (woven : Woven before) :
      Woven (before ++ [.values run, .text t])

/-- What stands in front of a run is woven. -/
theorem woven_of_alternates {before more : List Piece} {run : List Text}
    (h : Alternates (before ++ .values run :: more)) : Woven before := by
  -- A step back takes a text and the run in front of it, so the induction is on the length.
  induction hn : before.length using Nat.strongRecOn generalizing before run more with
  | ind n ih =>
      rcases List.eq_nil_or_concat before with rfl | ⟨rest, last, rfl⟩
      · exact .nil
      · rw [List.concat_eq_append, List.append_assoc, List.singleton_append] at h
        obtain ⟨hrest, htail, hlink⟩ := List.isChain_append.mp h
        have hlast := (List.isChain_cons_cons.mp htail).1
        cases last with
        | values run' => exact absurd rfl hlast
        | text t =>
            rw [List.concat_eq_append]
            rcases List.eq_nil_or_concat rest with rfl | ⟨rest', last', rfl⟩
            · exact .text t
            · have hlast' := hlink last' (by simp) (.text t) (by simp)
              cases last' with
              | text t' => exact absurd rfl hlast'
              | values run' =>
                  rw [List.concat_eq_append, List.append_assoc, List.singleton_append] at h ⊢
                  refine .more run' t (ih _ ?_ h rfl)
                  rw [← hn]
                  simp

theorem noRun_of_alternates {before more : List Piece} {run : List Text}
    (h : Alternates (before ++ .values run :: more)) (run' : List Text) (rest : List Piece) :
    more ≠ .values run' :: rest := by
  rintro rfl
  have htail := (List.isChain_append.mp h).2.1
  exact absurd rfl (List.isChain_cons_cons.mp htail).1

/-- A list of pieces in turn has a text at its end, or may be given an empty one. -/
theorem exists_woven {pieces : List Piece} (h : Alternates pieces) :
    Woven pieces ∨ ∃ before run, Woven before ∧ pieces = before ++ [Piece.values run] := by
  rcases List.eq_nil_or_concat pieces with rfl | ⟨before, last, rfl⟩
  · exact .inl .nil
  · rw [List.concat_eq_append] at h ⊢
    cases last with
    | values run => exact .inr ⟨before, run, woven_of_alternates h, rfl⟩
    | text t =>
        have hrun : Alternates (before ++ [Piece.text t] ++ [Piece.values []]) := by
          refine List.isChain_append.mpr ⟨h, List.isChain_singleton _, ?_⟩
          simp [Piece.isValues]
        exact .inl (woven_of_alternates hrun)

theorem exists_step (p : Parameterized) (run : List Text) (t : Text) : ∃ p', Step p run t p' := by
  by_cases hopen : ∃ q, openQuote? p.sql = some q ∧ q ∈ t
  · obtain ⟨q, hq, hmem⟩ := hopen
    obtain ⟨back, rest, hnext, hfirst⟩ := List.eq_append_cons_of_mem hmem
    obtain ⟨cut, front, hsql, hlast⟩ := Text.exists_last (mem_of_openQuote? hq)
    exact ⟨_, .taken hq hsql hlast hnext hfirst⟩
  · exact ⟨_, .kept fun q hq hmem => hopen ⟨q, hq, hmem⟩⟩

theorem Step.next {p p' : Parameterized} {run : List Text} {t : Text} (h : Step p run t p')
    (more : List Piece) : assembleFrom p.sql p.params.reverse 0 (.values run :: .text t :: more) =
      assembleFrom p'.sql p'.params.reverse 0 more := by
  cases h with
  | kept closed =>
      rw [assembleFrom, unquoted_kept closed]
      simp only [bind, Except.bind]
      rw [assembleFrom, List.drop_zero, List.reverse_append, List.append_assoc]
      rfl
  | @taken q cut front back rest isOpen sql last next first =>
      have hdrop : t.drop (back.length + 1) = rest := by
        rw [next]
        exact List.drop_length_add_append 1
      rw [assembleFrom, unquoted_taken isOpen sql last next first]
      simp only [bind, Except.bind]
      rw [assembleFrom, hdrop, List.reverse_append, List.append_assoc]
      rfl

/-- What holds of the empty query and of a text, and is kept by steps, holds of whatever woven
pieces are assembled to. Behind such pieces nothing is used up yet, so the query goes on from there.
-/
theorem assemble_invariant {P : List Piece → Parameterized → Prop} (nil : P [] ⟨[], []⟩)
    (text : ∀ t, P [.text t] ⟨t, []⟩)
    (step : ∀ {before run t p p'}, Woven before → assemble before = .ok p → P before p →
      Step p run t p' → P (before ++ [Piece.values run, .text t]) p')
    {pieces : List Piece} (woven : Woven pieces) :
    ∃ p, assemble pieces = .ok p ∧ P pieces p ∧ ∀ more, assemble (pieces ++ more) =
      assembleFrom p.sql p.params.reverse 0 more := by
  induction woven with
  | nil => exact ⟨⟨[], []⟩, rfl, nil, fun more => rfl⟩
  | text t => exact ⟨⟨t, []⟩, rfl, text t, fun more => rfl⟩
  | @more before run t hbefore ih =>
      obtain ⟨p, hp, hP, hmore⟩ := ih
      obtain ⟨p', hstep⟩ := exists_step p run t
      have happend : ∀ more, assemble (before ++ [Piece.values run, .text t] ++ more) =
          assembleFrom p'.sql p'.params.reverse 0 more := by
        intro more
        rw [List.append_assoc, hmore]
        exact hstep.next more
      refine ⟨p', ?_, step hbefore hp hP hstep, happend⟩
      rw [← List.append_nil (before ++ _), happend, assembleFrom, List.reverse_reverse]

/-- The query goes on from woven pieces with nothing used up. -/
theorem assemble_append {before : List Piece} (woven : Woven before) {p : Parameterized}
    (assembled : assemble before = .ok p) (more : List Piece) :
    assemble (before ++ more) = assembleFrom p.sql p.params.reverse 0 more := by
  obtain ⟨p', hp', -, hmore⟩ := assemble_invariant (P := fun _ _ => True) trivial
    (fun _ => trivial) (fun _ _ _ _ => trivial) woven
  cases assembled.symm.trans hp'
  exact hmore more

theorem assemble_step {before : List Piece} (woven : Woven before) {p p' : Parameterized}
    (assembled : assemble before = .ok p) {run : List Text} {t : Text} (step : Step p run t p') :
    assemble (before ++ [Piece.values run, .text t]) = .ok p' := by
  rw [assemble_append woven assembled, step.next, assembleFrom, List.reverse_reverse]

/-- A run without a text behind it is like one with an empty text. -/
theorem assemble_lastRun {before : List Piece} (woven : Woven before) (run : List Text) :
    assemble (before ++ [Piece.values run]) =
      assemble (before ++ [Piece.values run, .text []]) := by
  obtain ⟨p, -, -, hmore⟩ := assemble_invariant (P := fun _ _ => True) trivial (fun _ => trivial)
    (fun _ _ _ _ => trivial) woven
  have hsame : unquoted p.sql [.text []] = unquoted p.sql [] := rfl
  rw [hmore, hmore, assembleFrom, assembleFrom, hsame]
  cases unquoted p.sql [] with
  | error b => rfl
  | ok around => simp [bind, Except.bind, assembleFrom]

/-- Pieces in turn come to what they come to with an empty text behind them, so that a theorem about
woven pieces is one about all of them. -/
theorem exists_full {pieces : List Piece} (h : Alternates pieces) :
    ∃ full, Woven full ∧ assemble full = assemble pieces ∧
      (full = pieces ∨ full = pieces ++ [Piece.text []]) := by
  rcases exists_woven h with hwoven | ⟨before, run, hbefore, rfl⟩
  · exact ⟨pieces, hwoven, rfl, .inl rfl⟩
  · refine ⟨_, .more run [] hbefore, (assemble_lastRun hbefore run).symm, .inr ?_⟩
    rw [List.append_assoc]
    rfl

/-! ## The pieces of an expression -/

theorem alternates_congr {a b : Piece} (kind : a.isValues = b.isValues) {l : List Piece}
    (h : Alternates (a :: l)) : Alternates (b :: l) := by
  cases l with
  | nil => exact List.isChain_singleton b
  | cons c l =>
      obtain ⟨hhead, htail⟩ := List.isChain_cons_cons.mp h
      exact List.isChain_cons_cons.mpr ⟨kind ▸ hhead, htail⟩

theorem alternates_addText {l : List Piece} (h : Alternates l) (t : Text) :
    Alternates (Piece.addText t l) := by
  cases l with
  | nil => exact List.isChain_singleton _
  | cons a l =>
      cases a with
      | text u => exact alternates_congr (a := .text u) (b := .text (u ++ t)) rfl h
      | values run => exact List.isChain_cons_cons.mpr ⟨nofun, h⟩

theorem alternates_addValue {l : List Piece} (h : Alternates l) (source : Text) :
    Alternates (Piece.addValue source l) := by
  cases l with
  | nil => exact List.isChain_singleton _
  | cons a l =>
      cases a with
      | values run =>
          exact alternates_congr (a := .values run) (b := .values (run ++ [source])) rfl h
      | text u => exact List.isChain_cons_cons.mpr ⟨nofun, h⟩

theorem addTemplate_induction {P : List Piece → Prop}
    (text : ∀ l t, P l → P (Piece.addText t l))
    (value : ∀ l source, P l → P (Piece.addValue source l)) (s : Script)
    (quasis expressions : List Node) {l : List Piece} (h : P l) :
    P (addTemplate s quasis expressions l) := by
  induction quasis generalizing expressions l with
  | nil => exact h
  | cons q quasis ih =>
      rw [addTemplate.eq_def]
      cases expressions with
      | nil => exact ih [] (text _ _ h)
      | cons e more => exact ih more (value _ _ (text _ _ h))

theorem addPart_induction {P : List Piece → Prop} (text : ∀ l t, P l → P (Piece.addText t l))
    (value : ∀ l source, P l → P (Piece.addValue source l)) (s : Script) (p : Node)
    {l : List Piece} (h : P l) : P (addPart s l p) := by
  rw [addPart]
  split
  · exact text _ _ h
  · split
    · exact text _ _ h
    · split
      · exact addTemplate_induction text value s _ _ h
      · exact value _ _ h

/-- What holds of no pieces, and still holds with a text or an expression behind them, holds of the
pieces of an expression; they are turned, because the last piece comes first while they are
collected. -/
theorem pieces_induction {P : List Piece → Prop} (nil : P [])
    (text : ∀ l t, P l → P (Piece.addText t l))
    (value : ∀ l source, P l → P (Piece.addValue source l)) (s : Script) (query : Node) :
    P (pieces s query).reverse := by
  have hparts : ∀ (ps : List Node) (l : List Piece), P l → P (ps.foldl (addPart s) l) := by
    intro ps
    induction ps with
    | nil => exact fun l h => h
    | cons p ps ih => exact fun l h => ih _ (addPart_induction text value s p h)
  rw [pieces, List.reverse_reverse]
  exact hparts (parts query) [] nil

/-- The pieces of an expression are texts and runs in turn. -/
theorem alternates_pieces (s : Script) (query : Node) : Alternates (pieces s query) := by
  have hreverse := pieces_induction (P := Alternates) List.isChain_nil
    (fun l t h => alternates_addText h t) (fun l source h => alternates_addValue h source) s query
  rw [Alternates, List.isChain_reverse] at hreverse
  exact hreverse.imp fun a b hab => hab.symm

end Query

end Readiness
