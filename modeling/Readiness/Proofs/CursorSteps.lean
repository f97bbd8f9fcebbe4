import Readiness.Proofs.ExpressionEnds

/-!
# How far a lexer goes

Wherever a lexer stops, it stands further on in the text it started in: what it passed and what is
left make up that text, and the offset has grown by what was passed. `Along` says so of two cursors,
and every step of the lexer has a lemma that it keeps it. A token starts where its lexer did, and a
string and a piece of a template end with the marks that their kinds promise; `LexedAt` puts these
together.
-/

namespace Readiness.Script

/-! ## Cursors along a text -/

/-- The cursor stands in a text whose first character has the offset `i`: what is left to read there
is what is left of the text behind the characters that the offset has passed. -/
def Cursor.Along (t : Text) (i : Nat) (c : Cursor) : Prop :=
  ∃ passed : Text, t = passed ++ c.rest ∧ c.index = i + passed.length

namespace Cursor.Along

variable {t r w : Text} {i n : Nat} {c c' : Cursor}

theorem here (c : Cursor) : Along c.rest c.index c := ⟨[], rfl, rfl⟩

theorem trans (h : Along t i c) (h' : Along c.rest c.index c') : Along t i c' := by
  obtain ⟨w, ht, hi⟩ := h
  obtain ⟨w', hr, hi'⟩ := h'
  exact ⟨w ++ w', by rw [ht, hr, List.append_assoc],
    by rw [hi', hi, List.length_append, Nat.add_assoc]⟩

theorem index_le (h : Along t i c) : i ≤ c.index := by
  obtain ⟨w, -, hi⟩ := h
  omega

theorem behind (h : Along r (i + w.length) c) : Along (w ++ r) i c := by
  obtain ⟨w', hr, hi⟩ := h
  exact ⟨w ++ w', by rw [hr, List.append_assoc], by rw [hi, List.length_append, Nat.add_assoc]⟩

theorem cons {x : CodePoint} (h : Along r (i + 1) c) : Along (x :: r) i c :=
  behind (w := [x]) h

theorem rest_eq (h : Along t 0 c) : c.rest = t.drop c.index := by
  obtain ⟨w, rfl, hi⟩ := h
  rw [hi, Nat.zero_add, List.drop_left]

theorem index_le_length (h : Along t 0 c) : c.index ≤ t.length := by
  obtain ⟨w, rfl, hi⟩ := h
  rw [hi, List.length_append]
  omega

theorem skip (enough : n ≤ c.rest.length) : Along c.rest c.index (c.skip n) :=
  ⟨c.rest.take n, (List.take_append_drop n c.rest).symm, by
    rw [List.length_take, Nat.min_eq_left enough]
    rfl⟩

end Cursor.Along

open Cursor (Along)

/-! ## Trivia -/

theorem along_skipTrivia (markup : Bool) (mode : Trivia) (t : Text) (i l s : Nat) :
    Along t i (skipTrivia markup mode t i l s).1 := by
  fun_induction skipTrivia markup mode t i l s with
  | case1 | case2 | case3 | case11 | case14 => exact .here ⟨_, _, _, _⟩
  | case4 | case5 | case6 | case7 | case8 | case17 => next ih => exact .cons (.cons ih)
  | case9 => next ih => exact .cons (.cons (.cons ih))
  | case10 => next ih => exact .cons (.cons (.cons (.cons ih)))
  | case12 | case13 | case15 | case16 | case18 | case19 => next ih => exact .cons ih

theorem Cursor.along_skipTrivia (markup : Bool) (c : Cursor) :
    Along c.rest c.index (c.skipTrivia markup).1 :=
  Script.along_skipTrivia markup _ c.rest c.index c.line c.lineStart

theorem skipTrivia_moves (markup : Bool) (mode : Trivia) (t : Text) (i l s : Nat) :
    (skipTrivia markup mode t i l s).1 = ⟨t, i, l, s⟩ ∨
      i < (skipTrivia markup mode t i l s).1.index := by
  fun_induction skipTrivia markup mode t i l s with
  | case1 | case2 | case3 | case11 | case14 => exact .inl rfl
  | case4 | case5 | case6 | case7 | case8 | case17 =>
      exact .inr (Nat.lt_of_lt_of_le (Nat.lt_add_of_pos_right (by decide))
        (along_skipTrivia ..).index_le)
  | case9 | case10 | case12 | case13 | case15 | case16 | case18 | case19 =>
      exact .inr (Nat.lt_of_lt_of_le (Nat.lt_add_of_pos_right (by decide))
        (along_skipTrivia ..).index_le)

/-- Where skipping stops, a token is to come, and there is nothing more to skip. -/
theorem skipTrivia_stops (markup : Bool) (mode : Trivia) (t : Text) (i l s l' s' : Nat) {c : Cursor}
    (h : (skipTrivia markup mode t i l s).1 = c) :
    (skipTrivia markup (.gap false) c.rest c.index l' s').1 = ⟨c.rest, c.index, l', s'⟩ := by
  fun_induction skipTrivia markup mode t i l s with
  | case1 | case2 | case3 =>
      subst h
      rfl
  | case4 | case5 | case6 | case7 | case8 | case9 | case10 | case12 | case13 | case15 | case16
  | case17 | case18 | case19 => next ih => exact ih h
  | case11 =>
      next hmarkup =>
      subst h
      rw [skipTrivia.eq_def]
      simp only [if_neg hmarkup]
  | case14 =>
      next hreturn hslash hstar _ hless hgap hbreak =>
      subst h
      dsimp only
      rw [skipTrivia.eq_def]
      split
      all_goals
        next hmode htext =>
          cases hmode <;> cases htext <;> first
            | rw [if_neg hgap, if_neg hbreak]
            | exact (hreturn _ rfl rfl).elim
            | exact (hslash _ rfl rfl).elim
            | exact (hstar _ rfl rfl).elim
            | exact (hless _ rfl rfl).elim

theorem Cursor.skipTrivia_again (markup : Bool) (c : Cursor) :
    ((c.skipTrivia markup).1.skipTrivia markup).1 = (c.skipTrivia markup).1 := by
  rcases skipTrivia_moves markup (.gap (c.index == 0)) c.rest c.index c.line c.lineStart with
    hstays | hmoves
  · have hsame : (c.skipTrivia markup).1 = c := hstays
    rw [hsame, hsame]
  · have hnonzero : ((c.skipTrivia markup).1.index == 0) = false :=
      beq_eq_false_iff_ne.mpr (Nat.ne_of_gt (Nat.lt_of_le_of_lt (Nat.zero_le _) hmoves))
    have hstops := skipTrivia_stops markup (.gap (c.index == 0)) c.rest c.index c.line c.lineStart
      (c.skipTrivia markup).1.line (c.skipTrivia markup).1.lineStart rfl
    rw [Cursor.skipTrivia.eq_def markup (c.skipTrivia markup).1, hnonzero]
    exact hstops

/-! ## Escapes -/

/-- So many characters are taken off a text. -/
def Cut (t : Text) (n : Nat) (rest : Text) : Prop := ∃ w : Text, t = w ++ rest ∧ w.length = n

theorem Cut.none (t : Text) : Cut t 0 t := ⟨[], rfl, rfl⟩

theorem Cut.cons {x : CodePoint} {t rest : Text} {n : Nat} (h : Cut t n rest) :
    Cut (x :: t) (n + 1) rest := by
  obtain ⟨w, rfl, rfl⟩ := h
  exact ⟨x :: w, rfl, rfl⟩

theorem Cut.le {t rest : Text} {n : Nat} (h : Cut t n rest) : n ≤ t.length := by
  obtain ⟨w, rfl, rfl⟩ := h
  rw [List.length_append]
  exact Nat.le_add_right _ _

theorem Cut.rest_skip {c : Cursor} {rest : Text} {n : Nat} (h : Cut c.rest n rest) :
    (c.skip n).rest = rest := by
  obtain ⟨w, hrest, rfl⟩ := h
  rw [Cursor.skip, hrest]
  exact List.drop_left

theorem Cut.along {t rest : Text} {n i : Nat} {c : Cursor} (h : Cut t n rest)
    (further : Along rest (i + n) c) : Along t i c := by
  obtain ⟨w, rfl, rfl⟩ := h
  exact further.behind

theorem Cut.trans {t u rest : Text} {n k : Nat} (h : Cut t n u) (h' : Cut u k rest) :
    Cut t (n + k) rest := by
  obtain ⟨w, rfl, rfl⟩ := h
  obtain ⟨w', rfl, rfl⟩ := h'
  exact ⟨w ++ w', (List.append_assoc _ _ _).symm, List.length_append⟩

theorem Cut.drop {t : Text} {n : Nat} (enough : n ≤ t.length) : Cut t n (t.drop n) :=
  ⟨t.take n, (List.take_append_drop n t).symm, by rw [List.length_take, Nat.min_eq_left enough]⟩

theorem cut_hexDigits (n acc : Nat) (t : Text) :
    Cut t (hexDigits n acc t).2.1 (hexDigits n acc t).2.2 := by
  induction n generalizing acc t with
  | zero => exact .none _
  | succ n ih =>
      cases t with
      | nil => exact .none _
      | cons c r =>
          rw [hexDigits]
          split
          · exact (ih _ r).cons
          · exact .none _

theorem cut_hexRun (acc : Nat) (t : Text) : Cut t (hexRun acc t).2.1 (hexRun acc t).2.2 := by
  induction t generalizing acc with
  | nil => exact .none _
  | cons c r ih =>
      rw [hexRun]
      split
      · exact (ih _).cons
      · exact .none _

theorem cut_fixedEscape {n k : Nat} {t rest : Text} {d : CodePoint}
    (h : fixedEscape n t = .char d k rest) : Cut t k rest := by
  have hcut := cut_hexDigits n 0 t
  rw [fixedEscape] at h
  split at h
  · next v k rest hdigits =>
      cases h
      rw [hdigits] at hcut
      exact hcut
  · cases h

theorem cut_bracedEscape {t rest : Text} {d : CodePoint} {k : Nat}
    (h : bracedEscape t = .char d k rest) : Cut t k rest := by
  have hcut := cut_hexRun 0 t
  rw [bracedEscape.eq_def] at h
  split at h
  · cases h
  · split at h
    · next v k rest hrun =>
        split at h
        · cases h
          rw [hrun] at hcut
          obtain ⟨w, ht, hw⟩ := hcut
          exact ⟨w ++ [closeBrace], by rw [ht, List.append_assoc]; rfl,
            by rw [List.length_append, hw]; rfl⟩
        · cases h
    · cases h
    · cases h

theorem cut_octalEscape (d : CodePoint) (t : Text) :
    Cut t (octalEscape d t).2.2.1 (octalEscape d t).2.2.2 := by
  rw [octalEscape.eq_def]
  split
  · dsimp only
    split
    · split
      · split
        · exact (Cut.none _).cons.cons
        · exact (Cut.none _).cons
      · exact (Cut.none _).cons
    · exact .none _
  · exact .none _

theorem cut_afterBreak (b : CodePoint) (t : Text) :
    Cut (b :: t) (afterBreak b t).2 (afterBreak b t).1 := by
  rw [afterBreak.eq_def]
  split
  · split
    · exact (Cut.none _).cons.cons
    · exact (Cut.none _).cons
  · exact (Cut.none _).cons

/-! ## Strings and templates -/

/-- A part of a text is passed, with the mark that ends it. -/
def Ended (t : Text) (i : Nat) (mark : Text) (c : Cursor) : Prop :=
  ∃ raw : Text, t = raw ++ (mark ++ c.rest) ∧ c.index = i + raw.length + mark.length

theorem Ended.along {t mark : Text} {i : Nat} {c : Cursor} (h : Ended t i mark c) :
    Along t i c := by
  obtain ⟨raw, rfl, hi⟩ := h
  exact ⟨raw ++ mark, (List.append_assoc _ _ _).symm, by
    rw [hi, List.length_append, Nat.add_assoc]⟩

theorem Cut.ended {t rest mark : Text} {n i : Nat} {c : Cursor} (h : Cut t n rest)
    (further : Ended rest (i + n) mark c) : Ended t i mark c := by
  obtain ⟨w, rfl, rfl⟩ := h
  obtain ⟨raw, rfl, hi⟩ := further
  refine ⟨w ++ raw, (List.append_assoc _ _ _).symm, ?_⟩
  rw [hi, List.length_append, Nat.add_assoc i]

theorem ended_stringFrom {quote : CodePoint} {start : Nat} {t : Text} {c : Cursor} {acc : Text}
    {octal : Bool} {problems : List Problem} {body : StringBody}
    (h : stringFrom quote start t c acc octal problems = .ok body) :
    Ended t c.index [quote] body.after := by
  fun_induction stringFrom quote start t c acc octal problems with
  | case1 | case3 | case6 | case8 | case10 | case15 => cases h
  | case2 =>
      next hquote =>
      cases h
      rw [eq_of_beq hquote]
      exact ⟨[], rfl, rfl⟩
  | case4 => next ih => exact (cut_afterBreak _ _).cons.ended (ih h)
  | case5 => next hescape ih => exact (cut_bracedEscape hescape).cons.cons.cons.ended (ih h)
  | case7 | case9 => next hescape ih => exact (cut_fixedEscape hescape).cons.cons.ended (ih h)
  | case13 => next ih => exact (cut_octalEscape _ _).cons.cons.ended (ih h)
  | case11 | case12 | case14 => next ih => exact (Cut.none _).cons.cons.ended (ih h)
  | case16 => next ih => exact (Cut.none _).cons.ended (ih h)

theorem ended_templateFrom {t : Text} {c : Cursor} {acc : Text} {body : TemplateBody}
    (h : templateFrom t c acc = .ok body) : Ended t c.index (ender body.tail) body.after := by
  fun_induction templateFrom t c acc with
  | case1 | case4 | case7 | case11 | case14 => cases h
  | case2 | case3 =>
      cases h
      exact ⟨[], rfl, rfl⟩
  | case5 => next ih => exact (cut_afterBreak _ _).cons.ended (ih h)
  | case6 => next hescape ih => exact (cut_bracedEscape hescape).cons.cons.cons.ended (ih h)
  | case8 | case10 => next hescape ih => exact (cut_fixedEscape hescape).cons.cons.ended (ih h)
  | case9 | case12 | case13 | case15 => next ih => exact (Cut.none _).cons.cons.ended (ih h)
  | case16 => next ih => exact (cut_afterBreak _ _).ended (ih h)
  | case17 => next ih => exact (Cut.none _).cons.ended (ih h)

/-! ## Names -/

theorem along_identifierEscape {allowed : CodePoint → Bool} {c c' : Cursor} {d : CodePoint}
    (h : identifierEscape allowed c = .ok (d, c')) : Along c.rest c.index c' := by
  rw [identifierEscape] at h
  split at h
  · next r hrest =>
      split at h
      · next hescape =>
          cases h
          rw [hrest]
          exact (cut_bracedEscape hescape).cons.cons.along (.here (Cursor.move _ _ _))
      · cases h
  · next r _ hrest =>
      split at h
      · next hescape =>
          split at h
          · cases h
            rw [hrest]
            exact (cut_fixedEscape hescape).cons.along (.here (Cursor.move _ _ _))
          · cases h
      · cases h
  · cases h

theorem along_escapedIdentifier {fuel : Nat} {c c' : Cursor} {acc name : Text}
    (h : escapedIdentifier fuel c acc = .ok (name, c')) : Along c.rest c.index c' := by
  fun_induction escapedIdentifier fuel c acc with
  | case1 | case2 | case3 =>
      cases h
      exact .here _
  | case4 =>
      next hrest _ _ _ _ hescape ih =>
      rw [hrest]
      exact .cons ((along_identifierEscape hescape).trans (ih h))
  | case5 => cases h
  | case6 =>
      next hrest _ _ ih =>
      rw [hrest]
      exact .cons (ih h)

theorem along_identifierName {c c' : Cursor} {name : Text}
    (h : identifierName c = .ok (name, c')) : Along c.rest c.index c' := by
  rw [identifierName, List.span_eq_takeWhile_dropWhile] at h
  dsimp only at h
  split at h
  · cases h
    exact ⟨_, (List.takeWhile_append_dropWhile).symm, rfl⟩
  · split at h
    · next r hrest =>
        split at h
        · next hescape =>
            rw [hrest]
            exact .cons ((along_identifierEscape hescape).trans (along_escapedIdentifier h))
        · cases h
    · exact along_escapedIdentifier h

theorem isIdentifierPart_of_start {x : CodePoint} (h : isIdentifierStart x = true) :
    isIdentifierPart x = true := by
  rw [isIdentifierStart] at h
  rw [isIdentifierPart]
  split
  · next hsmall =>
      rw [if_pos hsmall] at h
      simp only [CodePoint.isAlphanum, Bool.or_eq_true] at h ⊢
      tauto
  · next hlarge =>
      rw [if_neg hlarge] at h
      rw [h, Bool.true_or]

/-- A name that is lexed where a character starts one has that character. -/
theorem index_lt_identifierName {c c' : Cursor} {name r : Text} {x : CodePoint}
    (here : c.rest = x :: r) (starts : isIdentifierStart x = true)
    (h : identifierName c = .ok (name, c')) : c.index < c'.index := by
  have hpart := isIdentifierPart_of_start starts
  rw [identifierName, List.span_eq_takeWhile_dropWhile] at h
  dsimp only at h
  split at h
  · cases h
    show c.index < c.index + (c.rest.takeWhile isIdentifierPart).length
    rw [here, List.takeWhile_cons_of_pos hpart, List.length_cons]
    omega
  · split at h
    · split at h
      · next hescape =>
          exact ((along_identifierEscape hescape).trans (along_escapedIdentifier h)).index_le
      · cases h
    · next hplain =>
        rw [here, List.length_cons, escapedIdentifier, here] at h
        dsimp only at h
        rw [hpart] at h
        split at h
        · next hend => exact (Bool.false_ne_true hend).elim
        split at h
        · next hslash => exact (hplain _ (by rw [here, eq_of_beq hslash])).elim
        · exact (along_escapedIdentifier h).index_le

/-! ## Tokens of scripts -/

/-- The kinds of tokens of which no more is said than where they stand. -/
def Token.Kind.isOther : Token.Kind → Bool
  | .identifier | .punctuator | .string | .template => false
  | _ => true

/-- The characters that strings are quoted with. -/
def stringQuotes : Text := ['\'', '"']

/-- From one cursor to another goes a string: up to the quote that opens it, or up to the end of the
text. -/
def QuotedAt (c after : Cursor) : Prop :=
  ∃ q ∈ stringQuotes, ∃ r, c.rest = q :: r ∧
    (Ended r (c.index + 1) [q] after ∨ Along r (c.index + 1) after ∧ after.rest = [])

/-- What a token that is lexed at a cursor has to do with the text there: it starts at the cursor,
the cursor behind it stands further on in the same text, a piece of a template is written with the
marks that open and end it, a string with its quotes, and a name or punctuator has characters. -/
structure LexedAt (c : Cursor) (k : Token) (after : Cursor) : Prop where
  along : Along c.rest c.index after
  start : k.start = c.index
  piece : k.kind = .template →
    ∃ r, c.rest = opener k.head :: r ∧ Ended r (c.index + 1) (ender k.tail) after
  string : k.kind = .string → QuotedAt c after
  moves : k.kind = .identifier ∨ k.kind = .punctuator → c.index < after.index

namespace LexedAt

variable {c : Cursor} {b : List Brace} {l : Lexeme}

theorem other {k : Token} {after : Cursor} (along : Along c.rest c.index after)
    (start : k.start = c.index) (kind : k.kind.isOther = true) : LexedAt c k after := by
  refine ⟨along, start, fun h => ?_, fun h => ?_, fun h => ?_⟩
  · rw [h] at kind
    cases kind
  · rw [h] at kind
    cases kind
  · rcases h with h | h <;> rw [h] at kind <;> cases kind

theorem lexName {x : CodePoint} {r : Text} (here : c.rest = x :: r)
    (starts : isIdentifierStart x = true) (h : Script.lexName c b = .ok l) :
    LexedAt c l.token l.after := by
  rw [Script.lexName] at h
  cases hname : identifierName c with
  | error p => rw [hname] at h; cases h
  | ok x =>
      obtain ⟨name, after⟩ := x
      rw [hname] at h
      cases h
      have hclass : classOfName name name.length ≠ .template ∧
          classOfName name name.length ≠ .string := by
        rw [classOfName]
        repeat' split
        all_goals decide
      exact ⟨along_identifierName hname, rfl, fun h => absurd h hclass.1,
        fun h => absurd h hclass.2, fun _ => index_lt_identifierName here starts hname⟩

end LexedAt

theorem punctuator?_length {t p : Text} (h : punctuator? t = some p) :
    0 < p.length ∧ p.length ≤ t.length := by
  rw [punctuator?.eq_def] at h
  split at h
  · cases h
  · cases h
    simp [Text.ofString]
  · split at h
    · cases h
      simp
    · split at h
      · next hfound =>
          cases h
          have hlong : ∀ p ∈ longPunctuators, 0 < p.length := by decide
          have hprefix := List.find?_some hfound
          exact ⟨hlong _ (List.mem_of_find?_eq_some hfound),
            (List.isPrefixOf_iff_prefix.mp hprefix).length_le⟩
      · split at h
        · cases h
          simp
        · cases h

theorem length_takeWhile_le (p : CodePoint → Bool) (t : Text) : (t.takeWhile p).length ≤ t.length :=
  (List.takeWhile_prefix p).length_le

namespace LexedAt

variable {c : Cursor} {b : List Brace} {l : Lexeme}

theorem lexPunctuator (h : Script.lexPunctuator c b = .ok l) : LexedAt c l.token l.after := by
  rw [Script.lexPunctuator] at h
  split at h
  · cases h
  · next p hp =>
      cases h
      obtain ⟨hpos, hle⟩ := punctuator?_length hp
      exact ⟨.skip hle, rfl, (by rintro ⟨⟩), (by rintro ⟨⟩),
        fun _ => Nat.lt_add_of_pos_right hpos⟩

theorem lexRadix {base skip : Nat} {digit bad : CodePoint → Bool} {octal : Bool}
    (enough : skip ≤ c.rest.length) (h : Script.lexRadix base skip digit bad octal c b = .ok l) :
    LexedAt c l.token l.after := by
  rw [Script.lexRadix] at h
  dsimp only at h
  split at h
  · cases h
  · cases h
    exact .other ((Along.skip enough).trans (.skip (length_takeWhile_le _ _))) rfl rfl

theorem lexDecimal (h : Script.lexDecimal c b = .ok l) : LexedAt c l.token l.after := by
  unfold Script.lexDecimal at h
  extract_lets whole c₁ at h
  split at h
  next fraction c₂ hpair =>
  have hwhole : Along c.rest c.index c₁ := .skip (length_takeWhile_le _ _)
  have hfraction : Along c₁.rest c₁.index c₂ := by
    split at hpair
    · next r hrest =>
        cases hpair
        refine .skip ?_
        rw [hrest]
        exact Nat.succ_le_succ (length_takeWhile_le _ _)
    · cases hpair
      exact .here _
  extract_lets mantissa finish at h
  -- With or without an exponent, the number ends where `finish` is told.
  have hfinish : ∀ exponent after, Along c₂.rest c₂.index after →
      finish exponent after = .ok l → LexedAt c l.token l.after := by
    intro exponent after halong hok
    simp only [finish] at hok
    split at hok
    · cases hok
    · cases hok
      exact .other ((hwhole.trans hfraction).trans halong) rfl rfl
  clear_value finish
  split at h
  · next e r hrest =>
      split at h
      · split at h
        next sign r' n hsign =>
        have hlength : c₂.rest.length = n + r'.length := by
          rw [hrest, List.length_cons]
          split at hsign <;> cases hsign
          · rw [List.length_cons, Nat.add_comm 2]
          · rw [List.length_cons, Nat.add_comm 2]
          · exact Nat.add_comm _ _
        extract_lets digits at h
        split at h
        · cases h
        · have hdigits : digits.length ≤ r'.length := length_takeWhile_le _ _
          exact hfinish _ _ (.skip (by omega)) h
      · exact hfinish _ _ (.here _) h
  · exact hfinish _ _ (.here _) h

theorem lexNumber (h : Script.lexNumber c b = .ok l) : LexedAt c l.token l.after := by
  rw [Script.lexNumber] at h
  split at h
  · next x r hrest =>
      have htwo : 2 ≤ c.rest.length := by
        rw [hrest]
        exact Nat.le_add_left 2 r.length
      split at h
      · exact lexRadix htwo h
      · split at h
        · exact lexRadix htwo h
        · split at h
          · exact lexRadix htwo h
          · split at h
            · exact lexRadix (Nat.le_of_succ_le htwo) h
            · exact lexDecimal h
  · exact lexDecimal h

theorem lexString {x : CodePoint} {r : Text} (here : c.rest = x :: r) (quote : x ∈ stringQuotes)
    (h : Script.lexString x c b = .ok l) : LexedAt c l.token l.after := by
  rw [Script.lexString] at h
  cases hbody : stringBody x c.index (c.skip 1) [] false [] with
  | error p => rw [hbody] at h; cases h
  | ok body =>
      have hrest : (c.skip 1).rest = r := by
        rw [Cursor.skip, here]
        rfl
      have hended : Ended r (c.index + 1) [x] body.after := by
        rw [stringBody, hrest] at hbody
        exact ended_stringFrom hbody
      rw [hbody] at h
      cases h
      refine ⟨?_, rfl, (by rintro ⟨⟩), fun _ => ⟨x, quote, r, here, .inl hended⟩,
        (by rintro (⟨⟨⟩⟩ | ⟨⟨⟩⟩))⟩
      rw [here]
      exact .cons hended.along

theorem lexTemplate {head : Bool} {r : Text} (here : c.rest = opener head :: r)
    (h : Script.lexTemplate head c b = .ok l) : LexedAt c l.token l.after := by
  rw [Script.lexTemplate] at h
  cases hbody : templateBody (c.skip 1) [] with
  | error p => rw [hbody] at h; cases h
  | ok body =>
      have hrest : (c.skip 1).rest = r := by
        rw [Cursor.skip, here]
        rfl
      have hended : Ended r (c.index + 1) (ender body.tail) body.after := by
        rw [templateBody, hrest] at hbody
        exact ended_templateFrom hbody
      rw [hbody] at h
      cases h
      refine ⟨?_, rfl, fun _ => ⟨r, here, hended⟩, (by rintro ⟨⟩), (by rintro (⟨⟨⟩⟩ | ⟨⟨⟩⟩))⟩
      rw [here]
      exact .cons hended.along

theorem lex (h : Script.lex c b = .ok l) : LexedAt c l.token l.after := by
  rw [Script.lex.eq_def] at h
  split at h
  · cases h
    exact .other (.here _) rfl rfl
  · next x r hrest =>
      split at h
      · next hstarts => exact lexName hrest hstarts h
      split at h
      · next hquote => exact lexString hrest (by simpa [stringQuotes] using hquote) h
      split at h
      · split at h
        · exact lexNumber h
        · exact lexPunctuator h
      split at h
      · exact lexNumber h
      split at h
      · next hquote =>
          have hopens : c.rest = opener true :: r := by rw [hrest, eq_of_beq hquote]; rfl
          exact lexTemplate hopens h
      split at h
      · next hbrace =>
          rw [Bool.and_eq_true] at hbrace
          have hopens : c.rest = opener false :: r := by rw [hrest, eq_of_beq hbrace.1]; rfl
          exact lexTemplate hopens h
      · exact lexPunctuator h

end LexedAt

/-! ## Regular expressions -/

theorem along_regExpBody {inClass : Bool} {t : Text} {c c' : Cursor} {acc pattern : Text}
    (h : regExpBody inClass t c acc = .ok (pattern, c')) : Along t c.index c' := by
  fun_induction regExpBody inClass t c acc with
  | case1 | case2 | case3 | case5 => cases h
  | case4 => next ih => exact (Cut.none _).cons.cons.along (ih h)
  | case6 => next ih => exact (Cut.none _).cons.along (ih h)
  | case7 =>
      obtain rfl : _ = c' := congrArg Prod.snd (Except.ok.inj h)
      exact (Cut.none _).cons.along (.here (Cursor.move _ _ _))
  | case8 => next ih => exact (Cut.none _).cons.along (ih h)

theorem along_regExpFlags (fuel : Nat) (c : Cursor) (flags : Text) (ps : List Problem) :
    Along c.rest c.index (regExpFlags fuel c flags ps).1 := by
  fun_induction regExpFlags fuel c flags ps with
  | case1 | case2 | case3 => exact .here _
  | case4 =>
      next hrest ih =>
      rw [hrest]
      exact (Cut.none _).cons.along ih
  | case5 =>
      next c _ _ _ _ _ r' c' _ hpair hrest ih =>
      have hescape : Along r' (c.index + 2) c' := by
        split at hpair
        · next hchar =>
            cases hpair
            have hcut : Cut r' _ _ := cut_fixedEscape hchar
            refine hcut.along ?_
            rw [Nat.add_right_comm, Nat.add_assoc]
            exact .here (Cursor.move _ _ _)
        · cases hpair
          exact .here (Cursor.move _ _ _)
      rw [hrest]
      exact (Along.cons (Along.cons hescape)).trans ih
  | case6 =>
      next hrest ih =>
      rw [hrest]
      exact Along.cons ih
  | case7 =>
      next hrest _ _ ih =>
      rw [hrest]
      exact Along.cons ih

theorem along_lexRegExp {c : Cursor} {b : List Brace} {l : Lexeme}
    (h : lexRegExp c b = .ok l) : Along c.rest c.index l.after := by
  rw [lexRegExp] at h
  cases hbody : regExpBody false (c.rest.drop 1) (c.skip 1) [] with
  | error p => rw [hbody] at h; cases h
  | ok body =>
      obtain ⟨pattern, afterBody⟩ := body
      have hpattern := along_regExpBody hbody
      have hflags := along_regExpFlags (afterBody.rest.length + 1) afterBody [] []
      rw [hbody] at h
      cases h
      cases hrest : c.rest with
      | nil =>
          rw [hrest] at hbody
          cases hbody
      | cons x r =>
          rw [hrest] at hpattern
          exact Along.cons (hpattern.trans hflags)

/-! ## Markup -/

theorem Entity.length_seen_run (quote : CodePoint) (t : Text) (n : Nat) (s : Entity.Reading) :
    (Entity.Reading.run quote t n s).seen.length ≤ s.seen.length + t.length := by
  induction t generalizing n s with
  | nil => exact Nat.le_refl _
  | cons c r ih =>
      rw [Entity.Reading.run]
      split
      · exact Nat.le_add_right _ _
      · have hadd : (s.add (n + 1) c).seen.length = s.seen.length + 1 := by
          rw [Entity.Reading.add]
          repeat' split
          all_goals rfl
        have hr := ih (n + 1) (s.add (n + 1) c)
        rw [List.length_cons]
        omega

theorem Entity.length_read {quote : CodePoint} {t chars : Text} {k : Nat}
    (h : Entity.read quote t = .ok (chars, k)) : k ≤ t.length := by
  unfold Entity.read at h
  extract_lets s written plain name finish at h
  have hfinish : ∀ {value}, finish value = .ok (chars, k) → written.length = k :=
    fun hok => congrArg Prod.snd (Except.ok.inj hok)
  clear_value finish
  have hk : written.length = k := by
    repeat' split at h
    all_goals first
      | exact hfinish h
      | obtain ⟨c, -, h⟩ := exists_of_bind_ok h
        exact hfinish h
  have hseen := Entity.length_seen_run quote t 0 {}
  rw [← hk, List.length_reverse]
  simpa using hseen

/-- A string ends with the quote that opens it, or with the text. -/
theorem attributeString_ended {quote : CodePoint} {fuel : Nat} {t acc value : Text} {n k : Nat}
    (enough : t.length ≤ fuel)
    (h : Parser.attributeString quote fuel t acc n = .ok (value, k)) :
    ∃ taken rest, Cut t taken rest ∧
      (rest.head? = some quote ∧ k = n + taken + 1 ∨ rest = [] ∧ k = n + taken) := by
  fun_induction Parser.attributeString quote fuel t acc n with
  | case1 =>
      cases h
      exact ⟨0, _, .none _, .inr ⟨List.length_eq_zero_iff.mp (by omega), rfl⟩⟩
  | case2 =>
      cases h
      exact ⟨0, _, .none _, .inr ⟨rfl, rfl⟩⟩
  | case3 =>
      next hquote =>
      cases h
      exact ⟨0, _, .none _, .inl ⟨congrArg some (eq_of_beq hquote), rfl⟩⟩
  | case4 =>
      next ih =>
      obtain ⟨⟨chars, length⟩, hread, h⟩ := exists_of_bind_ok h
      have hlength := Entity.length_read hread
      rw [List.length_cons] at enough
      obtain ⟨taken, rest, hcut, hend⟩ := ih chars length (by rw [List.length_drop]; omega) h
      refine ⟨length + taken + 1, rest, ((Cut.drop hlength).trans hcut).cons, ?_⟩
      exact hend.imp (And.imp_right fun hk => by omega) (And.imp_right fun hk => by omega)
  | case5 =>
      next ih =>
      rw [List.length_cons] at enough
      obtain ⟨taken, rest, hcut, hend⟩ := ih (Nat.le_of_succ_le_succ enough) h
      refine ⟨taken + 1, rest, hcut.cons, ?_⟩
      exact hend.imp (And.imp_right fun hk => by omega) (And.imp_right fun hk => by omega)

theorem lexMarkup_ok {c : Cursor} {b : List Brace} {l : Lexeme}
    (h : Parser.lexMarkup c b = .ok (.ok l)) :
    Along c.rest c.index l.after ∧ (l.token.kind = .string → QuotedAt c l.after) := by
  unfold Parser.lexMarkup at h
  extract_lets token at h
  have htoken : ∀ kind value n, n ≤ c.rest.length → token kind value n = .ok (.ok l) →
      Along c.rest c.index l.after ∧ l.token.kind = kind ∧ l.after = c.skip n := by
    intro kind value n enough hok
    cases hok
    exact ⟨.skip enough, rfl, rfl⟩
  clear_value token
  -- Only the token of a string is one.
  have hother : ∀ kind value n, n ≤ c.rest.length → kind ≠ .string →
      token kind value n = .ok (.ok l) →
      Along c.rest c.index l.after ∧ (l.token.kind = .string → QuotedAt c l.after) := by
    intro kind value n enough hkind hok
    obtain ⟨halong, hl, -⟩ := htoken kind value n enough hok
    exact ⟨halong, fun h => absurd (hl.symm.trans h) hkind⟩
  have hlex : Except.ok (lex c b) = (Except.ok (Except.ok l) : Except Breakdown _) →
      Along c.rest c.index l.after ∧ (l.token.kind = .string → QuotedAt c l.after) := by
    intro hok
    have hlexed := LexedAt.lex (Except.ok.inj hok)
    exact ⟨hlexed.along, hlexed.string⟩
  split at h
  · exact hlex h
  · next hrest => exact hother _ _ _ (by simp [hrest]) (by decide) h
  · next x r _ hrest =>
    split at h
    · exact hother _ _ _ (by simp [hrest]) (by decide) h
    split at h
    · next hquote =>
        obtain ⟨⟨value, n⟩, hstring, hok⟩ := exists_of_bind_ok h
        have hquoted : x ∈ stringQuotes := by
          rw [Bool.or_comm] at hquote
          simpa [stringQuotes] using hquote
        obtain ⟨taken, rest, hcut, hend⟩ := attributeString_ended (Nat.le_refl _) hstring
        rcases hend with ⟨hclosing, hn⟩ | ⟨rfl, hn⟩
        · obtain ⟨more, rfl⟩ := List.head?_eq_some_iff.mp hclosing
          have hall : Cut c.rest n more := by
            rw [hrest, show n = taken + 1 + 1 by omega]
            exact (hcut.trans (Cut.none more).cons).cons
          obtain ⟨halong, -, hafter⟩ := htoken _ _ _ hall.le hok
          obtain ⟨body, hr, hbody⟩ := hcut
          have hindex : l.after.index = c.index + n := congrArg Cursor.index hafter
          refine ⟨halong, fun _ => ⟨x, hquoted, r, hrest, .inl ⟨body, ?_, ?_⟩⟩⟩
          · rw [hafter, hall.rest_skip]
            exact hr
          · rw [hindex, List.length_singleton]
            omega
        · have hall : Cut c.rest n [] := by
            rw [hrest, show n = taken + 1 by omega]
            exact hcut.cons
          obtain ⟨halong, -, hafter⟩ := htoken _ _ _ hall.le hok
          obtain ⟨body, hr, hbody⟩ := hcut
          have hindex : l.after.index = c.index + n := congrArg Cursor.index hafter
          have hnil : l.after.rest = [] := by rw [hafter, hall.rest_skip]
          refine ⟨halong, fun _ => ⟨x, hquoted, r, hrest, .inr ⟨⟨body, ?_, by omega⟩, hnil⟩⟩⟩
          rw [hnil]
          exact hr
    split at h
    · exact hother _ _ _ (Nat.zero_le _) (by decide) h
    split at h
    · refine hother _ _ _ ?_ (by decide) h
      rw [hrest]
      exact Nat.succ_le_succ (length_takeWhile_le _ _)
    · exact hlex h

theorem along_afterTagText (fuel : Nat) (c : Cursor) :
    Along c.rest c.index (Parser.afterTagText fuel c) := by
  fun_induction Parser.afterTagText fuel c with
  | case1 | case2 | case3 => exact .here _
  | case4 =>
      next hrest _ _ ih =>
      rw [hrest]
      exact (cut_afterBreak _ _).along ih
  | case5 =>
      next hrest _ _ ih =>
      rw [hrest]
      exact Along.cons ih

end Readiness.Script
