import Readiness.Proofs.CursorSteps
import Readiness.Proofs.NodePlaces

/-!
# Where a parser stands

The parser goes through a text from left to right. The token ahead of it is the one that stands at
its place, and the last token taken ends in front of that place, so what is read from one place to
another stands between the two. `Keeps` is the triple that productions are taken apart with: the
parser keeps standing in the text and never goes back. Steps that take nothing are `Quiet`.

There is one rule for each thing that a production can do. A loop has an invariant that is kept by
each turn, and the rules of the grammar that a production calls are taken by their contract,
`Rules.ReadFrom`.
-/

namespace Readiness.Script

open Readiness.Script.Parser
open Cursor (Along)

variable {α β σ : Type}

/-! ## States -/

/-- What the parser reads next: the token ahead of it, or the characters at its cursor. More may be
known of the tokens: where the one ahead starts, which it is, and where the last one taken ends. -/
inductive Reading where
  | tokens
  | characters
  | knowing (known : Cursor → Token → Marker → Prop)

namespace Reading

def isTokens : Reading → Bool
  | .characters => false
  | _ => true

def Knows : Reading → Cursor → Token → Marker → Prop
  | .knowing known => known
  | _ => fun _ _ _ => True

/-- The token ahead is this one, and starts here. -/
def facing (start : Nat) (k : Token) : Reading :=
  knowing fun c ahead _ => c.index = start ∧ ahead = k

/-- The last token taken was this one, and started here. -/
def behind (t : Text) (start : Nat) (k : Token) : Reading :=
  knowing fun _ _ last => k.kind = .string → IsQuoted t start last.index

/-- The last token taken ends behind a place. -/
def past (place : Nat) : Reading := knowing fun _ _ last => place < last.index

end Reading

/-- The offset that the parser has got to. -/
def State.front (r : Reading) (s : State) : Nat :=
  match r with
  | .characters => s.cursor.index
  | .tokens | .knowing _ => s.start.index

/-- The parser stands in a text: its cursor does, and the token ahead of it is the one that stands
there. `w` tells whether the last token taken is known to end before the place it has got to; of
the first token of a script, which is read before anything else, that is not so. -/
structure State.StandsIn (t : Text) (w : Prop) (r : Reading) (s : State) : Prop where
  cursor : Along t 0 s.cursor
  start : Along t 0 s.start
  ahead : r.isTokens = true → LexedAt s.start s.ahead s.cursor
  last : w → s.last.index ≤ s.front r
  known : r.Knows s.start s.ahead s.last

/-- Nothing that matters to where the parser stands has changed. -/
structure State.SamePlace (s s' : State) : Prop where
  cursor : s'.cursor = s.cursor
  start : s'.start = s.start
  ahead : s'.ahead = s.ahead
  last : s'.last = s.last

theorem State.StandsIn.weaken {t : Text} {w : Prop} {r : Reading} {s : State}
    (h : s.StandsIn t True r) : s.StandsIn t w r :=
  { h with last := fun _ => h.last trivial }

theorem State.StandsIn.plain {t : Text} {w : Prop} {known : Cursor → Token → Marker → Prop}
    {s : State} (h : s.StandsIn t w (.knowing known)) : s.StandsIn t w .tokens :=
  ⟨h.cursor, h.start, fun _ => h.ahead rfl, h.last, trivial⟩

theorem State.StandsIn.knows {t : Text} {w : Prop} {known : Cursor → Token → Marker → Prop}
    {s : State} (h : s.StandsIn t w .tokens) (more : known s.start s.ahead s.last) :
    s.StandsIn t w (.knowing known) :=
  ⟨h.cursor, h.start, fun _ => h.ahead rfl, h.last, more⟩

theorem State.SamePlace.front {s s' : State} (h : s.SamePlace s') (r : Reading) :
    s'.front r = s.front r := by
  cases r
  · exact congrArg Cursor.index h.start
  · exact congrArg Cursor.index h.cursor
  · exact congrArg Cursor.index h.start

theorem State.StandsIn.congr {t : Text} {w : Prop} {r : Reading} {s s' : State}
    (h : s.StandsIn t w r) (same : s.SamePlace s') : s'.StandsIn t w r := by
  refine ⟨by rw [same.cursor]; exact h.cursor, by rw [same.start]; exact h.start, fun hr => ?_,
    fun hw => ?_, ?_⟩
  · rw [same.start, same.ahead, same.cursor]
    exact h.ahead hr
  · rw [same.last, same.front]
    exact h.last hw
  · rw [same.start, same.ahead, same.last]
    exact h.known

theorem State.SamePlace.refl (s : State) : s.SamePlace s := ⟨rfl, rfl, rfl, rfl⟩

theorem State.SamePlace.trans {s s' s'' : State} (h : s.SamePlace s') (h' : s'.SamePlace s'') :
    s.SamePlace s'' :=
  ⟨h'.cursor.trans h.cursor, h'.start.trans h.start, h'.ahead.trans h.ahead, h'.last.trans h.last⟩

theorem ok_of_bind {p : Parser α} {f : α → Parser β} {s s'' : State} {c : β}
    (h : (p >>= f) s = .ok c s'') : ∃ a s', p s = .ok a s' ∧ f a s' = .ok c s'' := by
  change EStateM.bind p f s = _ at h
  rw [EStateM.bind] at h
  split at h
  · next a s' hp => exact ⟨a, s', hp, h⟩
  · cases h

theorem ok_of_discard {p : Parser α} {s s' : State} {u : PUnit} (h : discard p s = .ok u s') :
    ∃ a, p s = .ok a s' := by
  change EStateM.map _ p s = _ at h
  rw [EStateM.map] at h
  split at h
  · next a s₁ hp =>
      cases h
      exact ⟨a, hp⟩
  · cases h

/-! ## Steps that take nothing -/

/-- A parser that stays where it is, with a result for which `Q` holds. -/
def Quiet (p : Parser α) (Q : α → Prop) : Prop :=
  ∀ s a s', p s = .ok a s' → s.SamePlace s' ∧ Q a

namespace Quiet

variable {p q : Parser α} {f : α → Parser β} {Q : α → Prop} {R : β → Prop}

theorem bind (first : Quiet p Q) (rest : ∀ a, Q a → Quiet (f a) R) : Quiet (p >>= f) R := by
  intro s c s'' h
  obtain ⟨a, s', hp, hf⟩ := ok_of_bind h
  obtain ⟨hsame, ha⟩ := first s a s' hp
  obtain ⟨hsame', hc⟩ := rest a ha s' c s'' hf
  exact ⟨hsame.trans hsame', hc⟩

theorem skip (first : Quiet p fun _ => True) (rest : ∀ a, Quiet (f a) R) : Quiet (p >>= f) R :=
  bind first fun a _ => rest a

theorem ret {a : α} (h : Q a) : Quiet (pure a) Q := by
  intro s c s' hp
  cases hp
  exact ⟨.refl s, h⟩

theorem imp {Q' : α → Prop} (h : Quiet p Q) (imp : ∀ a, Q a → Q' a) : Quiet p Q' :=
  fun s a s' hp => ⟨(h s a s' hp).1, imp a (h s a s' hp).2⟩

theorem any (h : Quiet p Q) : Quiet p fun _ => True := h.imp fun _ _ => trivial

theorem ite {c : Prop} [Decidable c] (yes : c → Quiet p Q) (no : ¬ c → Quiet q Q) :
    Quiet (if c then p else q) Q := by
  split
  · exact yes ‹_›
  · exact no ‹_›

/-- A step that is only taken in some cases. -/
theorem when {c : Prop} [Decidable c] {p : Parser PUnit} {f : PUnit → Parser β}
    (step : Quiet p fun _ => True) (rest : Quiet (f ⟨⟩) R) :
    Quiet (if c then p >>= f else f ⟨⟩) R :=
  ite (fun _ => skip step fun _ => rest) fun _ => rest

/-- A remark on something that is looked up, made in some cases only. -/
theorem remark {c : Prop} [Decidable c] {q : α → Parser PUnit} {f : PUnit → Parser β}
    (first : Quiet p fun _ => True) (step : ∀ a, Quiet (q a) fun _ => True)
    (rest : Quiet (f ⟨⟩) R) : Quiet (if c then p >>= fun a => q a >>= f else f ⟨⟩) R :=
  ite (fun _ => skip first fun _ => skip (step _) fun _ => rest) fun _ => rest

theorem throw {k : Stop} : Quiet (throw k : Parser α) Q := by
  intro s a s' h
  cases h

theorem get : Quiet get fun _ => True := by
  intro s a s' h
  cases h
  exact ⟨.refl s, trivial⟩

theorem modify {g : State → State} (same : ∀ s : State, s.SamePlace (g s)) :
    Quiet (modify g) fun _ => True := by
  intro s a s' h
  cases h
  exact ⟨same s, trivial⟩

theorem fail {k : Problem} : Quiet (Parser.fail k) Q := throw

theorem failTooDeep : Quiet Parser.failTooDeep Q := throw

theorem breakDown {k : Breakdown} : Quiet (Parser.breakDown k) Q := throw

theorem note {k : Problem} : Quiet (Parser.note k) fun _ => True :=
  modify fun _ => ⟨rfl, rfl, rfl, rfl⟩

theorem tokenProblem {k : Token} {c : Complaint} :
    Quiet (Parser.tokenProblem k c) fun _ => True := by
  unfold Parser.tokenProblem
  exact when breakDown (skip get fun _ => ret trivial)

theorem lastProblem {c : Complaint} : Quiet (Parser.lastProblem c) fun _ => True :=
  skip get fun _ => ret trivial

theorem unexpected {k : Token} : Quiet (Parser.unexpected k : Parser α) Q :=
  skip get fun _ => skip tokenProblem fun _ => fail

theorem noteUnexpected {k : Token} : Quiet (Parser.noteUnexpected k) fun _ => True :=
  skip get fun _ => skip tokenProblem fun _ => note

theorem noteToken {k : Token} {c : Complaint} : Quiet (Parser.noteToken k c) fun _ => True :=
  skip tokenProblem fun _ => note

theorem failHere {c : Complaint} : Quiet (Parser.failHere c : Parser α) Q :=
  skip lastProblem fun _ => fail

theorem noteHere {c : Complaint} : Quiet (Parser.noteHere c) fun _ => True :=
  skip get fun _ => note

theorem ahead : Quiet Parser.ahead fun _ => True := skip get fun _ => ret trivial

theorem sees {v : Text} : Quiet (Parser.sees v) fun _ => True := skip get fun _ => ret trivial

theorem seesWord {v : Text} : Quiet (Parser.seesWord v) fun _ => True :=
  skip get fun _ => ret trivial

theorem seesName {v : Text} : Quiet (Parser.seesName v) fun _ => True :=
  skip get fun _ => ret trivial

theorem seesEnd : Quiet Parser.seesEnd fun _ => True := skip get fun _ => ret trivial

theorem mark : Quiet Parser.mark fun _ => True := skip get fun _ => ret trivial

theorem context : Quiet Parser.context fun _ => True := skip get fun _ => ret trivial

theorem modifyContext {g : Context → Context} : Quiet (Parser.modifyContext g) fun _ => True :=
  modify fun _ => ⟨rfl, rfl, rfl, rfl⟩

theorem notTarget : Quiet Parser.notTarget fun _ => True := modifyContext

theorem forIn {l : List σ} {I : α → Prop} {f : σ → α → Parser (ForInStep α)} {a : α} (start : I a)
    (h : ∀ x ∈ l, ∀ a, I a → Quiet (f x a) fun k => I k.value) : Quiet (forIn l a f) I := by
  induction l generalizing a with
  | nil => exact ret start
  | cons x l ih =>
      obtain ⟨hx, hl⟩ := List.forall_mem_cons.mp h
      rw [List.forIn_cons]
      refine bind (hx a start) fun k hk => ?_
      cases k with
      | done a' => exact ret hk
      | yield a' => exact ih hk hl

/-- A loop that goes through all of a list. `I` holds for the part that it has gone through. -/
theorem forEach {l : List σ} {I : List σ → α → Prop} {f : σ → α → Parser (ForInStep α)} {a : α}
    (start : I [] a)
    (h : ∀ l x a, I l a → Quiet (f x a) fun k => ∃ a', k = .yield a' ∧ I (l ++ [x]) a') :
    Quiet (ForIn.forIn l a f) (I l) := by
  suffices hall : ∀ l' a, I l' a → Quiet (ForIn.forIn l a f) (I (l' ++ l)) from hall [] a start
  induction l with
  | nil =>
      intro l' a ha
      rw [List.append_nil]
      exact ret ha
  | cons x l ih =>
      intro l' a ha
      rw [List.forIn_cons]
      refine bind (h l' x a ha) fun k hk => ?_
      obtain ⟨a', rfl, ha'⟩ := hk
      rw [← List.singleton_append, ← List.append_assoc]
      exact ih _ a' ha'

end Quiet

/-- What a lexer leaves as it is. -/
theorem lexed_ok {x : Except Problem Lexeme} {s s' : State} {k : Token}
    (h : lexed x s = .ok k s') :
    ∃ l, x = .ok l ∧ k = l.token ∧ s'.cursor = l.after ∧ s'.start = s.start ∧ s'.ahead = s.ahead ∧
      s'.last = s.last := by
  cases x with
  | error p => cases h
  | ok l =>
      cases h
      exact ⟨l, rfl, rfl, rfl, rfl, rfl, rfl⟩

/-- A look ahead goes back to where it started. -/
theorem Quiet.peek : Quiet Parser.peek fun _ => True := by
  intro s a s' h
  unfold Parser.peek at h
  obtain ⟨_, _, hget, h⟩ := ok_of_bind h
  cases hget
  obtain ⟨_, _, hskip, h⟩ := ok_of_bind h
  cases hskip
  obtain ⟨_, _, hget, h⟩ := ok_of_bind h
  cases hget
  obtain ⟨k, s₁, hlexed, h⟩ := ok_of_bind h
  obtain ⟨_, _, hback, h⟩ := ok_of_bind h
  cases hback
  cases h
  obtain ⟨_, -, -, -, hstart, hahead, hlast⟩ := lexed_ok hlexed
  exact ⟨⟨rfl, hstart, hahead, hlast⟩, trivial⟩

theorem LexedAt.seen {c after : Cursor} {k : Token} (h : LexedAt c k after) (strict : Bool) :
    LexedAt c (k.seen strict) after := by
  rw [Token.seen]
  split
  · exact .other h.along h.start rfl
  · exact h

/-- Two cursors at one place of a text have the same in front of them. -/
theorem LexedAt.elsewhere {t : Text} {c c' after : Cursor} {k : Token} (h : LexedAt c k after)
    (here : Along t 0 c) (there : Along t 0 c') (index : c'.index = c.index) :
    LexedAt c' k after := by
  have hrest : c'.rest = c.rest := by rw [here.rest_eq, there.rest_eq, index]
  refine ⟨by rw [hrest, index]; exact h.along, h.start.trans index.symm,
    fun hk => by rw [hrest, index]; exact h.piece hk, fun hk => ?_,
    fun hk => by rw [index]; exact h.moves hk⟩
  rw [QuotedAt, hrest, index]
  exact h.string hk

/-- The start of the token ahead is brought up to the cursor. -/
def State.restart (s : State) : State :=
  if s.cursor.index != s.start.index then { s with start := s.cursor } else s

theorem State.restart_start {t : Text} {s : State} (cursor : Along t 0 s.cursor)
    (start : Along t 0 s.start) :
    Along t 0 s.restart.start ∧ s.restart.start.index = s.cursor.index := by
  rw [State.restart]
  split
  · exact ⟨cursor, rfl⟩
  · next h =>
      have hindex : s.cursor.index = s.start.index := by simpa using h
      exact ⟨start, hindex.symm⟩

theorem State.restart_rest (s : State) :
    s.restart.cursor = s.cursor ∧ s.restart.last = s.last ∧ s.restart.ahead = s.ahead := by
  rw [State.restart]
  split <;> exact ⟨rfl, rfl, rfl⟩

/-- Once a token is taken, it ends in front of the next one. -/
theorem next_ok {t : Text} {w : Prop} {r : Reading} {s s' : State} {k : Token}
    (hs : s.StandsIn t w r) (h : next s = .ok k s') :
    k = s.ahead ∧ s'.last = s.cursor.marker ∧ s.cursor.index ≤ s'.start.index ∧
      s'.StandsIn t True .tokens := by
  obtain ⟨_, _, hget, h⟩ := ok_of_bind h
  cases hget
  obtain ⟨_, _, hlast, h⟩ := ok_of_bind h
  cases hlast
  obtain ⟨_, s₀, hskip, h⟩ := ok_of_bind h
  have hs₀ : s₀.cursor = (s.cursor.skipTrivia !s.context.isModule).1 ∧
      s₀.last = s.cursor.marker ∧ s₀.start = s.start := by
    cases hskip
    exact ⟨rfl, rfl, rfl⟩
  clear hskip
  obtain ⟨hcursor, hlast, hstart⟩ := hs₀
  obtain ⟨_, _, hrestart, h⟩ := ok_of_bind h
  obtain rfl : s₀.restart = _ := (EStateM.Result.ok.inj hrestart).2
  clear hrestart
  obtain ⟨_, _, hget, h⟩ := ok_of_bind h
  cases hget
  obtain ⟨k, s₂, hlexed, h⟩ := ok_of_bind h
  obtain ⟨_, _, hahead, h⟩ := ok_of_bind h
  cases hahead
  cases h
  obtain ⟨l, hlex, rfl, hafter, hstart₂, -, hlast₂⟩ := lexed_ok hlexed
  clear hlexed
  have hskip : Along s.cursor.rest s.cursor.index s₀.cursor := by
    rw [hcursor]
    exact Cursor.along_skipTrivia _ _
  have hcursor₀ : Along t 0 s₀.cursor := hs.cursor.trans hskip
  obtain ⟨hstart₁, hindex⟩ := State.restart_start hcursor₀ (by rw [hstart]; exact hs.start)
  obtain ⟨hcursor₁, hlast₁, -⟩ := s₀.restart_rest
  rw [hcursor₁] at hlex
  have hlexedAt : LexedAt s₀.restart.start l.token l.after :=
    (LexedAt.lex hlex).elsewhere hcursor₀ hstart₁ hindex
  have hbehind : s.cursor.index ≤ s₂.start.index := by
    rw [hstart₂, hindex]
    exact hskip.index_le
  refine ⟨rfl, (hlast₂.trans hlast₁).trans hlast, hbehind, ?_, ?_, fun _ => ?_, fun _ => ?_,
    trivial⟩
  · show Along t 0 s₂.cursor
    rw [hafter]
    exact hcursor₀.trans (LexedAt.lex hlex).along
  · show Along t 0 s₂.start
    rw [hstart₂]
    exact hstart₁
  · show LexedAt s₂.start (l.token.seen s₀.restart.context.strict) s₂.cursor
    rw [hstart₂, hafter]
    exact hlexedAt.seen _
  · show s₂.last.index ≤ s₂.start.index
    rw [hlast₂, hlast₁, hlast]
    exact hbehind

/-! ## Triples -/

/-- A parser that reads `r` at `b` or behind, and leaves the parser reading `r'`, keeps it in the
text and does not go back. `w` and `w'` tell whether the last token taken is known to end in front
of the place of the parser, before and afterwards. `Q` holds for the place that the parser has got
to and for the result. -/
def Keeps (t : Text) (w w' : Prop) (r r' : Reading) (b : Nat) (p : Parser α)
    (Q : Nat → α → Prop) : Prop :=
  ∀ s : State, s.StandsIn t w r → b ≤ s.front r → ∀ a s', p s = .ok a s' →
    s'.StandsIn t w' r' ∧ b ≤ s'.front r' ∧ Q (s'.front r') a

section Rules

variable {t : Text} {w w' w'' : Prop} {r r' r'' : Reading} {b b₀ e : Nat} {p q : Parser α}
  {f : α → Parser β} {P : Nat → α → Prop} {Q : α → Prop} {R : Nat → β → Prop}

namespace Keeps

theorem bind (first : Keeps t w w' r r' b p P)
    (rest : ∀ e a, b ≤ e → P e a → Keeps t w' w'' r' r'' e (f a) R) :
    Keeps t w w'' r r'' b (p >>= f) R := by
  intro s hs hb c s'' h
  obtain ⟨a, s', hp, hf⟩ := ok_of_bind h
  obtain ⟨hs', hb', ha⟩ := first s hs hb a s' hp
  obtain ⟨hs'', he, hc⟩ := rest _ a hb' ha s' hs' (Nat.le_refl _) c s'' hf
  exact ⟨hs'', Nat.le_trans hb' he, hc⟩

/-- What is said of the first result does not depend on how far the parser has got. -/
theorem seq (first : Keeps t w w' r r' b p fun _ => Q)
    (rest : ∀ a, Q a → Keeps t w' w'' r' r'' b (f a) R) : Keeps t w w'' r r'' b (p >>= f) R := by
  intro s hs hb c s'' h
  obtain ⟨a, s', hp, hf⟩ := ok_of_bind h
  obtain ⟨hs', hb', ha⟩ := first s hs hb a s' hp
  exact rest a ha s' hs' hb' c s'' hf

theorem imp {P' : Nat → α → Prop} (h : Keeps t w w' r r' b p P)
    (imp : ∀ e a, b ≤ e → P e a → P' e a) : Keeps t w w' r r' b p P' := by
  intro s hs hb a s' hp
  obtain ⟨hs', hb', ha⟩ := h s hs hb a s' hp
  exact ⟨hs', hb', imp _ a hb' ha⟩

theorem any (h : Keeps t w w' r r' b p P) : Keeps t w w' r r' b p fun _ _ => True :=
  h.imp fun _ _ _ _ => trivial

theorem forget (h : Keeps t w True r r' b p P) : Keeps t w w' r r' b p P := by
  intro s hs hb a s' hp
  obtain ⟨hs', hb', ha⟩ := h s hs hb a s' hp
  exact ⟨hs'.weaken, hb', ha⟩

/-- The first result does not matter. -/
theorem skip (first : Keeps t w w' r r' b p P) (rest : ∀ a, Keeps t w' w'' r' r'' b (f a) R) :
    Keeps t w w'' r r'' b (p >>= f) R :=
  seq first.any fun a _ => rest a

theorem quiet (h : Quiet p Q) : Keeps t w w r r b p fun _ => Q := by
  intro s hs hb a s' hp
  obtain ⟨hsame, ha⟩ := h s a s' hp
  exact ⟨hs.congr hsame, by rw [hsame.front]; exact hb, ha⟩

/-- A step that takes nothing, whose result does not matter. -/
theorem look (first : Quiet p fun _ => True) (rest : ∀ a, Keeps t w w' r r' b (f a) R) :
    Keeps t w w' r r' b (p >>= f) R :=
  skip (quiet first) rest

/-- What is done last takes nothing and gives the result on. -/
theorem finish {f : α → Parser α} (first : Keeps t w w' r r' b p P)
    (rest : ∀ a, Quiet (f a) (· = a)) : Keeps t w w' r r' b (p >>= f) P := by
  intro s hs hb c s'' h
  obtain ⟨a, s', hp, hf⟩ := ok_of_bind h
  obtain ⟨hs', hb', ha⟩ := first s hs hb a s' hp
  obtain ⟨hsame, rfl⟩ := rest a s' c s'' hf
  exact ⟨hs'.congr hsame, by rw [hsame.front]; exact hb', by rw [hsame.front]; exact ha⟩

/-- What is made of a result. -/
theorem result {f : α → β} (first : Keeps t w w' r r' b p P)
    (h : ∀ e a, b ≤ e → P e a → R e (f a)) :
    Keeps t w w' r r' b (p >>= fun a => Pure.pure (f a)) R := by
  intro s hs hb c s'' hrun
  obtain ⟨a, s', hp, hf⟩ := ok_of_bind hrun
  obtain ⟨hs', hb', ha⟩ := first s hs hb a s' hp
  cases hf
  exact ⟨hs', hb', h _ a hb' ha⟩

theorem pure {a : α} (h : ∀ e, b ≤ e → P e a) : Keeps t w w r r b (pure a : Parser α) P := by
  intro s hs hb a' s' h'
  cases h'
  exact ⟨hs, hb, h _ hb⟩

theorem ret {a : α} (h : Q a) : Keeps t w w r r b (Pure.pure a : Parser α) fun _ => Q :=
  pure fun _ _ => h

theorem ite {c : Prop} [Decidable c] (yes : c → Keeps t w w' r r' b p P)
    (no : ¬ c → Keeps t w w' r r' b q P) : Keeps t w w' r r' b (if c then p else q) P := by
  split
  · exact yes ‹_›
  · exact no ‹_›

theorem when {c : Prop} [Decidable c] {p : Parser PUnit} {f : PUnit → Parser β}
    (step : Keeps t w w r r b p fun _ _ => True)
    (rest : Keeps t w w' r r' b (f ⟨⟩) R) : Keeps t w w' r r' b (if c then p >>= f else f ⟨⟩) R :=
  ite (fun _ => skip step fun _ => rest) fun _ => rest

/-- Two ways to get at what is gone on with. -/
theorem join {c : Prop} [Decidable c] (yes : Keeps t w w' r r' b p P)
    (no : Keeps t w w' r r' b q P)
    (rest : ∀ e a, b ≤ e → P e a → Keeps t w' w'' r' r'' e (f a) R) :
    Keeps t w w'' r r'' b (if c then p >>= f else q >>= f) R :=
  ite (fun _ => bind yes rest) fun _ => bind no rest

theorem given {p : Parser Node} (part : Keeps t w w' r r' b p fun e n => n.Fits t b₀ e) :
    Keeps t w w' r r' b (do return some (← p)) fun e o => Row t b₀ e o.toList :=
  bind part fun _ _ _ hn => pure fun _ le => .one (hn.later le)

theorem absent {f : Option Node → Parser β}
    (rest : ∀ e (o : Option Node), b ≤ e → Row t b e o.toList → Keeps t w w' r r' e (f o) R) :
    Keeps t w w' r r' b (Pure.pure none >>= f) R :=
  seq (Q := (· = none)) (ret rfl) fun o ho => by
    subst ho
    exact rest b none (Nat.le_refl _) (.nil (Nat.le_refl _))

theorem present {p : Parser Node} {f : Option Node → Parser β}
    (part : Keeps t w w r r b p fun e n => n.Fits t b e)
    (rest : ∀ e (o : Option Node), b ≤ e → Row t b e o.toList → Keeps t w w' r r' e (f o) R) :
    Keeps t w w' r r' b (p >>= fun n => Pure.pure (some n) >>= f) R :=
  bind part fun e _ le hn => seq (Q := fun o : Option Node => Row t b e o.toList)
    (ret (Row.one hn)) fun o => rest e o le

/-- A part that is only read in some cases. -/
theorem perhaps {c : Prop} [Decidable c] {p : Parser Node} {f : Option Node → Parser β}
    (part : Keeps t w w r r b p fun e n => n.Fits t b e)
    (rest : ∀ e (o : Option Node), b ≤ e → Row t b e o.toList → Keeps t w w' r r' e (f o) R) :
    Keeps t w w' r r' b
      (if c then p >>= fun a => Pure.pure (some a) >>= f else Pure.pure none >>= f) R :=
  ite (fun _ => present part rest) fun _ => absent rest

/-- A part that is read except in some cases. -/
theorem otherwise {c : Prop} [Decidable c] {p : Parser Node} {f : Option Node → Parser β}
    (part : Keeps t w w r r b p fun e n => n.Fits t b e)
    (rest : ∀ e (o : Option Node), b ≤ e → Row t b e o.toList → Keeps t w w' r r' e (f o) R) :
    Keeps t w w' r r' b
      (if c then Pure.pure none >>= f else p >>= fun a => Pure.pure (some a) >>= f) R :=
  ite (fun _ => absent rest) fun _ => present part rest

theorem throw {k : Stop} : Keeps t w w' r r' b (throw k : Parser α) P := by
  intro s _ _ a s' h
  cases h

theorem get : Keeps t w w r r b get fun e s => s.StandsIn t w r ∧ s.front r = e := by
  intro s hs hb a s' h
  cases h
  exact ⟨hs, hb, hs, rfl⟩

theorem change {g : State → State}
    (h : ∀ s, s.StandsIn t w r → (g s).StandsIn t w' r' ∧ s.front r ≤ (g s).front r') :
    Keeps t w w' r r' b (modify g) fun _ _ => True := by
  intro s hs hb a s' hg
  cases hg
  exact ⟨(h s hs).1, Nat.le_trans hb (h s hs).2, trivial⟩

theorem set {s₁ : State} (stands : s₁.StandsIn t w' r') (front : b ≤ s₁.front r') :
    Keeps t w w' r r' b (set s₁) fun _ _ => True := by
  intro s _ _ a s' h
  cases h
  exact ⟨stands, front, trivial⟩

theorem fail {k : Problem} : Keeps t w w' r r' b (Parser.fail k) P := throw

theorem failTooDeep : Keeps t w w' r r' b Parser.failTooDeep P := throw

/-- A step that does not come back. -/
theorem stop (step : Keeps t w w r r b p fun _ _ => False) : Keeps t w w' r r' b (p >>= f) R :=
  bind step fun _ _ _ h => h.elim

theorem unexpected {k : Token} : Keeps t w w' r r' b (Parser.unexpected k) P :=
  look .get fun _ => look .tokenProblem fun _ => fail

theorem failHere {c : Complaint} : Keeps t w w' r r' b (Parser.failHere c) P :=
  look .lastProblem fun _ => fail

theorem remark {c : Prop} [Decidable c] {q : α → Parser PUnit} {f : PUnit → Parser β}
    (first : Quiet p fun _ => True) (step : ∀ a, Quiet (q a) fun _ => True)
    (rest : Keeps t w w' r r' b (f ⟨⟩) R) :
    Keeps t w w' r r' b (if c then p >>= fun a => q a >>= f else f ⟨⟩) R :=
  ite (fun _ => look first fun _ => look (step _) fun _ => rest) fun _ => rest

/-- In some cases the token ahead cannot stand where it does. -/
theorem reject {c : Prop} [Decidable c] {f : PUnit → Parser β}
    (rest : Keeps t w w' r r' b (f ⟨⟩) R) :
    Keeps t w w' r r' b
      (if c then Parser.ahead >>= fun k => Parser.unexpected k >>= f else f ⟨⟩) R :=
  remark .ahead (fun _ => .unexpected) rest

theorem whatever {known : Cursor → Token → Marker → Prop} (h : Keeps t w w' .tokens r' b p P) :
    Keeps t w w' (.knowing known) r' b p P :=
  fun s hs => h s hs.plain

theorem production (h : Keeps t w w' r r' b p P) : Keeps t w w' r r' b (Parser.production p) P :=
  look .get fun _ => when (quiet .failTooDeep) <|
    look (.modify fun _ => ⟨rfl, rfl, rfl, rfl⟩) fun _ =>
    finish h fun _ => .skip (.modify fun _ => ⟨rfl, rfl, rfl, rfl⟩) fun _ => .ret rfl

theorem isolate (h : Keeps t w w' r r' b p P) : Keeps t w w' r r' b (Parser.isolate p) P := by
  refine production <| look .context fun _ => look .modifyContext fun _ => finish h fun a => ?_
  refine .skip .context fun c => ?_
  split
  · exact .skip .unexpected fun _ => .skip .modifyContext fun _ => .ret rfl
  · exact .skip .modifyContext fun _ => .ret rfl

theorem inherit (h : Keeps t w w' r r' b p P) : Keeps t w w' r r' b (Parser.inherit p) P :=
  production <| look .context fun _ => look .modifyContext fun _ =>
    finish h fun _ => .skip .modifyContext fun _ => .ret rfl

end Keeps

/-! ## Tokens -/

theorem State.StandsIn.front_le {s : State} (h : s.StandsIn t w r) :
    s.front r ≤ s.cursor.index := by
  cases r with
  | tokens | knowing => exact (h.ahead rfl).along.index_le
  | characters => exact Nat.le_refl _

/-- When a token has been taken, it ends in front of the place of the parser, whatever was known
before. -/
theorem Keeps.next : Keeps t w True r .tokens b next fun _ _ => True := by
  intro s hs hb k s' h
  obtain ⟨-, -, hbehind, hs'⟩ := next_ok hs h
  exact ⟨hs', Nat.le_trans hb (Nat.le_trans hs.front_le hbehind), trivial⟩

theorem Keeps.discard (h : Keeps t w w' r r' b p P) :
    Keeps t w w' r r' b (discard p) fun _ _ => True := by
  intro s hs hb a s' hd
  obtain ⟨c, hp⟩ := ok_of_discard hd
  obtain ⟨hs', hb', -⟩ := h s hs hb c s' hp
  exact ⟨hs', hb', trivial⟩

theorem Keeps.ahead : Keeps t w w .tokens .tokens b ahead fun _ k => b ≤ k.start :=
  bind get fun _ _ le hs => pure fun _ _ => by
    rw [(hs.1.ahead rfl).start]
    exact Nat.le_trans le (Nat.le_of_eq hs.2.symm)

theorem markOf_index (k : Token) (line : Nat) : (markOf k line).index = k.start := by
  unfold markOf
  dsimp only
  split <;> rfl

theorem marked {k : Token} {line : Nat} (h : b ≤ k.start) : b ≤ (markOf k line).index := by
  rw [markOf_index]
  exact h

theorem Keeps.mark : Keeps t w w .tokens .tokens b mark fun _ m => b ≤ m.index :=
  bind get fun _ _ le hs => ret (Nat.le_trans le (Nat.le_of_eq hs.2.symm))

theorem Keeps.expect {v : Text} : Keeps t w True r .tokens b (expect v) fun _ _ => True :=
  skip next fun _ => ite (fun _ => quiet .unexpected) fun _ => ret trivial

theorem Keeps.expectWord {v : Text} : Keeps t w True r .tokens b (expectWord v) fun _ _ => True :=
  skip next fun _ => ite (fun _ => quiet .unexpected) fun _ => ret trivial

/-- A punctuator has characters, so it ends behind the place where it starts. -/
theorem expect_ok {v : Text} {s s' : State} {u : PUnit} (hs : s.StandsIn t w .tokens)
    (h : expect v s = .ok u s') :
    s'.StandsIn t True .tokens ∧ s.start.index < s'.last.index ∧
      s.start.index < s'.start.index := by
  obtain ⟨k, s₁, hnext, h⟩ := ok_of_bind h
  obtain ⟨rfl, hlast, hbehind, hs₁⟩ := next_ok hs hnext
  have hpunct : s.ahead.isPunct v = true := by
    by_contra hnot
    rw [Bool.not_eq_true] at hnot
    rw [hnot] at h
    exact (Quiet.unexpected (Q := fun _ => False) _ _ _ h).2
  have hmoves : s.start.index < s.cursor.index := by
    refine (hs.ahead rfl).moves (.inr ?_)
    rw [Token.isPunct, Bool.and_eq_true, beq_iff_eq] at hpunct
    exact hpunct.1
  rw [hpunct] at h
  cases h
  exact ⟨hs₁, by rw [hlast]; exact hmoves, Nat.lt_of_lt_of_le hmoves hbehind⟩

theorem Keeps.expectPast {v : Text} :
    Keeps t w True .tokens (.past b) b (Parser.expect v) fun _ _ => True := by
  intro s hs hb u s' h
  obtain ⟨hs', hlast, hfront⟩ := expect_ok hs h
  exact ⟨hs'.knows (Nat.lt_of_le_of_lt hb hlast), Nat.le_trans hb (Nat.le_of_lt hfront), trivial⟩

/-- What is read behind a brace stands behind the place where the brace does. -/
theorem Keeps.opened {v : Text} {f : Marker → Parser β}
    (rest : ∀ m, b ≤ m.index → Keeps t True w' .tokens r' (m.index + 1) (f m) R) :
    Keeps t w w' .tokens r' b (Parser.mark >>= fun m => Parser.expect v >>= fun _ => f m) R := by
  intro s hs hb c s'' h
  obtain ⟨_, _, hmark, h⟩ := ok_of_bind h
  cases hmark
  obtain ⟨_, s', hexpect, h⟩ := ok_of_bind h
  obtain ⟨hs', -, hfront⟩ := expect_ok hs hexpect
  obtain ⟨hs'', he, hc⟩ := rest s.start.marker hb s' hs' hfront c s'' h
  exact ⟨hs'', Nat.le_trans hb (Nat.le_of_succ_le he), hc⟩

/-- The token ahead, with the place where it starts. -/
theorem Keeps.facing {f : Marker → Token → Parser β}
    (rest : ∀ m k, b ≤ m.index → Keeps t w w' (.facing m.index k) r' b (f m k) R) :
    Keeps t w w' .tokens r' b
      (Parser.mark >>= fun m => Parser.ahead >>= fun k => f m k) R := by
  intro s hs hb c s' h
  obtain ⟨_, _, hmark, h⟩ := ok_of_bind h
  cases hmark
  obtain ⟨_, _, hahead, h⟩ := ok_of_bind h
  cases hahead
  exact rest _ _ hb s (hs.knows ⟨rfl, rfl⟩) hb c s' h

theorem Keeps.nextFacing {start : Nat} {k : Token} :
    Keeps t w True (.facing start k) (.behind t start k) b Parser.next fun _ k' => k' = k := by
  intro s hs hb k' s' h
  obtain ⟨hstart, hahead⟩ := hs.known
  obtain ⟨rfl, hlast, hbehind, hs'⟩ := next_ok hs h
  refine ⟨hs'.knows fun hk => ?_, Nat.le_trans hb (Nat.le_trans hs.front_le hbehind), hahead⟩
  rw [hlast, ← hstart]
  exact ((hs.ahead rfl).string (hahead ▸ hk)).isQuoted hs.start

/-- A token that is taken, with the place where it starts. -/
theorem Keeps.taking {f : Marker → Token → Parser β}
    (rest : ∀ m k, b ≤ m.index → Keeps t True w' (.behind t m.index k) r' b (f m k) R) :
    Keeps t w w' .tokens r' b
      (Parser.mark >>= fun m => Parser.next >>= fun k => f m k) R := by
  intro s hs hb c s'' h
  obtain ⟨_, _, hmark, h⟩ := ok_of_bind h
  cases hmark
  obtain ⟨k, s', hnext, h⟩ := ok_of_bind h
  have hfacing : s.StandsIn t w (.facing s.start.marker.index s.ahead) := hs.knows ⟨rfl, rfl⟩
  obtain ⟨hs', hb', rfl⟩ := Keeps.nextFacing s hfacing hb k s' hnext
  exact rest _ _ hb s' hs' hb' c s'' h

theorem Keeps.expectComma : Keeps t w w .tokens .tokens b expectComma fun _ _ => True :=
  look .ahead fun _ => ite (fun _ => forget (discard next)) fun _ =>
    ite (fun _ => skip (forget (discard next)) fun _ => quiet .noteUnexpected)
      fun _ => quiet .noteToken

theorem Keeps.endStatement : Keeps t w w .tokens .tokens b endStatement fun _ _ => True :=
  look .sees fun _ => ite (fun _ => forget (discard next)) fun _ => look .get fun _ =>
    ite (fun _ => when (quiet .unexpected) <| change fun _ hs =>
      ⟨⟨hs.cursor, hs.start, hs.ahead, fun _ => Nat.le_refl _, trivial⟩, Nat.le_refl _⟩)
    fun _ => ret trivial

/-- What is read behind a name stands behind the place where the name starts. -/
theorem Keeps.named {γ : Type} {x y : Marker → Token → Parser γ}
    {f : Marker → Token → γ → Parser β} {P : Marker → Token → Nat → γ → Prop}
    (name : ∀ m k, b ≤ m.index →
      Keeps t True True .tokens .tokens (m.index + 1) (x m k) (P m k))
    (other : ∀ m k, k.kind ≠ .identifier → Keeps t w True .tokens .tokens b (y m k) (P m k))
    (rest : ∀ m k e a, b ≤ m.index → b ≤ e → P m k e a →
      Keeps t True w' .tokens r' e (f m k a) R) :
    Keeps t w w' .tokens r' b
      (Parser.mark >>= fun m => Parser.ahead >>= fun k =>
        (if k.kind == .identifier then Functor.discard Parser.next >>= fun _ => x m k
        else y m k) >>= fun a => f m k a) R := by
  intro s hs hb c s'' h
  obtain ⟨_, _, hmark, h⟩ := ok_of_bind h
  cases hmark
  obtain ⟨_, _, hahead, h⟩ := ok_of_bind h
  cases hahead
  obtain ⟨a, s', hkey, h⟩ := ok_of_bind h
  split at hkey
  · next hname =>
      obtain ⟨_, s₁, hnext, hkey⟩ := ok_of_bind hkey
      obtain ⟨_, hnext⟩ := ok_of_discard hnext
      obtain ⟨-, -, hbehind, hs₁⟩ := next_ok hs hnext
      have hstrict : s.start.index < s.cursor.index :=
        (hs.ahead rfl).moves (.inl (by simpa using hname))
      obtain ⟨hs', hb', ha⟩ := name _ _ hb s₁ hs₁ (Nat.le_trans hstrict hbehind) a s' hkey
      have hle : b ≤ s'.front .tokens := Nat.le_trans hb (Nat.le_of_succ_le hb')
      obtain ⟨hs'', he, hc⟩ := rest _ _ _ a hb hle ha s' hs' (Nat.le_refl _) c s'' h
      exact ⟨hs'', Nat.le_trans hle he, hc⟩
  · next hname =>
      obtain ⟨hs', hb', ha⟩ := other _ _ (by simpa using hname) s hs hb a s' hkey
      obtain ⟨hs'', he, hc⟩ := rest _ _ _ a hb hb' ha s' hs' (Nat.le_refl _) c s'' h
      exact ⟨hs'', Nat.le_trans hb' he, hc⟩

/-! ## Characters -/

theorem State.StandsIn.move {s s' : State} (h : s.StandsIn t w .characters)
    (along : Along s.cursor.rest s.cursor.index s'.cursor) (start : s'.start = s.start)
    (last : s'.last = s.last) : s'.StandsIn t w .characters :=
  ⟨h.cursor.trans along, by rw [start]; exact h.start, by rintro ⟨⟩,
    fun hw => by rw [last]; exact Nat.le_trans (h.last hw) along.index_le, trivial⟩

theorem Keeps.skipTrivia :
    Keeps t w w .characters .characters b Parser.skipTrivia fun _ _ => True :=
  change fun _ hs =>
    ⟨hs.move (Cursor.along_skipTrivia _ _) rfl rfl, (Cursor.along_skipTrivia _ _).index_le⟩

theorem Keeps.lexed {lexer : Cursor → List Brace → Except Problem Lexeme} {f : Token → Parser β}
    (goes : ∀ {c braces l}, lexer c braces = .ok l → Along c.rest c.index l.after)
    (rest : ∀ k, Keeps t w w' .characters r' b (f k) R) :
    Keeps t w w' .characters r' b (do
      let s ← MonadState.get
      let k ← Parser.lexed (lexer s.cursor s.braces)
      f k) R := by
  intro s hs hb c s'' h
  obtain ⟨_, _, hget, h⟩ := ok_of_bind h
  cases hget
  obtain ⟨k, s', hlexed, h⟩ := ok_of_bind h
  obtain ⟨l, hl, -, hcursor, hstart, -, hlast⟩ := lexed_ok hlexed
  have halong : Along s.cursor.rest s.cursor.index s'.cursor := by
    rw [hcursor]
    exact goes hl
  exact rest k s' (hs.move halong hstart hlast) (Nat.le_trans hb halong.index_le) c s'' h

theorem Keeps.nextRegExp : Keeps t w w' .tokens .tokens b nextRegExp fun _ _ => True := by
  refine skip (change fun s hs => ?_ : Keeps t w w .tokens .characters b _ _) fun _ =>
    skip skipTrivia fun _ => lexed along_lexRegExp fun _ =>
    skip (change fun s hs => ?_ : Keeps t w w .characters .characters b _ _) fun _ =>
    skip (forget next) fun _ => ret trivial
  · exact ⟨⟨hs.start, hs.start, by rintro ⟨⟩, hs.last, trivial⟩, Nat.le_refl _⟩
  · exact ⟨⟨hs.cursor, hs.start, by rintro ⟨⟩, hs.last, trivial⟩, Nat.le_refl _⟩

/-! ## Nodes -/

/-- A node goes from its mark to the end of the last token taken. -/
theorem Keeps.rowAt {m : Marker} {kind : Kind} {children : List (Role × Node)}
    (marked : b₀ ≤ m.index) (parts : Row t b₀ b (children.map Prod.snd))
    (one : callees children ≤ 1) (plain : kind.isPlain = true) :
    Keeps t True True r r b (node m kind children) fun e n =>
      n.Fits t b₀ e ∧ n.start = m.index ∧ n.children = children := by
  intro s hs hb n s' h
  cases h
  exact ⟨hs, hb, .of_row (parts.later hb) ⟨marked, hs.last trivial⟩ one plain, rfl, rfl⟩

theorem Keeps.nodeAt {m : Marker} {kind : Kind} {children : List (Role × Node)}
    (marked : b₀ ≤ m.index) (parts : Laid t b₀ b children) (plain : kind.isPlain = true) :
    Keeps t True True r r b (node m kind children) fun e n =>
      n.Fits t b₀ e ∧ n.start = m.index ∧ n.children = children :=
  rowAt marked parts.row parts.callees_le plain

/-- A call, which has a callee in front of its arguments. -/
theorem Keeps.called {m : Marker} {kind : Kind} {callee : Node} {args : List Node} {b' : Nat}
    (marked : b₀ ≤ m.index) (hcallee : callee.Fits t b₀ b') (hargs : Row t b' b args)
    (plain : kind.isPlain = true) :
    Keeps t True True r r b (Parser.node m kind ((.callee, callee) :: many .argument args))
      fun e n => n.Fits t b₀ e := by
  have hrow : Row t b₀ b (((Role.callee, callee) :: many .argument args).map Prod.snd) := by
    rw [List.map_cons, map_snd_many]
    exact .cons hcallee hargs
  exact (rowAt marked hrow (Nat.le_of_eq (callees_called callee args)) plain).imp
    fun _ _ _ hn => hn.1

theorem Keeps.node {m : Marker} {kind : Kind} {children : List (Role × Node)}
    (marked : b₀ ≤ m.index) (parts : Laid t b₀ b children) (plain : kind.isPlain = true) :
    Keeps t True True r r b (Parser.node m kind children) fun e n => n.Fits t b₀ e :=
  (nodeAt marked parts plain).imp fun _ _ _ hn => hn.1

theorem Keeps.leaf {m : Marker} {kind : Kind} (marked : b ≤ m.index)
    (plain : kind.isPlain = true) :
    Keeps t True True r r b (Parser.node m kind) fun e n => n.Fits t b e ∧ n.children = [] :=
  (nodeAt marked (.nil (Nat.le_refl _)) plain).imp fun _ _ _ hn => ⟨hn.1, hn.2.2⟩

/-- A node that the parser makes waits for no arrow. -/
theorem Keeps.settled {m : Marker} {kind : Kind} {children : List (Role × Node)}
    (marked : b₀ ≤ m.index) (parts : Laid t b₀ b children) (plain : kind.isPlain = true) :
    Keeps t True True r r b (Parser.node m kind children) fun e n =>
      n.Fits t b₀ e ∧ n.awaitsArrow = false := by
  intro s hs hb n s' h
  obtain ⟨hs', hb', hn⟩ := node marked parts plain s hs hb n s' h
  cases h
  exact ⟨hs', hb', hn, awaitsArrow_of_isPlain plain _ _⟩

theorem Keeps.string {m : Marker} {k : Token} {v : Text} (marked : b ≤ m.index)
    (string : k.kind = .string) :
    Keeps t True True (.behind t m.index k) .tokens b (Parser.node m (.literal (.string v)))
      fun e n => n.Fits t b e ∧ n.children = [] := by
  intro s hs hb n s' h
  cases h
  exact ⟨hs.plain, hb, .of_laid (.nil hb) (.inr ⟨marked, hs.last trivial⟩)
    ⟨by rintro ⟨⟩, fun _ _ => hs.known string⟩ (by rintro ⟨⟩), rfl⟩

/-- A block whose closing brace was taken. -/
theorem Keeps.braces {m : Marker} {ns : List Node} {b' : Nat} (marked : b₀ ≤ m.index)
    (parts : Row t (m.index + 1) b' ns) :
    Keeps t True True (.past b') .tokens b (Parser.node m .block (many .body ns))
      fun e n => n.Fits t b₀ e := by
  intro s hs hb n s' h
  cases h
  have hlast : b' < s.last.index := hs.known
  have hinner : Row t (m.index + 1) (s.last.index - 1) ns := parts.later (by omega)
  have hall : Row t b₀ s.start.index ns :=
    (hinner.behind (Nat.le_succ_of_le marked)).later
      (Nat.le_trans (Nat.sub_le _ _) (hs.last trivial))
  refine ⟨hs.plain, hb, .of_laid (.many hall) (.inr ⟨marked, hs.last trivial⟩)
    ⟨by rintro ⟨⟩, by rintro _ ⟨⟩⟩ fun _ => List.forall_mem_map.mpr hinner.parts⟩

/-! ## Loops -/

/-- What holds of a turn: `I` of the state that the loop goes on with, or `P` of its result. -/
def Turn.Holds (I : σ → Prop) (P : β → Prop) : Turn σ β → Prop
  | .again a => I a
  | .done c => P c

theorem Keeps.again {I : Nat → σ → Prop} {a : σ} (h : ∀ e, b ≤ e → I e a) :
    Keeps t w w r r b (Pure.pure (.again a) : Parser (Turn σ β)) fun e =>
      Turn.Holds (I e) (R e) :=
  pure h

theorem Keeps.done {I : Nat → σ → Prop} {c : β} (h : ∀ e, b ≤ e → R e c) :
    Keeps t w w r r b (Pure.pure (.done c) : Parser (Turn σ β)) fun e =>
      Turn.Holds (I e) (R e) :=
  pure h

theorem Keeps.turns {I : Nat → σ → Prop} {step : σ → Parser (Turn σ β)}
    (h : ∀ e a, b ≤ e → I e a →
      Keeps t w w r r e (step a) fun e' => Turn.Holds (I e') (R e')) (n : Nat)
    {s s' : State} {a : σ} {c : β} (hs : s.StandsIn t w r) (hb : b ≤ s.front r)
    (ha : I (s.front r) a) (run : turns step n a s = .ok c s') :
    s'.StandsIn t w r ∧ b ≤ s'.front r ∧ R (s'.front r) c := by
  induction n generalizing s a with
  | zero => cases run
  | succ n ih =>
      obtain ⟨k, s₁, hstep, hrest⟩ := ok_of_bind run
      obtain ⟨hs₁, hfront, hk⟩ := h _ a hb ha s hs (Nat.le_refl _) k s₁ hstep
      have hb₁ : b ≤ s₁.front r := Nat.le_trans hb hfront
      cases k with
      | again a' => exact ih hs₁ hb₁ hk hrest
      | done c' =>
          cases hrest
          exact ⟨hs₁, hb₁, hk⟩

/-- A loop whose turns keep what is known of its state and of how far the parser has got. -/
theorem Keeps.loop {I : Nat → σ → Prop} {step : σ → Parser (Turn σ β)} {a : σ}
    (start : ∀ e, b ≤ e → I e a)
    (h : ∀ e a, b ≤ e → I e a →
      Keeps t w w r r e (step a) fun e' => Turn.Holds (I e') (R e')) :
    Keeps t w w r r b (loop a step) R :=
  look .get fun _ _ hs hb _ _ run => Keeps.turns h _ hs hb (start _ hb) run

theorem Keeps.collect {more : Parser Bool} {item : Parser Node} (test : Quiet more fun _ => True)
    (one : ∀ e, Keeps t w w r r e item fun e' n => n.Fits t e e') :
    Keeps t w w r r b (collect more item) fun e l => Row t b e l :=
  loop (I := fun e acc => Row t b e acc.toList) (fun _ le => .nil le) fun e _ _ hacc =>
    look test fun _ => ite
      (fun _ => bind (one e) fun _ _ _ hn => again fun _ le => (hacc.push hn).later le)
      fun _ => done fun _ le => hacc.later le

end Rules

/-! ## Trees -/

/-- A parser that reads a tree which stands where it was read. -/
abbrev ReadsTree (t : Text) (w : Prop) (r : Reading) (b : Nat) (p : Parser Node) : Prop :=
  Keeps t w True r r b p fun e n => n.Fits t b e

/-- A parser that reads a leaf. -/
abbrev ReadsLeaf (t : Text) (w : Prop) (r : Reading) (b : Nat) (p : Parser Node) : Prop :=
  Keeps t w True r r b p fun e n => n.Fits t b e ∧ n.children = []

theorem ReadsLeaf.tree {t : Text} {w : Prop} {r : Reading} {b : Nat} {p : Parser Node}
    (h : ReadsLeaf t w r b p) : ReadsTree t w r b p :=
  h.imp fun _ _ _ hn => hn.1

/-- A parser that reads an expression which does not wait for an arrow. -/
abbrev ReadsSettled (t : Text) (w : Prop) (b : Nat) (p : Parser Node) : Prop :=
  Keeps t w True .tokens .tokens b p fun e n => n.Fits t b e ∧ n.awaitsArrow = false

theorem ReadsSettled.tree {t : Text} {w : Prop} {b : Nat} {p : Parser Node}
    (h : ReadsSettled t w b p) : ReadsTree t w .tokens b p :=
  h.imp fun _ _ _ hn => hn.1

/-- The rules read trees from a text that stand where they were read. -/
structure Rules.ReadFrom (t : Text) (g : Rules) : Prop where
  assignment : ∀ {w b}, ReadsTree t w .tokens b g.assignment
  expression : ∀ {w b}, ReadsSettled t w b g.expression
  exponentiation : ∀ {w b}, ReadsTree t w .tokens b g.exponentiation
  unary : ∀ {w b}, ReadsTree t w .tokens b g.unary
  newCallee : ∀ {w b}, ReadsTree t w .tokens b g.newCallee
  leftHandSide : ∀ {w b}, ReadsTree t w .tokens b g.leftHandSide
  statement : ∀ {w b}, ReadsTree t w .tokens b g.statement
  listItem : ∀ {w b}, ReadsTree t w .tokens b g.listItem
  pattern : ∀ {w b} k,
    Keeps t w True .tokens .tokens b (g.pattern k) fun e x => x.1.Fits t b e
  markup : ∀ {w b}, ReadsTree t w .characters b g.markup

end Readiness.Script
