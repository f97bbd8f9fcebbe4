import Readiness.Script.Parse

/-!
# What a production reads

A production of the grammar takes tokens off the text in front of it and leaves the
parser at the next one. What it does there depends on little: on the context, on the
braces that are open, and on the text that is left. A `Point` is these three, and
`Takes x y room p Q` is the triple that the productions are taken apart with: at `x`,
`p` goes on to `y`, with a result for which `Q` holds, opening no more than `room`
productions on the way and noting no problem.

One rule for each thing that a production can do is all there is to this file. Two
parts of the state stay out of the points. Where a token stands does not matter to any
rule, because lexing does not depend on it; and whether the last expression was a
target or a pattern is for whoever parsed it to know.
-/

namespace Readiness.Script

open Readiness.Script.Parser

variable {α β σ : Type}

/-! ## Places in a text -/

/-- A token as the parser takes it: strict code reserves some names. -/
def Token.seen (strict : Bool) (t : Token) : Token :=
  if strict && t.kind == .identifier && Token.isStrictReserved t.value then
    { t with kind := .keyword }
  else t

/-- Text that begins with a token for which `Q` holds, wherever it stands. -/
def Begins (Q : Token → Prop) (braces : List Brace) (t : Text) : Prop :=
  ∀ c : Cursor, c.rest = t → ∃ l, lex c braces = .ok l ∧ l.problems = [] ∧
    c.index < l.after.index ∧ ∀ strict, Q (l.token.seen strict)

/-- Text that begins with a token for which `Q` holds, with what is left behind it. -/
def Lexes (Q : Token → Prop) (braces : List Brace) (t : Text) (braces' : List Brace) (t' : Text) :
    Prop :=
  ∀ c : Cursor, c.rest = t → ∃ l, lex c braces = .ok l ∧ l.problems = [] ∧
    c.index < l.after.index ∧ (∀ strict, Q (l.token.seen strict)) ∧ l.braces = braces' ∧
    l.after.rest = t'

theorem Lexes.begins {Q : Token → Prop} {b b' : List Brace} {t t' : Text}
    (h : Lexes Q b t b' t') : Begins Q b t := by
  intro c hc
  obtain ⟨l, hl, hproblems, hindex, hQ, -⟩ := h c hc
  exact ⟨l, hl, hproblems, hindex, hQ⟩

theorem Lexes.imp {Q Q' : Token → Prop} {b b' : List Brace} {t t' : Text} (h : Lexes Q b t b' t')
    (imp : ∀ k, Q k → Q' k) : Lexes Q' b t b' t' := by
  intro c hc
  obtain ⟨l, hl, hproblems, hindex, hQ, hrest⟩ := h c hc
  exact ⟨l, hl, hproblems, hindex, fun strict => imp _ (hQ strict), hrest⟩

theorem Begins.imp {Q Q' : Token → Prop} {b : List Brace} {t : Text} (h : Begins Q b t)
    (imp : ∀ k, Q k → Q' k) : Begins Q' b t := by
  intro c hc
  obtain ⟨l, hl, hproblems, hindex, hQ⟩ := h c hc
  exact ⟨l, hl, hproblems, hindex, fun strict => imp _ (hQ strict)⟩

/-- Text at whose start there is nothing to skip. -/
def Solid (t : Text) : Prop :=
  ∀ markup fresh i l s, skipTrivia markup (.gap fresh) t i l s = (⟨t, i, l, s⟩, false)

/-- Blanks between two tokens. -/
def gap (k : Nat) : Text := List.replicate k (.char ' ')

/-- A context without what only the next token settles. -/
def Context.settled (c : Context) : Context :=
  { c with isTarget := false, isBinding := false, strayDefault := none }

/-- Where the parser stands in a text: what surrounds the place, the braces that are open, and the
text from the token ahead on. -/
structure Point where
  context : Context
  braces : List Brace
  text : Text

/-- The parser stands at a point. -/
structure State.At (s : State) (x : Point) : Prop where
  rest : s.start.rest = x.text
  token : ∃ l, lex s.start x.braces = .ok l ∧ s.ahead = l.token.seen s.context.strict ∧
    s.cursor = l.after ∧ s.braces = l.braces
  moved : s.start.index < s.cursor.index
  context : s.context.settled = x.context.settled
  stray : s.context.strayDefault = none
  turns : x.text.length < s.turns

theorem State.At.ahead {s : State} {x : Point} {Q : Token → Prop} (h : s.At x)
    (begins : Begins Q x.braces x.text) : Q s.ahead := by
  obtain ⟨l, hl, hahead, -⟩ := h.token
  obtain ⟨l', hl', -, -, hQ⟩ := begins s.start h.rest
  cases hl.symm.trans hl'
  rw [hahead]
  exact hQ _

/-- What a production leaves as it is. -/
structure State.Kept (s s' : State) : Prop where
  depth : s'.depth = s.depth
  turns : s'.turns = s.turns
  noted : s'.noted = s.noted

theorem State.Kept.refl (s : State) : s.Kept s := ⟨rfl, rfl, rfl⟩

theorem State.Kept.trans {s s' s'' : State} (h : s.Kept s') (h' : s'.Kept s'') : s.Kept s'' :=
  ⟨h'.depth.trans h.depth, h'.turns.trans h.turns, h'.noted.trans h.noted⟩

/-! ## Triples -/

/-- From one point a parser goes on to another. -/
def Takes (x y : Point) (room : Nat) (p : Parser α) (Q : α → Prop) : Prop :=
  ∀ s : State, s.At x → s.depth + room ≤ mostOpen →
    ∃ a s', p s = .ok a s' ∧ Q a ∧ s'.At y ∧ s.Kept s'

section Rules

variable {x y z : Point} {room : Nat} {p : Parser α} {f : α → Parser β} {Q Q' : α → Prop}
  {R : β → Prop}

theorem Takes.pure {a : α} (h : Q a) : Takes x x room (pure a : Parser α) Q :=
  fun s hs _ => ⟨a, s, rfl, h, hs, .refl s⟩

theorem bind_ok {s s' : State} {a : α} (h : p s = .ok a s') : (p >>= f) s = f a s' := by
  show EStateM.bind p f s = f a s'
  rw [EStateM.bind, h]

theorem Takes.bind (first : Takes x y room p Q) (rest : ∀ a, Q a → Takes y z room (f a) R) :
    Takes x z room (p >>= f) R := by
  intro s hs hroom
  obtain ⟨a, s', hp, ha, hs', hkept⟩ := first s hs hroom
  obtain ⟨b, s'', hf, hb, hs'', hkept'⟩ := rest a ha s' hs' (by rw [hkept.depth]; exact hroom)
  exact ⟨b, s'', (bind_ok hp).trans hf, hb, hs'', hkept.trans hkept'⟩

theorem Takes.imp {room' : Nat} (h : Takes x y room p Q) (more : room ≤ room')
    (imp : ∀ a, Q a → Q' a) : Takes x y room' p Q' := by
  intro s hs hroom
  obtain ⟨a, s', hp, ha, hs', hkept⟩ := h s hs (by omega)
  exact ⟨a, s', hp, imp a ha, hs', hkept⟩

theorem Takes.discard (h : Takes x y room p Q) :
    Takes x y room (discard p) (fun _ => True) := by
  intro s hs hroom
  obtain ⟨a, s', hp, -, hs', hkept⟩ := h s hs hroom
  refine ⟨(), s', ?_, trivial, hs', hkept⟩
  show EStateM.map _ p s = _
  rw [EStateM.map, hp]

theorem Takes.get {Q : State → Prop} (h : ∀ s, s.At x → Q s) : Takes x x room get Q :=
  fun s hs _ => ⟨s, s, rfl, h s hs, hs, .refl s⟩

theorem Takes.ahead {Q : Token → Prop} (begins : Begins Q x.braces x.text) :
    Takes x x room Parser.ahead Q :=
  Takes.bind (Takes.get fun _ hs => hs.ahead begins) fun _ h => Takes.pure h

theorem Takes.sees {v : Text} {seen : Bool}
    (begins : Begins (fun t => t.isPunct v = seen) x.braces x.text) :
    Takes x x room (sees v) (· = seen) :=
  Takes.bind (Takes.get fun _ hs => hs.ahead begins) fun _ h => Takes.pure h

theorem Takes.seesWord {v : Text} {seen : Bool}
    (begins : Begins (fun t => t.isWord v = seen) x.braces x.text) :
    Takes x x room (seesWord v) (· = seen) :=
  Takes.bind (Takes.get fun _ hs => hs.ahead begins) fun _ h => Takes.pure h

theorem Takes.seesName {v : Text} {seen : Bool}
    (begins : Begins (fun t => t.isName v = seen) x.braces x.text) :
    Takes x x room (seesName v) (· = seen) :=
  Takes.bind (Takes.get fun _ hs => hs.ahead begins) fun _ h => Takes.pure h

theorem Takes.seesEnd {seen : Bool}
    (begins : Begins (fun t => (t.kind == .eof) = seen) x.braces x.text) :
    Takes x x room seesEnd (· = seen) :=
  Takes.bind (Takes.get fun _ hs => hs.ahead begins) fun _ h => Takes.pure h

theorem Takes.mark : Takes x x room mark (fun _ => True) :=
  Takes.bind (Takes.get fun _ _ => trivial) fun _ _ => Takes.pure trivial

theorem Takes.context : Takes x x room context
    (fun c => c.settled = x.context.settled ∧ c.strayDefault = none) :=
  Takes.bind (Takes.get (Q := fun s => s.context.settled = x.context.settled ∧
    s.context.strayDefault = none) fun _ hs => ⟨hs.context, hs.stray⟩) fun _ h => Takes.pure h

theorem Takes.node {m : Marker} {kind : Kind} {children : List (Role × Node)} {Q : Node → Prop}
    (h : ∀ span, Q (.mk kind span children)) : Takes x x room (node m kind children) Q :=
  Takes.bind (Takes.get fun _ _ => trivial) fun _ _ => Takes.pure (h _)

theorem Takes.changeContext {f : Context → Context} {c' : Context}
    (settled : ∀ c : Context, c.settled = x.context.settled → (f c).settled = c'.settled)
    (stray : ∀ c : Context, c.strayDefault = none → (f c).strayDefault = none)
    (strict : ∀ c : Context, (f c).strict = c.strict) :
    Takes x { x with context := c' } room (modifyContext f) (fun _ => True) := by
  intro s hs _
  obtain ⟨l, hl, hahead, hcursor, hbraces⟩ := hs.token
  refine ⟨(), { s with context := f s.context }, rfl, trivial, ?_, ⟨rfl, rfl, rfl⟩⟩
  refine ⟨hs.rest, ⟨l, hl, ?_, hcursor, hbraces⟩, hs.moved, settled _ hs.context,
    stray _ hs.stray, hs.turns⟩
  rw [strict]
  exact hahead

/-- A change of what is not settled is none. -/
theorem Takes.modifyContext {f : Context → Context}
    (settled : ∀ c : Context, (f c).settled = c.settled)
    (stray : ∀ c : Context, c.strayDefault = none → (f c).strayDefault = none) :
    Takes x x room (modifyContext f) (fun _ => True) := by
  have hstrict : ∀ c : Context, (f c).strict = c.strict := by
    intro c
    have hc := congrArg Context.strict (settled c)
    exact hc
  have hsame : Takes x { x with context := x.context } room (Parser.modifyContext f)
      (fun _ => True) := Takes.changeContext (fun c h => (settled c).trans h) stray hstrict
  exact hsame

theorem Takes.notTarget : Takes x x room notTarget (fun _ => True) :=
  Takes.modifyContext (fun _ => rfl) fun _ h => h

/-! ## Productions -/

theorem State.At.congr {s s' : State} (h : s.At x) (start : s'.start = s.start)
    (cursor : s'.cursor = s.cursor) (braces : s'.braces = s.braces) (ahead : s'.ahead = s.ahead)
    (context : s'.context.settled = s.context.settled) (stray : s'.context.strayDefault = none)
    (turns : s'.turns = s.turns) : s'.At x := by
  obtain ⟨l, hl, hahead, hcursor, hbraces⟩ := h.token
  have hstrict := congrArg Context.strict context
  change s'.context.strict = s.context.strict at hstrict
  refine ⟨by rw [start]; exact h.rest, ⟨l, ?_, ?_, ?_, ?_⟩, ?_, context.trans h.context, stray,
    by rw [turns]; exact h.turns⟩
  · rw [start]
    exact hl
  · rw [ahead, hstrict]
    exact hahead
  · rw [cursor]
    exact hcursor
  · rw [braces]
    exact hbraces
  · rw [start, cursor]
    exact h.moved

theorem production_run {s : State} (deep : s.depth < mostOpen) :
    production p s = match p { s with depth := s.depth + 1 } with
      | .ok a s' => .ok a { s' with depth := s.depth }
      | .error e s' => .error e s' := by
  have hdepth : ¬ mostOpen ≤ s.depth := Nat.not_le.mpr deep
  show (do
    if mostOpen ≤ s.depth then failTooDeep
    modify fun s' => { s' with depth := s.depth + 1 }
    let r ← p
    modify fun s' => { s' with depth := s.depth }
    return r : Parser α) s = _
  rw [if_neg hdepth]
  show EStateM.bind p _ { s with depth := s.depth + 1 } = _
  rw [EStateM.bind]
  cases p { s with depth := s.depth + 1 } <;> rfl

theorem Takes.production (h : Takes x y room p Q) :
    Takes x y (room + 1) (Parser.production p) Q := by
  intro s hs hroom
  obtain ⟨a, s', hp, ha, hs', hkept⟩ := h { s with depth := s.depth + 1 }
    (hs.congr rfl rfl rfl rfl rfl hs.stray rfl) (by show s.depth + 1 + room ≤ mostOpen; omega)
  refine ⟨a, { s' with depth := s.depth }, ?_, ha, hs'.congr rfl rfl rfl rfl rfl hs'.stray rfl,
    ⟨rfl, hkept.turns, hkept.noted⟩⟩
  rw [production_run (by omega), hp]

/-- Whether a part can be a target or a pattern is not settled by it. -/
theorem Takes.inherit (h : Takes x y room p Q) : Takes x y (room + 1) (Parser.inherit p) Q := by
  refine Takes.production (Takes.bind Takes.context fun c hc => ?_)
  refine Takes.bind (Takes.modifyContext (fun _ => rfl) fun _ _ => rfl) fun _ _ => ?_
  refine Takes.bind h fun a ha => ?_
  refine Takes.bind (Takes.modifyContext (fun _ => rfl) fun c' hc' => ?_) fun _ _ => Takes.pure ha
  show c.strayDefault.or c'.strayDefault = none
  rw [hc.2, hc']
  rfl

theorem Takes.isolate (h : Takes x y room p Q) : Takes x y (room + 1) (Parser.isolate p) Q := by
  refine Takes.production (Takes.bind Takes.context fun c hc => ?_)
  refine Takes.bind (Takes.modifyContext (fun _ => rfl) fun _ _ => rfl) fun _ _ => ?_
  refine Takes.bind h fun a ha => ?_
  refine Takes.bind Takes.context fun c' hc' => ?_
  rw [hc'.2]
  exact Takes.bind (Takes.modifyContext (fun _ => rfl) fun _ _ => hc.2) fun _ _ => Takes.pure ha

/-! ## Loops -/

/-- A loop has more turns than there are characters left. -/
theorem Takes.loop {step : σ → Parser (Turn σ β)} {a : σ}
    (h : ∀ n, x.text.length < n → Takes x y room (turns step n a) R) :
    Takes x y room (loop a step) R :=
  Takes.bind (Takes.get (Q := fun s => x.text.length < s.turns) fun _ hs => hs.turns)
    fun s hs => h s.turns hs

theorem Takes.turns_done {step : σ → Parser (Turn σ β)} {a : σ} {n : Nat}
    (h : Takes x y room (step a) fun r => ∃ b, r = .done b ∧ R b) :
    Takes x y room (turns step (n + 1) a) R := by
  refine Takes.bind h fun r hr => ?_
  obtain ⟨b, rfl, hb⟩ := hr
  exact Takes.pure hb

theorem Takes.turns_again {step : σ → Parser (Turn σ β)} {a : σ} {n : Nat} {P : σ → Prop}
    (h : Takes x y room (step a) fun r => ∃ a', r = .again a' ∧ P a')
    (rest : ∀ a', P a' → Takes y z room (turns step n a') R) :
    Takes x z room (turns step (n + 1) a) R := by
  refine Takes.bind h fun r hr => ?_
  obtain ⟨a', rfl, ha'⟩ := hr
  exact rest a' ha'

/-! ## Tokens -/

theorem skipTrivia_cons {c : CodePoint}
    (plain : c ∉ ([.char '\r', .char '/', .char '-', .char '<'] : Text)) (markup fresh : Bool)
    (r : Text) (i l s : Nat) :
    skipTrivia markup (.gap fresh) (c :: r) i l s =
      if isGap c then skipTrivia markup (.gap fresh) r (i + 1) l s
      else if isLineBreak c then skipTrivia markup (.gap true) r (i + 1) (l + 1) (i + 1)
      else (⟨c :: r, i, l, s⟩, false) := by
  simp only [List.mem_cons, List.not_mem_nil, or_false, not_or] at plain
  obtain ⟨hreturn, hslash, hminus, hless⟩ := plain
  rw [skipTrivia.eq_def]
  split
  all_goals
    next hmode htext =>
      cases hmode <;> cases htext <;> first
        | rfl
        | exact absurd rfl hreturn
        | exact absurd rfl hslash
        | exact absurd rfl hminus
        | exact absurd rfl hless

theorem solid_cons {c : CodePoint}
    (plain : c ∉ ([.char '\r', .char '/', .char '-', .char '<'] : Text))
    (notGap : isGap c = false) (onLine : isLineBreak c = false) (r : Text) : Solid (c :: r) := by
  intro markup fresh i l s
  rw [skipTrivia_cons plain, notGap, onLine]
  rfl

theorem Solid.skipGap {t : Text} (solid : Solid t) (k : Nat) (markup fresh : Bool) (i l s : Nat) :
    skipTrivia markup (.gap fresh) (gap k ++ t) i l s = (⟨t, i + k, l, s⟩, false) := by
  induction k generalizing i with
  | zero => exact solid markup fresh i l s
  | succ k ih =>
      have hcons : gap (k + 1) ++ t = .char ' ' :: (gap k ++ t) := rfl
      have hblank : isGap (.char ' ') = true := rfl
      rw [hcons, skipTrivia_cons (by decide), if_pos hblank, ih, Nat.add_assoc, Nat.add_comm 1]

theorem Solid.skipTrivia {t : Text} (solid : Solid t) {k : Nat} {c : Cursor} (markup : Bool)
    (here : c.rest = gap k ++ t) :
    c.skipTrivia markup = (⟨t, c.index + k, c.line, c.lineStart⟩, []) := by
  rw [Cursor.skipTrivia, here, solid.skipGap]
  rfl

theorem get_run (s : State) : (get : Parser State) s = .ok s s := rfl

theorem next_run {s : State} {c : Cursor} {l : Lexeme}
    (skip : s.cursor.skipTrivia (!s.context.isModule) = (c, []))
    (moved : s.start.index < c.index) (lexed : lex c s.braces = .ok l) (clean : l.problems = []) :
    next s = .ok s.ahead { s with
      cursor := l.after, braces := l.braces, start := c, last := s.cursor.marker,
      ahead := l.token.seen s.context.strict,
      lineBreak := s.ahead.line != (l.token.seen s.context.strict).line } := by
  -- The states between the steps of `next`.
  let s₁ : State := { s with last := s.cursor.marker }
  let s₂ : State := { s₁ with cursor := c }
  let s₃ : State := { s₂ with start := c }
  let s₄ : State := { s₃ with cursor := l.after, braces := l.braces }
  have hskip : Parser.skipTrivia s₁ = .ok () s₂ := by
    show EStateM.Result.ok () { s₁ with
      cursor := (s.cursor.skipTrivia (!s.context.isModule)).1,
      noted := (s.cursor.skipTrivia (!s.context.isModule)).2 ++ s.noted } = _
    rw [skip]
    rfl
  have hstart : (modify fun s' => if s'.cursor.index != s'.start.index then
      { s' with start := s'.cursor } else s' : Parser PUnit) s₂ = .ok ⟨⟩ s₃ := by
    show EStateM.Result.ok _ (if c.index != s.start.index then { s₂ with start := c } else s₂) = _
    rw [if_pos (bne_iff_ne.mpr (by omega))]
  have hlexed : Parser.lexed (lex c s.braces) s₃ = .ok l.token s₄ := by
    rw [lexed]
    show EStateM.Result.ok l.token { s₄ with noted := l.problems.reverse ++ s.noted } = _
    rw [clean]
    rfl
  have hlast : (modify fun s' => { s' with last := s'.cursor.marker } : Parser PUnit) s =
      .ok ⟨⟩ s₁ := rfl
  rw [next, bind_ok (get_run s)]
  simp only []
  rw [bind_ok hlast, bind_ok hskip, bind_ok hstart, bind_ok (get_run s₃), bind_ok hlexed]
  rfl

theorem Takes.next {Q' : Token → Prop} {k : Nat} {b : List Brace} {t : Text} {Q : Token → Prop}
    (lexes : Lexes Q x.braces x.text b (gap k ++ t)) (solid : Solid t)
    (begins : Begins Q' b t) (shorter : t.length ≤ x.text.length) :
    Takes x ⟨x.context, b, t⟩ room next Q := by
  intro s hs _
  obtain ⟨l, hl, hahead, hcursor, hbraces⟩ := hs.token
  obtain ⟨l', hl', -, -, hQ, hb, hrest⟩ := lexes s.start hs.rest
  cases hl.symm.trans hl'
  have hskip := solid.skipTrivia (!s.context.isModule) hrest
  obtain ⟨m, hm, hclean, hmoved, -⟩ :=
    begins ⟨t, l.after.index + k, l.after.line, l.after.lineStart⟩ rfl
  rw [← hb, ← hbraces] at hm
  rw [← hcursor] at hskip hm
  have hstart : s.start.index < s.cursor.index + k :=
    Nat.lt_of_lt_of_le hs.moved (Nat.le_add_right _ _)
  refine ⟨s.ahead, _, next_run hskip hstart hm hclean, ?_, ?_, ⟨rfl, rfl, rfl⟩⟩
  · rw [hahead]
    exact hQ _
  · refine ⟨rfl, ⟨m, ?_, rfl, rfl, rfl⟩, ?_, hs.context, hs.stray, ?_⟩
    · rw [hbraces, hb] at hm
      exact hm
    · rw [← hcursor] at hmoved
      exact hmoved
    · exact Nat.lt_of_le_of_lt shorter hs.turns

theorem Takes.expect {v : Text} {Q' : Token → Prop} {k : Nat} {b : List Brace} {t : Text}
    (lexes : Lexes (fun t => t.isPunct v = true) x.braces x.text b (gap k ++ t))
    (solid : Solid t) (begins : Begins Q' b t) (shorter : t.length ≤ x.text.length) :
    Takes x ⟨x.context, b, t⟩ room (expect v) (fun _ => True) := by
  refine Takes.bind (Takes.next lexes solid begins shorter) fun a ha => ?_
  rw [ha]
  exact Takes.pure trivial

end Rules

end Readiness.Script
