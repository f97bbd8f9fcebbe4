import Readiness.Proofs.ExpressionEnds

/-!
# Expressions inside of brackets

Between a primary expression and an assignment there are seven productions, and where no
operator follows each of them hands the expression on as it got it. `Takes.assignment`
is this chain, read once from one end to the other, for any primary expression between
a token that leads and one that closes.

What is read so is the same wherever it stands. `Reads` says it of a text, with every
end that an item of a list or of a template may have, and with the tree that comes of
it, less the places of its nodes. A theorem about a text that is put together from
others has such readings for hypotheses and one for its conclusion; that is how lists
and templates are treated. A plain name is the first text that has a reading without
any hypothesis.
-/

namespace Readiness.Script

open Readiness.Script.Parser

/-! ## From primary expressions to assignments -/

/-- The surroundings of what stands inside of brackets. -/
def Context.inside (c : Context) : Context := { c with allowIn := true }

section Chain

variable {g : Rules} {c : Context} {b : List Brace} {t r : Text} {room : Nat} {Q : Node → Prop}

theorem takes_access? (ends : Begins Token.Closes b r) (m : Marker) (e : Node) :
    Takes ⟨c, b, r⟩ ⟨c, b, r⟩ room (access? g m e) (· = none) := by
  refine Takes.bind (Takes.ahead ends) fun k hk => ?_
  rw [hk.isPunct (by decide), hk.isPunct (by decide), hk.noTemplate]
  exact Takes.pure rfl

/-- One turn of the loop that reads what is accessed of an expression. -/
def accessStep (g : Rules) (first : Token) (maybeAsync : Bool) (e : Node) :
    Parser (Turn Node Node) := do
  if ← sees "(" then
    let asyncArrow := maybeAsync && first.line == (← ahead).line
    notTarget
    let args ← arguments g (if asyncArrow then asyncArgument g else g.assignment)
    match e.kind with
    | .importKeyword => if args.length != 1 then noteHere .unexpectedHere
    | _ => pure ()
    let call ← node (markOf first) .call ((.callee, e) :: many .argument args)
    if asyncArrow && (← sees "=>") then
      return .again (awaiting true (args.map Node.asPattern))
    else return .again call
  else
    match ← access? g (markOf first) e with
    | some e => return .again e
    | none => return .done e

/-- A primary expression is read, and then what is accessed of it. -/
theorem takes_accessed {u : Text} {Q' : Node → Prop} (leads : Begins Token.Leads b t)
    (h : Takes ⟨c.inside, b, t⟩ ⟨c.inside, b, u⟩ room (primary g) Q)
    (accesses : ∀ first maybeAsync e, Q e → Takes ⟨c.inside, b, u⟩ ⟨c.inside, b, r⟩ (room + 1)
      (loop e (accessStep g first maybeAsync)) Q') :
    Takes ⟨c, b, t⟩ ⟨c, b, r⟩ (room + 2) (leftHandSide g) Q' := by
  refine Takes.production (Takes.bind (Takes.ahead leads) fun first hfirst => ?_)
  refine Takes.bind Takes.context fun c₀ hc₀ => ?_
  have hallow := congrArg Context.allowIn hc₀.1
  change c₀.allowIn = c.allowIn at hallow
  -- The operator `in` is allowed from here on, and what was allowed before is put back at the end.
  refine Takes.bind (y := ⟨c.inside, b, t⟩) (Takes.changeContext (fun c' hc' => ?_)
    (fun _ h => h) fun _ => rfl) fun _ _ => ?_
  · exact congrArg Context.inside hc'
  refine Takes.bind (y := ⟨c.inside, b, u⟩) (Q := Q) ?_ fun e he => ?_
  · refine Takes.bind (Takes.seesWord (leads.imp fun k hk => hk.isWord _)) fun _ hsuper => ?_
    subst hsuper
    refine Takes.bind Takes.context fun c₁ _ => ?_
    rw [Bool.false_and]
    refine Takes.bind (Takes.seesWord (leads.imp fun k hk => hk.isWord _)) fun _ hnew => ?_
    subst hnew
    exact Takes.inherit h
  refine Takes.bind (y := ⟨c.inside, b, r⟩) (accesses first _ e he) fun e' he' => ?_
  refine Takes.bind (y := ⟨c, b, r⟩) (Takes.changeContext (fun c' hc' => ?_) (fun _ h => h)
    fun _ => rfl) fun _ _ => Takes.pure he'
  rw [hallow]
  exact congrArg (fun d : Context => { d with allowIn := c.allowIn }) hc'

theorem takes_noAccess (ends : Begins Token.Closes b r) {first : Token} {maybeAsync : Bool}
    {e : Node} (h : Q e) {n : Nat} (hn : r.length < n) :
    Takes ⟨c, b, r⟩ ⟨c, b, r⟩ room (turns (accessStep g first maybeAsync) n e) Q := by
  obtain ⟨n, rfl⟩ := Nat.exists_eq_add_one_of_ne_zero (Nat.ne_of_gt (Nat.zero_lt_of_lt hn))
  refine Takes.turns_done (Takes.bind (Takes.sees (ends.imp fun k hk => hk.isPunct (by decide)))
    fun _ hparen => ?_)
  subst hparen
  refine Takes.bind (takes_access? ends _ e) fun o ho => ?_
  subst ho
  exact Takes.pure ⟨e, rfl, h⟩

theorem takes_leftHandSide (leads : Begins Token.Leads b t) (ends : Begins Token.Closes b r)
    (h : Takes ⟨c.inside, b, t⟩ ⟨c.inside, b, r⟩ room (primary g) Q) :
    Takes ⟨c, b, t⟩ ⟨c, b, r⟩ (room + 2) (leftHandSide g) Q :=
  takes_accessed leads h fun _ _ _ he => Takes.loop fun _ hn => takes_noAccess ends he hn

theorem takes_update (leads : Begins Token.Leads b t) (ends : Begins Token.Closes b r)
    (h : Takes ⟨c, b, t⟩ ⟨c, b, r⟩ room (leftHandSide g) Q) :
    Takes ⟨c, b, t⟩ ⟨c, b, r⟩ (room + 2) (update g) Q := by
  refine Takes.production (Takes.bind (Takes.ahead leads) fun first hfirst => ?_)
  rw [hfirst.isPunct (by decide), hfirst.isPunct (by decide), Bool.or_false]
  refine Takes.bind (Takes.inherit h) fun e he => ?_
  refine Takes.bind (Takes.get (Q := fun s => s.ahead.Closes) fun s hs => hs.ahead ends)
    fun s hs => ?_
  rw [hs.isPunct (by decide), hs.isPunct (by decide), Bool.or_false, Bool.and_false]
  exact Takes.pure he

theorem Token.Leads.noOperator {k : Token} (h : k.Leads) :
    (k.kind == .punctuator && ["+", "-", "~", "!"].contains k.value.word ||
      k.kind == .keyword && ["delete", "void", "typeof"].contains k.value.word) = false := by
  rw [beq_eq_false_iff_ne.mpr h.notKeyword, Bool.false_and, Bool.or_false]
  by_cases hkind : k.kind = .punctuator
  · rw [Bool.and_eq_false_iff]
    refine .inr ?_
    have hbracket := h.bracket hkind
    simp only [Text.ofStrings, List.map_cons, List.map_nil, List.mem_cons, List.not_mem_nil,
      or_false] at hbracket
    rcases hbracket with hvalue | hvalue <;> rw [hvalue] <;> decide
  · rw [beq_eq_false_iff_ne.mpr hkind, Bool.false_and]

theorem takes_unary (leads : Begins Token.Leads b t)
    (h : Takes ⟨c, b, t⟩ ⟨c, b, r⟩ room (update g) Q) :
    Takes ⟨c, b, t⟩ ⟨c, b, r⟩ (room + 1) (unary g) Q := by
  refine Takes.production (Takes.bind (Takes.ahead leads) fun first hfirst => ?_)
  rw [hfirst.noOperator]
  refine Takes.bind Takes.context fun c₀ _ => ?_
  rw [hfirst.isName (.inr rfl), Bool.and_false]
  exact h

theorem takes_exponentiation (leads : Begins Token.Leads b t) (ends : Begins Token.Closes b r)
    (h : Takes ⟨c, b, t⟩ ⟨c, b, r⟩ room (unary g) Q) :
    Takes ⟨c, b, t⟩ ⟨c, b, r⟩ (room + 2) (exponentiation g) Q := by
  refine Takes.production (Takes.bind (Takes.ahead leads) fun first _ => ?_)
  refine Takes.bind (Takes.inherit h) fun e he => ?_
  refine Takes.bind (Takes.sees (ends.imp fun k hk => hk.isPunct (by decide))) fun _ hpower => ?_
  subst hpower
  rw [Bool.and_false]
  exact Takes.pure he

theorem takes_binary (leads : Begins Token.Leads b t) (ends : Begins Token.Closes b r)
    (h : Takes ⟨c, b, t⟩ ⟨c, b, r⟩ room (exponentiation g) Q) :
    Takes ⟨c, b, t⟩ ⟨c, b, r⟩ (room + 2) (binary g) Q := by
  refine Takes.production (Takes.bind (Takes.ahead leads) fun first _ => ?_)
  refine Takes.bind (Takes.inherit h) fun e he => ?_
  refine Takes.bind (y := ⟨c, b, r⟩) (Q := fun o => o = ⟨[], e, first⟩)
    (Takes.loop fun n hn => ?_) fun o ho => ?_
  · obtain ⟨n, rfl⟩ := Nat.exists_eq_add_one_of_ne_zero (Nat.ne_of_gt (Nat.zero_lt_of_lt hn))
    refine Takes.turns_done (Takes.bind (Takes.ahead ends) fun k hk => ?_)
    refine Takes.bind Takes.context fun c₀ _ => ?_
    rw [hk.precedence]
    exact Takes.pure ⟨_, rfl, rfl⟩
  · subst ho
    exact Takes.pure he

theorem takes_conditional (leads : Begins Token.Leads b t) (ends : Begins Token.Closes b r)
    (h : Takes ⟨c, b, t⟩ ⟨c, b, r⟩ room (binary g) Q) :
    Takes ⟨c, b, t⟩ ⟨c, b, r⟩ (room + 2) (conditional g) Q := by
  refine Takes.production (Takes.bind (Takes.ahead leads) fun first _ => ?_)
  refine Takes.bind (Takes.inherit h) fun e he => ?_
  refine Takes.bind (Takes.sees (ends.imp fun k hk => hk.isPunct (by decide))) fun _ hchoice => ?_
  subst hchoice
  exact Takes.pure he

theorem takes_assignment (leads : Begins Token.Leads b t) (ends : Begins Token.Closes b r)
    (noParameters : ∀ e, Q e → ∀ isAsync, e.kind ≠ .arrowParameters isAsync)
    (h : Takes ⟨c, b, t⟩ ⟨c, b, r⟩ room (conditional g) Q) :
    Takes ⟨c, b, t⟩ ⟨c, b, r⟩ (room + 1) (assignment g) Q := by
  refine Takes.production (Takes.bind Takes.context fun c₀ _ => ?_)
  refine Takes.bind (Takes.seesWord (leads.imp fun k hk => hk.isWord _)) fun _ hyield => ?_
  subst hyield
  rw [Bool.and_false]
  refine Takes.bind (Takes.ahead leads) fun first hfirst => ?_
  refine Takes.bind h fun e he => ?_
  refine Takes.bind (y := ⟨c, b, r⟩) (Q := (· = e)) ?_ fun e' he' => ?_
  · refine Takes.bind (Takes.ahead ends) fun k _ => ?_
    rw [hfirst.isName (.inl rfl), Bool.false_and, Bool.false_and]
    exact Takes.pure rfl
  subst he'
  refine Takes.bind (Takes.sees (ends.imp fun k hk => hk.isPunct (by decide))) fun _ harrow => ?_
  subst harrow
  rw [if_neg]
  · refine Takes.bind (Takes.ahead ends) fun k hk => ?_
    rw [hk.assigns]
    exact Takes.pure he
  · rw [Bool.or_false]
    split
    · next isAsync hkind => exact absurd hkind (noParameters e' he isAsync)
    · exact Bool.false_ne_true

/-- Where what is called or assigned stands between the two ends, it is read as an assignment. -/
theorem Takes.assignment_leftHandSide (leads : Begins Token.Leads b t)
    (ends : Begins Token.Closes b r)
    (noParameters : ∀ e, Q e → ∀ isAsync, e.kind ≠ .arrowParameters isAsync)
    (h : Takes ⟨c, b, t⟩ ⟨c, b, r⟩ room (leftHandSide g) Q) :
    Takes ⟨c, b, t⟩ ⟨c, b, r⟩ (room + 10) (Parser.assignment g) Q :=
  takes_assignment leads ends noParameters (takes_conditional leads ends
    (takes_binary leads ends (takes_exponentiation leads ends (takes_unary leads
      (takes_update leads ends h)))))

theorem Takes.primary (leads : Begins Token.Leads b t)
    (h : Takes ⟨c, b, t⟩ ⟨c, b, r⟩ room (plainPrimary g) Q) :
    Takes ⟨c, b, t⟩ ⟨c, b, r⟩ (room + 1) (Parser.primary g) Q := by
  refine Takes.production (Takes.bind (Takes.sees (leads.imp fun k hk =>
    hk.isPunct (by decide))) fun _ htag => ?_)
  subst htag
  exact h

theorem Takes.assignment (leads : Begins Token.Leads b t) (ends : Begins Token.Closes b r)
    (noParameters : ∀ e, Q e → ∀ isAsync, e.kind ≠ .arrowParameters isAsync)
    (h : Takes ⟨c.inside, b, t⟩ ⟨c.inside, b, r⟩ room (plainPrimary g) Q) :
    Takes ⟨c, b, t⟩ ⟨c, b, r⟩ (room + 13) (Parser.assignment g) Q :=
  Takes.assignment_leftHandSide leads ends noParameters
    (takes_leftHandSide leads ends (Takes.primary leads h))

end Chain

/-! ## Readings -/

mutual

/-- A tree without the places of its nodes. -/
def Node.shape : Node → Node
  | .mk kind _ children => .mk kind default (shapes children)

/-- Parts without the places of their nodes. -/
def shapes : List (Role × Node) → List (Role × Node)
  | [] => []
  | (r, n) :: more => (r, n.shape) :: shapes more

end

theorem shapes_many (r : Role) (ns : List Node) :
    shapes (many r ns) = many r (ns.map Node.shape) := by
  induction ns with
  | nil => rfl
  | cons n ns ih => exact congrArg ((r, n.shape) :: ·) ih

theorem shapes_append (l m : List (Role × Node)) : shapes (l ++ m) = shapes l ++ shapes m := by
  induction l with
  | nil => rfl
  | cons p l ih => exact congrArg ((p.1, p.2.shape) :: ·) ih

theorem kind_shape (n : Node) : n.shape.kind = n.kind := by
  cases n
  rfl

/-- A token that is no part of the list or group around an item. -/
structure Token.Opens (k : Token) : Prop where
  noListEnd : k.isPunct "]" = false
  noGroupEnd : k.isPunct ")" = false
  noComma : k.isPunct "," = false
  noSpread : k.isPunct "..." = false

theorem Token.Leads.opens {k : Token} (h : k.Leads) : k.Opens :=
  ⟨h.isPunct (by decide), h.isPunct (by decide), h.isPunct (by decide), h.isPunct (by decide)⟩

/-- A text that is read as one expression of the given form, wherever one may stand inside of
brackets, with no more than `room` productions open in it. -/
structure Reads (c : Context) (room : Nat) (source : Text) (tree : Node) : Prop where
  begins : ∀ b r, Ends b r → Begins Token.Opens b (source ++ r)
  solid : ∀ b r, Ends b r → Solid (source ++ r)
  noParameters : ∀ isAsync, tree.kind ≠ .arrowParameters isAsync
  takes : ∀ n b r, room ≤ n → Ends b r →
    Takes ⟨c, b, source ++ r⟩ ⟨c, b, r⟩ room (assignment (rules n)) fun e => e.shape = tree

theorem Reads.imp {c : Context} {room room' : Nat} {source : Text} {tree : Node}
    (h : Reads c room source tree) (more : room ≤ room') : Reads c room' source tree :=
  ⟨h.begins, h.solid, h.noParameters, fun n b r hn ends =>
    (h.takes n b r (Nat.le_trans more hn) ends).imp more fun _ he => he⟩

theorem Reads.of_primary {c : Context} {room : Nat} {source : Text} {tree : Node}
    (leads : ∀ b r, Ends b r → Begins Token.Leads b (source ++ r))
    (solid : ∀ b r, Ends b r → Solid (source ++ r))
    (noParameters : ∀ isAsync, tree.kind ≠ .arrowParameters isAsync)
    (primary : ∀ n b r, room + 13 ≤ n → Ends b r →
      Takes ⟨c.inside, b, source ++ r⟩ ⟨c.inside, b, r⟩ room (plainPrimary (rules n))
        fun e => e.shape = tree) :
    Reads c (room + 13) source tree where
  begins b r ends := (leads b r ends).imp fun k hk => hk.opens
  solid := solid
  noParameters := noParameters
  takes n b r hn ends := by
    refine Takes.assignment (leads b r ends) ends.begins (fun e he isAsync => ?_)
      (primary n b r hn ends)
    rw [← kind_shape, he]
    exact noParameters isAsync

theorem takes_seesAsyncFunction {x : Point} {room : Nat}
    (begins : Begins (fun k => k.isName "async" = false) x.braces x.text) :
    Takes x x room seesAsyncFunction (· = false) := by
  refine Takes.bind (Takes.seesName begins) fun _ hname => ?_
  rw [hname]
  exact Takes.pure rfl

theorem PlainName.leads {name : Text} (h : PlainName name) {k : Token} (kind : k.kind = .identifier)
    (value : k.value = name) : k.Leads where
  notKeyword := ne_of_eq_of_ne kind (by decide)
  bracket hkind := absurd (kind.symm.trans hkind) (by decide)
  plain _ := value ▸ h.plain

/-- A name is a primary expression, whatever ends it. -/
theorem takes_name {name t : Text} {b : List Brace} {Q : Token → Prop} {room : Nat}
    (h : PlainName name) (c : Context) (g : Rules) (stop : EndsName t) (solid : Solid t)
    (begins : Begins Q b t) :
    Takes ⟨c, b, name ++ t⟩ ⟨c, b, t⟩ (room + 1) (plainPrimary g)
      fun e => e.shape = .mk (.identifier name) default [] := by
  have hlex := lexes_word (b := b) h stop
  refine Takes.production (Takes.bind Takes.mark fun m _ => ?_)
  refine Takes.bind (Takes.ahead hlex.begins) fun k hk => ?_
  rw [hk.1, hk.2]
  refine Takes.bind Takes.context fun c₀ _ => ?_
  have hawait : (name == "await") = false := beq_eq_false_iff_ne.mpr h.plain.2
  rw [hawait, Bool.and_false]
  refine Takes.bind (takes_seesAsyncFunction (hlex.begins.imp fun k hk =>
    (h.leads hk.1 hk.2).isName (.inl rfl))) fun _ hasync => ?_
  subst hasync
  refine Takes.bind (y := ⟨c, b, t⟩) (Takes.discard (Takes.next (k := 0) hlex
    solid begins (List.sublist_append_right name t).length_le)) fun _ _ => ?_
  exact Takes.node fun span => rfl

theorem reads_name {name : Text} (h : PlainName name) (c : Context) :
    Reads c 14 name (.mk (.identifier name) default []) := by
  refine Reads.of_primary (fun b r ends => ?_) (fun b r ends => ?_) (fun isAsync hkind => ?_)
    fun n b r hn ends => takes_name h c.inside _ ends.endsName ends.solid ends.begins
  · exact (lexes_name h ends).begins.imp fun k hk => h.leads hk.1 hk.2
  · obtain ⟨x, more, rfl, hx⟩ := h.start
    exact solid_identifier hx _
  · cases hkind

end Readiness.Script
