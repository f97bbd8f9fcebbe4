import Readiness.Proofs.UnplacedIssues
import Readiness.Proofs.WrappedBody
import Readiness.Proofs.WrappedLiterals

/-!
# Wrapping a function silences it and nothing else

A function that lets errors pass is reported once. With its body in a `try` whose handler
reports the error and throws it on, it has a `try` of its own and is not reported. All else
that was reported still is, of the same kind and with the same words and facts: of every
other function and of every chain, inside of the wrapped body, around it or elsewhere.
Where an issue is and what its fingerprint is made of can differ, since the text is
another one (`Issue.unplaced`).

The handler has no functions, no chains and no names that mark payments or databases, and
that is all that matters about it (`isQuiet_catchStatements`).
-/

namespace Readiness.Rejection

open Script Node

/-! ## What is reported of places that are alike -/

variable {p p' f f' : Place} {file : Text} {context : Context} {wrappers : List Text}

theorem letsErrorsPass_eq (wrappers : List Text) (f : Place) : letsErrorsPass wrappers f =
    (f.node.isFunction && f.node.isAsync && decide (0 < bodyOwn isAwait f.node) &&
      !decide (0 < bodyOwn isTry f.node) && !isWrapped wrappers f) := by
  have hawaits : (!(ownAwaits f).isEmpty) = decide (0 < bodyOwn isAwait f.node) := by
    rw [← length_ownAwaits, Bool.eq_iff_iff, Bool.not_eq_true', List.isEmpty_eq_false_iff,
      decide_eq_true_iff, List.length_pos_iff]
  rw [letsErrorsPass, hawaits, hasOwnTry_eq]

theorem letsErrorsPass_alike (h : Alike p p') :
    letsErrorsPass wrappers p = letsErrorsPass wrappers p' := by
  rw [letsErrorsPass_eq, letsErrorsPass_eq, reading_eq isFunction_outline h.outline,
    reading_eq isAsync_outline h.outline, h.own, h.own, isWrapped_around wrappers h.above]

theorem looksLikePayment_alike (seen : SeenAlike f f')
    (body : bodyAny namesPayment f.node = bodyAny namesPayment f'.node) :
    looksLikePayment f = looksLikePayment f' := by
  rw [looksLikePayment_eq, looksLikePayment_eq, functionName?_alike seen, body]

theorem functionMessage_alike (payment : Bool) (h : Alike p p') :
    functionMessage payment p = functionMessage payment p' := by
  rw [functionMessage, functionMessage, touchesDatabase_eq, touchesDatabase_eq, length_ownAwaits,
    length_ownAwaits, h.database, h.own]

/-- Whether code is treated as payment code, given whether it looks like it. -/
def paymentIn (context : Context) (looks : Except Breakdown Bool) : Except Breakdown Bool :=
  if context.isPaymentCode then .ok true else looks

/-- What is reported of a function, and when. -/
theorem functionIssue?_eq_ok {o : Option Issue} :
    functionIssue? wrappers context file f = .ok o ↔
      letsErrorsPass wrappers f = false ∧ o = none ∨
        letsErrorsPass wrappers f = true ∧ ∃ payment name i,
          paymentIn context (looksLikePayment f) = .ok payment ∧ f.functionName? = .ok name ∧
          functionRule.issue file f.node (severityOf payment) (functionMessage payment f)
            [("is_payment", .bool payment), ("function_name", Json.ofOption name)]
            (name.getD "") = .ok i ∧ o = some i := by
  cases hpass : letsErrorsPass wrappers f with
  | false =>
      rw [functionIssue?, hpass]
      refine ⟨fun h => .inl ⟨rfl, (Except.ok.inj h).symm⟩, ?_⟩
      rintro (⟨-, rfl⟩ | ⟨h, -⟩)
      · rfl
      · cases h
  | true =>
      have hsteps : functionIssue? wrappers context file f =
          paymentIn context (looksLikePayment f) >>= fun payment => f.functionName? >>= fun name =>
            (functionRule.issue file f.node (severityOf payment) (functionMessage payment f)
              [("is_payment", .bool payment), ("function_name", Json.ofOption name)]
              (name.getD "")) >>= fun i => .ok (some i) := by
        rw [functionIssue?, hpass, paymentIn]
        cases context.isPaymentCode <;> rfl
      rw [hsteps]
      simp only [reduceCtorEq, false_and, true_and, false_or]
      constructor
      · intro h
        obtain ⟨payment, hpayment, h⟩ := exists_of_bind_ok h
        obtain ⟨name, hname, h⟩ := exists_of_bind_ok h
        obtain ⟨i, hi, h⟩ := exists_of_bind_ok h
        exact ⟨payment, name, i, hpayment, hname, hi, (Except.ok.inj h).symm⟩
      · rintro ⟨payment, name, i, hpayment, hname, hi, rfl⟩
        rw [hpayment]
        show (f.functionName? >>= _) = _
        rw [hname]
        show (functionRule.issue _ _ _ _ _ _ >>= _) = _
        rw [hi]
        rfl

/-- The same is reported of functions that are alike. -/
theorem functionIssue?_alike (h : Alike p p') {o : Option Issue}
    (ho : functionIssue? wrappers context file p = .ok o) :
    ∃ o', functionIssue? wrappers context file p' = .ok o' ∧
      o.map Issue.unplaced = o'.map Issue.unplaced := by
  rcases functionIssue?_eq_ok.mp ho with ⟨hpass, rfl⟩ | ⟨hpass, payment, name, i, hpayment, hname, hi, rfl⟩
  · rw [letsErrorsPass_alike h] at hpass
    exact ⟨none, functionIssue?_eq_ok.mpr (.inl ⟨hpass, rfl⟩), rfl⟩
  · rw [letsErrorsPass_alike h] at hpass
    rw [looksLikePayment_alike h.toSeenAlike h.payment] at hpayment
    rw [functionName?_alike h.toSeenAlike] at hname
    rw [functionMessage_alike payment h] at hi
    obtain ⟨j, hj⟩ := Rule.exists_issue.mpr (Rule.exists_issue.mp ⟨i, hi⟩)
    refine ⟨some j, functionIssue?_eq_ok.mpr
      (.inr ⟨hpass, payment, name, j, hpayment, hname, hj, rfl⟩), ?_⟩
    rw [Option.map_some, Option.map_some, Rule.issue_told hi, Rule.issue_told hj]

/-! ## What is reported of chains that are alike -/

/-- Whether a chain is treated as payment code, by the function around it. -/
def chainPayment (context : Context) (p : Place) : Except Breakdown Bool :=
  paymentIn context (match p.enclosingFunction? with
    | some f => looksLikePayment f
    | none => .ok false)

/-- The text of what a call calls. -/
def calleeText (s : Script) (n : Node) : Text := ((n.field? .callee).map s.textOf).getD []

theorem isEncodable_calleeText {s : Script} (h : s.text.IsEncodable) (n : Node) :
    (calleeText s n).IsEncodable := by
  rw [calleeText]
  cases n.field? .callee with
  | none => exact fun _ h => (List.not_mem_nil h).elim
  | some c => exact h.slice _ _

/-- What is reported of a chain, and when. -/
theorem chainIssue?_eq_ok {s : Script} {o : Option Issue} :
    chainIssue? s context file p = .ok o ↔
      letsRejectionsPass p = false ∧ o = none ∨
        letsRejectionsPass p = true ∧ ∃ payment i, chainPayment context p = .ok payment ∧
          chainRule.issue file p.node (severityOf payment) (chainMessage payment)
            [("is_payment", .bool payment)] (calleeText s p.node) = .ok i ∧ o = some i := by
  cases hpass : letsRejectionsPass p with
  | false =>
      rw [chainIssue?, hpass]
      refine ⟨fun h => .inl ⟨rfl, (Except.ok.inj h).symm⟩, ?_⟩
      rintro (⟨-, rfl⟩ | ⟨h, -⟩)
      · rfl
      · cases h
  | true =>
      have hsteps : chainIssue? s context file p = chainPayment context p >>= fun payment =>
          (chainRule.issue file p.node (severityOf payment) (chainMessage payment)
            [("is_payment", .bool payment)] (calleeText s p.node)) >>= fun i => .ok (some i) := by
        rw [chainIssue?, hpass, chainPayment, paymentIn]
        cases context.isPaymentCode with
        | true => rfl
        | false => cases p.enclosingFunction? <;> rfl
      rw [hsteps]
      simp only [reduceCtorEq, false_and, true_and, false_or]
      constructor
      · intro h
        obtain ⟨payment, hpayment, h⟩ := exists_of_bind_ok h
        obtain ⟨i, hi, h⟩ := exists_of_bind_ok h
        exact ⟨payment, i, hpayment, hi, (Except.ok.inj h).symm⟩
      · rintro ⟨payment, i, hpayment, hi, rfl⟩
        rw [hpayment]
        show (chainRule.issue _ _ _ _ _ _ >>= _) = _
        rw [hi]
        rfl

theorem letsRejectionsPass_alike (h : SeenAlike p p') :
    letsRejectionsPass p = letsRejectionsPass p' := by
  have hlast : ∀ q : Place, isLastThen q =
      (q.chainAbove.map (·.1)).all (· != some (Text.ofString "then")) := by
    intro q
    rw [isLastThen, List.all_map]
    rfl
  have hthen : p.node.isMethodCall "then" = p'.node.isMethodCall "then" :=
    @reading_eq _ _ _ (fun n => n.isMethodCall "then") (fun n => isMethodCall_outline n "then")
      h.outline
  have hcount : p.node.arguments.length = p'.node.arguments.length := by
    rw [← length_arguments_outline p.node, h.outline, length_arguments_outline p'.node]
  rw [letsRejectionsPass, letsRejectionsPass, hthen, hcount, hlast, hlast, chainNames_alike h,
    catchFollows_alike h]

theorem chainPayment_alike (h : SeenAlike p p') :
    chainPayment context p = chainPayment context p' := by
  rw [chainPayment, chainPayment, Place.enclosingFunction?, Place.enclosingFunction?,
    Place.ancestors, Place.ancestors]
  rcases enclosing_around h.above with ⟨hnone, hnone'⟩ | ⟨f, f', hf, hf', seen, halike⟩
  · rw [hnone, hnone']
  · rw [hf, hf']
    dsimp only
    rw [looksLikePayment_alike halike seen.payment]

/-- The same is reported of chains that are alike, if it can be encoded what is called. -/
theorem chainIssue?_alike {s s' : Script} (h : SeenAlike p p')
    (encodable : letsRejectionsPass p' = true → (calleeText s' p'.node).IsEncodable)
    {o : Option Issue} (ho : chainIssue? s context file p = .ok o) :
    ∃ o', chainIssue? s' context file p' = .ok o' ∧
      o.map Issue.unplaced = o'.map Issue.unplaced := by
  rcases chainIssue?_eq_ok.mp ho with ⟨hpass, rfl⟩ | ⟨hpass, payment, i, hpayment, hi, rfl⟩
  · rw [letsRejectionsPass_alike h] at hpass
    exact ⟨none, chainIssue?_eq_ok.mpr (.inl ⟨hpass, rfl⟩), rfl⟩
  · rw [letsRejectionsPass_alike h] at hpass
    rw [chainPayment_alike h] at hpayment
    obtain ⟨htype, hfile, -⟩ := Rule.exists_issue.mp ⟨i, hi⟩
    obtain ⟨j, hj⟩ := Rule.exists_issue.mpr ⟨htype, hfile, (encodable hpass).trim⟩
    refine ⟨some j, chainIssue?_eq_ok.mpr (.inr ⟨hpass, payment, j, hpayment, hj, rfl⟩), ?_⟩
    rw [Option.map_some, Option.map_some, Rule.issue_told hi, Rule.issue_told hj]

/-! ## The issues of two trees -/

theorem functionIssue?_idle (h : Idle p) : functionIssue? wrappers context file p = .ok none := by
  refine functionIssue?_eq_ok.mpr (.inl ⟨?_, rfl⟩)
  rw [letsErrorsPass]
  cases hfunction : p.node.isFunction with
  | false => rfl
  | true => rw [h.handled hfunction, Bool.not_true, Bool.and_false, Bool.false_and]

theorem chainIssue?_idle {s : Script} (h : p.node.isMethodCall "then" = false) :
    chainIssue? s context file p = .ok none := by
  refine chainIssue?_eq_ok.mpr (.inl ⟨?_, rfl⟩)
  rw [letsRejectionsPass, h, Bool.false_and, Bool.false_and, Bool.false_and]

/-- What goes together is reported together, if the same is reported of what is alike and nothing
of what is idle. -/
theorem Matched.filterMap {g g' : Place → Except Breakdown (Option Issue)} {l l' : List Place}
    (h : Matched l l') (ok : ∀ p ∈ l, ∃ o, g p = .ok o)
    (alike : ∀ p' ∈ l', ∀ p o, Alike p p' → g p = .ok o →
      ∃ o', g' p' = .ok o' ∧ o.map Issue.unplaced = o'.map Issue.unplaced)
    (idle : ∀ p' ∈ l', Idle p' → g' p' = .ok none) :
    (∀ p' ∈ l', ∃ o, g' p' = .ok o) ∧
      (l.filterMap (foundBy g)).map Issue.unplaced =
        (l'.filterMap (foundBy g')).map Issue.unplaced := by
  induction h with
  | nil => exact ⟨fun _ h => (List.not_mem_nil h).elim, rfl⟩
  | @same p p' l l' halike _ ih =>
      rw [List.forall_mem_cons] at ok alike idle
      obtain ⟨⟨o, ho⟩, ok⟩ := ok
      obtain ⟨o', ho', hsame⟩ := alike.1 p o halike ho
      obtain ⟨ok', hrest⟩ := ih ok alike.2 idle.2
      refine ⟨List.forall_mem_cons.mpr ⟨⟨o', ho'⟩, ok'⟩, ?_⟩
      rw [List.map_filterMap, List.map_filterMap] at hrest ⊢
      have hfound : (foundBy g p).map Issue.unplaced = (foundBy g' p').map Issue.unplaced := by
        rw [foundBy, foundBy, ho, ho']
        exact hsame
      rw [List.filterMap_cons, List.filterMap_cons, hrest, hfound]
  | @extra p' l l' hidle _ ih =>
      rw [List.forall_mem_cons] at alike idle
      obtain ⟨ok', hrest⟩ := ih ok alike.2 idle.2
      have hnone := idle.1 hidle
      refine ⟨List.forall_mem_cons.mpr ⟨⟨none, hnone⟩, ok'⟩, ?_⟩
      rw [hrest, List.filterMap_cons, foundBy, hnone]
      rfl

/-- All that is found at the places of a tree is found at those of the other tree, but for what is
found at the place that goes with none. -/
theorem Hit.filterMapM {g g' : Place → Except Breakdown (Option Issue)} {l l' m m' : List Place}
    (h : Hit f l l') (perm : m.Perm l) (perm' : m'.Perm l') {o : Option Issue} (hf : g f = .ok o)
    {kept : List Issue} (hkept : m.filterMapM g = .ok kept)
    (alike : ∀ p' ∈ m', ∀ p o, Alike p p' → g p = .ok o →
      ∃ o', g' p' = .ok o' ∧ o.map Issue.unplaced = o'.map Issue.unplaced)
    (idle : ∀ p' ∈ m', Idle p' → g' p' = .ok none) :
    ∃ kept', m'.filterMapM g' = .ok kept' ∧
      (kept.map Issue.unplaced).Perm ((o.map Issue.unplaced).toList ++ kept'.map Issue.unplaced) := by
  obtain ⟨l₁, l₂, rfl, hmatched⟩ := h
  obtain ⟨ok, rfl⟩ := filterMapM_eq_ok.mp hkept
  have hrest : ∀ p ∈ l₁ ++ l₂, ∃ o, g p = .ok o := by
    intro p hp
    refine ok p (perm.mem_iff.mpr ?_)
    exact List.perm_middle.mem_iff.mpr (List.mem_cons_of_mem f hp)
  obtain ⟨ok', hsame⟩ := hmatched.filterMap hrest
    (fun p' hp' => alike p' (perm'.mem_iff.mpr hp')) (fun p' hp' => idle p' (perm'.mem_iff.mpr hp'))
  refine ⟨_, filterMapM_eq_ok.mpr ⟨fun p hp => ok' p (perm'.mem_iff.mp hp), rfl⟩, ?_⟩
  have hold : (m.filterMap (foundBy g)).Perm (o.toList ++ (l₁ ++ l₂).filterMap (foundBy g)) := by
    refine ((perm.trans List.perm_middle).filterMap (foundBy g)).trans (.of_eq ?_)
    rw [List.filterMap_cons, foundBy, hf]
    cases o <;> rfl
  refine (hold.map Issue.unplaced).trans ?_
  rw [List.map_append, hsame]
  refine .trans (.of_eq ?_) (((perm'.filterMap (foundBy g')).map Issue.unplaced).symm.append_left _)
  cases o <;> rfl

theorem detect_eq_ok {extra : List Text} {s : Script} {found : List Issue} :
    (detector extra).detect s context file = .ok found ↔ ∃ functions chains,
      s.places.filterMapM (functionIssue? (standardWrappers ++ extra) context file) = .ok functions ∧
      s.places.filterMapM (chainIssue? s context file) = .ok chains ∧
      found = functions ++ chains := by
  constructor
  · intro h
    obtain ⟨functions, hfunctions, h⟩ := exists_of_bind_ok h
    obtain ⟨chains, hchains, h⟩ := exists_of_bind_ok h
    exact ⟨functions, chains, hfunctions, hchains, (Except.ok.inj h).symm⟩
  · rintro ⟨functions, chains, hfunctions, hchains, rfl⟩
    show (s.places.filterMapM (functionIssue? (standardWrappers ++ extra) context file) >>= _) = _
    rw [hfunctions]
    show (s.places.filterMapM (chainIssue? s context file) >>= _) = _
    rw [hchains]
    rfl

/-- A function of which something is reported has a body and no `try`. -/
theorem exists_body_of_functionIssue? {i : Issue}
    (h : functionIssue? wrappers context file f = .ok (some i)) :
    f.node.isFunction = true ∧ ∃ b, f.node.field? .body = some b := by
  rcases functionIssue?_eq_ok.mp h with ⟨-, hnone⟩ | ⟨hpass, -⟩
  · cases hnone
  · rw [letsErrorsPass_eq, Bool.and_eq_true, Bool.and_eq_true, Bool.and_eq_true, Bool.and_eq_true,
      decide_eq_true_iff, bodyOwn] at hpass
    obtain ⟨⟨⟨⟨hfunction, -⟩, hawaits⟩, -⟩, -⟩ := hpass
    refine ⟨hfunction, ?_⟩
    cases hbody : f.node.field? .body with
    | none =>
        rw [hbody] at hawaits
        cases hawaits
    | some b => exact ⟨b, rfl⟩

/-! ## The handler -/

/-- The name of a variable or a property. -/
def nameNode (name : Text) : Node := .mk (.identifier name) default []

def stringNode (t : Text) : Node := .mk (.literal (.string t)) default []

/-- What reports errors: a logger if there is one. -/
def loggerNode : Node :=
  .mk .conditional default
    [(.test, .mk (.binary "!==") default
      [(.left, .mk (.unary "typeof") default [(.argument, nameNode "logger")]),
        (.right, stringNode "undefined")]),
      (.consequent, nameNode "logger"), (.alternate, nameNode "console")]

/-- The statement that reports an error under a label. -/
def reportNode (label : Text) : Node :=
  .mk (.expressionStatement none) default
    [(.expression, .mk .call default
      [(.callee, .mk (.member false) default
        [(.memberObject, loggerNode), (.memberProperty, nameNode "error")]),
        (.argument, stringNode label), (.argument, nameNode "error")])]

/-- The error that says that a payment failed. -/
def paymentErrorNode : Node :=
  .mk .construct default
    [(.callee, nameNode "Error"), (.argument, stringNode "Payment processing failed"),
      (.argument, .mk .objectExpression default
        [(.property, .mk (.property false) default
          [(.key, nameNode "cause"), (.value, nameNode "error")])])]

/-- The statements that `catchLines` writes. -/
def catchStatements (name : Text) (payment : Bool) : List Node :=
  if payment then
    [reportNode ("Payment processing failed in " ++ name ++ ":"),
      .mk .throwStatement default [(.argument, paymentErrorNode)]]
  else
    [reportNode (name ++ " failed:"), .mk .throwStatement default [(.argument, nameNode "error")]]

/-- Nothing in the handler is noticed, whatever the function is called. -/
theorem isQuiet_catchStatements (name : Text) (payment : Bool) :
    IsQuiet (catchStatements name payment) := by
  cases payment <;> rfl

/-- With the body of a reported function wrapped, that function is reported no more, and all else
is reported as before. The other script is any whose tree, ranges aside, is that with the body
wrapped; of its text only what goes into the fingerprints of chains has to be encodable. -/
theorem detect_silenced {extra : List Text} {s s' : Script} {i : Issue} {found : List Issue}
    (name : Text) (payment : Bool) (mem : f ∈ s.places)
    (flagged : functionIssue? (standardWrappers ++ extra) context file f = .ok (some i))
    (wrapped : s'.program.bare =
      (s.program.changeAt (wrapBody (catchStatements name payment)) f.address.reverse).bare)
    (encodable : ∀ p ∈ s'.places, letsRejectionsPass p = true →
      (calleeText s' p.node).IsEncodable)
    (finds : (detector extra).detect s context file = .ok found) :
    ∃ found', (detector extra).detect s' context file = .ok found' ∧
      (found.map Issue.unplaced).Perm (i.unplaced :: found'.map Issue.unplaced) := by
  obtain ⟨isFunction, b, hbody⟩ := exists_body_of_functionIssue? flagged
  obtain ⟨path, hdown, haddress⟩ := Place.down_of_mem_preorder (Script.mem_places.mp mem)
  have hpath : f.address.reverse = path := by
    rw [haddress, List.map_nil, List.append_nil, List.reverse_reverse]
  rw [hpath] at wrapped
  have hhit := hit_changeAt (isQuiet_catchStatements name payment) isFunction hbody hdown .root
    wrapped.symm
  have hplaces : s.places.Perm (Place.preorder [] s.program) := Place.walk_perm _
  have hplaces' : s'.places.Perm (Place.preorder [] s'.program) := Place.walk_perm _
  obtain ⟨functions, chains, hfunctions, hchains, rfl⟩ := detect_eq_ok.mp finds
  have hnochain : f.node.isMethodCall "then" = false := by
    rw [isMethodCall, (not_of_isFunction isFunction).1, Bool.false_and]
  obtain ⟨functions', hfunctions', hsame⟩ := hhit.filterMapM hplaces hplaces' flagged hfunctions
    (fun p' _ p o h ho => functionIssue?_alike h ho) (fun p' _ h => functionIssue?_idle h)
  obtain ⟨chains', hchains', hsameChains⟩ := hhit.filterMapM hplaces hplaces'
    (chainIssue?_idle hnochain) hchains
    (fun p' hp' p o h ho => chainIssue?_alike h.toSeenAlike (encodable p' hp') ho)
    (fun p' _ h => chainIssue?_idle h.noChain)
  refine ⟨functions' ++ chains', detect_eq_ok.mpr ⟨_, _, hfunctions', hchains', rfl⟩, ?_⟩
  rw [List.map_append, List.map_append]
  exact hsame.append hsameChains

/-! ## When issues can be listed -/

/-- Whether the name of a function can be read and encoded. -/
def hasName (f : Place) : Bool :=
  match f.functionName? with
  | .ok name => decide (Text.IsEncodable (name.getD []))
  | .error _ => false

theorem exists_name (h : hasName f = true) :
    ∃ name, f.functionName? = .ok name ∧ Text.IsEncodable (name.getD []) := by
  rw [hasName] at h
  split at h
  · next name hname => exact ⟨name, hname, of_decide_eq_true h⟩
  · cases h

theorem exists_looksLikePayment (h : hasName f = true) :
    ∃ payment, looksLikePayment f = .ok payment := by
  obtain ⟨name, hname, -⟩ := exists_name h
  rw [looksLikePayment_eq, hname]
  exact ⟨_, rfl⟩

theorem exists_paymentIn {looks : Except Breakdown Bool} (h : ∃ payment, looks = .ok payment) :
    ∃ payment, paymentIn context looks = .ok payment := by
  rw [paymentIn]
  cases context.isPaymentCode with
  | true => exact ⟨true, rfl⟩
  | false => exact h

/-- A function is reported just if it lets errors pass. -/
theorem exists_functionIssue? (named : hasName f = true) (filed : (slashed file).IsEncodable) :
    ∃ o, functionIssue? wrappers context file f = .ok o ∧ o.isSome = letsErrorsPass wrappers f := by
  cases hpass : letsErrorsPass wrappers f with
  | false => exact ⟨none, functionIssue?_eq_ok.mpr (.inl ⟨hpass, rfl⟩), rfl⟩
  | true =>
      obtain ⟨name, hname, hencodable⟩ := exists_name named
      obtain ⟨payment, hpayment⟩ := @exists_paymentIn context _ (exists_looksLikePayment named)
      have htype : functionRule.type.IsEncodable := Text.isEncodable_ofString "no-error-handling"
      obtain ⟨i, hi⟩ := Rule.exists_issue.mpr ⟨htype, filed, hencodable.trim⟩
      exact ⟨some i, functionIssue?_eq_ok.mpr (.inr ⟨hpass, payment, name, i, hpayment, hname, hi,
        rfl⟩), rfl⟩

theorem exists_chainIssue? {s : Script} (named : (p.enclosingFunction?).all hasName = true)
    (filed : (slashed file).IsEncodable) (written : s.text.IsEncodable) :
    ∃ o, chainIssue? s context file p = .ok o := by
  cases hpass : letsRejectionsPass p with
  | false => exact ⟨none, chainIssue?_eq_ok.mpr (.inl ⟨hpass, rfl⟩)⟩
  | true =>
      have hlooks : ∃ payment, (match p.enclosingFunction? with
          | some f => looksLikePayment f
          | none => .ok false) = .ok payment := by
        cases hf : p.enclosingFunction? with
        | none => exact ⟨false, rfl⟩
        | some f =>
            rw [hf] at named
            exact exists_looksLikePayment named
      obtain ⟨payment, hpayment⟩ := @exists_paymentIn context _ hlooks
      have htype : chainRule.type.IsEncodable := Text.isEncodable_ofString "unhandled-promise"
      obtain ⟨i, hi⟩ := Rule.exists_issue.mpr
        ⟨htype, filed, (isEncodable_calleeText written p.node).trim⟩
      exact ⟨some i, chainIssue?_eq_ok.mpr (.inr ⟨hpass, payment, i, hpayment, hi, rfl⟩)⟩

/-- The issues can be listed of a script whose names of functions can be read, and where all that
goes into fingerprints can be encoded. -/
theorem exists_detect {extra : List Text} {s : Script}
    (named : ∀ p ∈ s.places, hasName p = true ∧ (p.enclosingFunction?).all hasName = true)
    (filed : (slashed file).IsEncodable) (written : s.text.IsEncodable) :
    ∃ found, (detector extra).detect s context file = .ok found := by
  refine ⟨_, detect_eq_ok.mpr ⟨_, _, filterMapM_eq_ok.mpr ⟨fun p hp => ?_, rfl⟩,
    filterMapM_eq_ok.mpr ⟨fun p hp => exists_chainIssue? (named p hp).2 filed written, rfl⟩, rfl⟩⟩
  obtain ⟨o, ho, -⟩ := exists_functionIssue? (named p hp).1 filed
  exact ⟨o, ho⟩

/-! ## A function and what its repair writes -/

namespace Silenced

def text : Text := "async function f()\x7b\nawait g();\nh().then(k);\n\x7d"

def repaired : Text :=
  "async function f()\x7b\n  try \x7b\n  await g();\n  h().then(k);\n  \x7d catch (error) \x7b\n" ++
    "    (typeof logger !== 'undefined' ? logger : console).error('f failed:', error);\n" ++
    "    throw error;\n  \x7d\n\x7d"

/-- Whether a block is what is replaced in the one text for the other one. -/
def isReplaced (block : Place) : Bool :=
  repaired == text.take block.node.start ++ wrappedBlock (Script.ofText text) block "f" false ++
    text.drop block.node.stop

/-- Whether a place is a function that lets errors pass, with a body for which the other text has
what it is replaced with, and the other tree is the same but for the wrapped body. -/
def isRepaired (f : Place) : Bool :=
  letsPass f && hasBody isReplaced f && sameTree (Script.ofText repaired).program
    ((Script.ofText text).program.changeAt (wrapBody (catchStatements "f" false)) f.address.reverse)
where
  /-- What is asked of a function that lets errors pass. -/
  letsPass (f : Place) : Bool :=
    f.node.isFunction && f.node.isAsync && decide (0 < bodyOwn isAwait f.node) &&
      !decide (0 < bodyOwn isTry f.node) && !isWrapped (standardWrappers ++ []) f

/-- Whether names of functions can be read at a place. -/
def isNamed (p : Place) : Bool := hasName p && (p.enclosingFunction?).all hasName

theorem facts : Script.isPlain text = true ∧ Script.isRead repaired = true ∧
    (∃ f ∈ (Script.ofText text).places, isRepaired f = true) ∧
    (∀ p ∈ (Script.ofText text).places, isNamed p = true) ∧
    (Script.ofText text).text = text ∧ (Script.ofText repaired).text = repaired := by
  unfold isRepaired isReplaced text repaired
  repeat rw [Text.ofString_ofList]
  decide +kernel

theorem encodable : text.IsEncodable ∧ repaired.IsEncodable ∧ (slashed "a.js").IsEncodable := by
  rw [text, repaired]
  repeat rw [Text.ofString_ofList]
  decide +kernel

end Silenced

/-- What the repair writes for this function silences it; the chain in its body is reported as
before. -/
theorem detect_silenced_sample :
    ∃ s s' f block i found found', Script.parse Silenced.text = .ok (.ok s) ∧
      Script.parse Silenced.repaired = .ok (.ok s') ∧ f ∈ s.places ∧
      f.child? .body = some block ∧
      Silenced.repaired = Silenced.text.take block.node.start ++ wrappedBlock s block "f" false ++
        Silenced.text.drop block.node.stop ∧
      functionIssue? (standardWrappers ++ []) {} "a.js" f = .ok (some i) ∧
      (detector []).detect s {} "a.js" = .ok found ∧ (detector []).detect s' {} "a.js" = .ok found' ∧
      (found.map Issue.unplaced).Perm (i.unplaced :: found'.map Issue.unplaced) := by
  obtain ⟨hplain, hread, ⟨f, hf, hrepaired⟩, hnamed, htext, htext'⟩ := Silenced.facts
  obtain ⟨hencodable, hencodable', hfile⟩ := Silenced.encodable
  rw [Silenced.isRepaired, Bool.and_eq_true, Bool.and_eq_true] at hrepaired
  obtain ⟨⟨hpass, hbody⟩, hsame⟩ := hrepaired
  obtain ⟨-, -, block, hblock, -, hreplaced⟩ := body_of_hasBody hbody
  rw [Silenced.isReplaced] at hreplaced
  have hwritten : Text.IsEncodable (Script.ofText Silenced.text).text := by
    rw [htext]
    exact hencodable
  have hwritten' : Text.IsEncodable (Script.ofText Silenced.repaired).text := by
    rw [htext']
    exact hencodable'
  have hnames : ∀ p ∈ (Script.ofText Silenced.text).places,
      hasName p = true ∧ (p.enclosingFunction?).all hasName = true := fun p hp =>
    Bool.and_eq_true_iff.mp (hnamed p hp)
  obtain ⟨o, ho, hreported⟩ :=
    @exists_functionIssue? f "a.js" {} (standardWrappers ++ []) (hnames f hf).1 hfile
  rw [letsErrorsPass_eq, ← Silenced.isRepaired.letsPass, hpass] at hreported
  obtain ⟨i, rfl⟩ := Option.isSome_iff_exists.mp hreported
  obtain ⟨found, hfound⟩ := @exists_detect "a.js" {} [] _ hnames hfile hwritten
  obtain ⟨found', hfound', hperm⟩ := detect_silenced "f" false hf ho (bare_of_sameTree _ _ hsame)
    (fun p _ _ => isEncodable_calleeText hwritten' p.node) hfound
  refine ⟨_, _, f, block, i, found, found', Script.parse_of_isPlain hplain,
    Script.parse_of_isRead hread, hf, hblock, eq_of_beq hreplaced, ho, hfound, hfound', hperm⟩

end Readiness.Rejection
