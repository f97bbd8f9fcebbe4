import Readiness.Proofs.OutsideView

/-!
# A tree with the body of one function wrapped

The body of a function is wrapped in place, somewhere deep in a tree (`Node.changeAt`). On
the way down to the function the two trees agree, since what they are asked does not
depend on the inside of bodies, or asks for names that the handler does not have.

The places of the two trees go together one by one (`Matched`), but for the function
itself, which has a `try` of its own now, and for what is new around its body (`Hit`). What
goes together is alike: the same node, as far as it is asked about, in surroundings
that are alike.
-/

namespace Readiness.Script

namespace Node

/-- The tree with a change made at the node that the numbers lead to, from the root down. -/
def changeAt (change : Node → Node) : List Nat → Node → Node
  | [], n => change n
  | i :: path, .mk kind span children =>
    .mk kind span (children.modify i fun c => (c.1, changeAt change path c.2))

/-- The children with a change made to the first that plays the role. -/
def changeFirst (r : Role) (change : Node → Node) : List (Role × Node) → List (Role × Node)
  | [] => []
  | (s, c) :: more => if s = r then (s, change c) :: more else (s, c) :: changeFirst r change more

/-- A block of statements. -/
def blockOf (statements : List Node) : Node :=
  .mk .block default (statements.map (Prod.mk .body))

/-- The clause that handles an error. -/
def catchOf (handling : List Node) : Node :=
  .mk .catchClause default
    [(.param, .mk (.identifier "error") default []), (.body, blockOf handling)]

/-- A body as a block: with its own statements, or with the one that returns the expression. -/
def asBlock (body : Node) : Node :=
  match body.kind with
  | .block => .mk .block default body.children
  | _ => blockOf [.mk .returnStatement default [(.argument, body)]]

/-- A body in a `try`, in a block of its own, whose errors are handled. -/
def tried (handling : List Node) (body : Node) : Node :=
  blockOf [.mk .tryStatement default [(.block, asBlock body), (.handler, catchOf handling)]]

/-- The function with its body wrapped. -/
def wrapBody (handling : List Node) : Node → Node
  | .mk kind span children => .mk kind span (changeFirst .body (tried handling) children)

/-! ## Trees without ranges -/

theorem eq_mk_of_bare {kind : Kind} {span : Span} {cs : List (Role × Node)} {n : Node}
    (h : (mk kind span cs).bare = n.bare) :
    ∃ span' cs', n = mk kind span' cs' ∧ bareAll cs = bareAll cs' := by
  obtain ⟨kind', span', cs'⟩ := n
  rw [bare, bare] at h
  obtain ⟨rfl, -, hcs⟩ := mk.inj h
  exact ⟨span', cs', rfl, hcs⟩

theorem eq_nil_of_bareAll {cs : List (Role × Node)} (h : bareAll [] = bareAll cs) : cs = [] := by
  cases cs with
  | nil => rfl
  | cons c more =>
      rw [bareAll, bareAll] at h
      cases h

theorem eq_cons_of_bareAll {r : Role} {c : Node} {more cs : List (Role × Node)}
    (h : bareAll ((r, c) :: more) = bareAll cs) :
    ∃ c' more', cs = (r, c') :: more' ∧ c.bare = c'.bare ∧ bareAll more = bareAll more' := by
  cases cs with
  | nil =>
      rw [bareAll, bareAll] at h
      cases h
  | cons child more' =>
      obtain ⟨s, c'⟩ := child
      rw [bareAll, bareAll] at h
      obtain ⟨hhead, hmore⟩ := List.cons.inj h
      obtain ⟨rfl, hc⟩ := Prod.mk.inj hhead
      exact ⟨c', more', rfl, hc, hmore⟩

theorem eq_singleton_of_bareAll {r : Role} {c : Node} {cs : List (Role × Node)}
    (h : bareAll [(r, c)] = bareAll cs) : ∃ c', cs = [(r, c')] ∧ c.bare = c'.bare := by
  obtain ⟨c', more', rfl, hc, hmore⟩ := eq_cons_of_bareAll h
  rw [eq_nil_of_bareAll hmore]
  exact ⟨c', rfl, hc⟩

mutual

/-- A test that sees no bodies and no ranges is passed alike in trees that differ in ranges. -/
theorem anyNode_of_bare {q : Node → Bool} (hq : ∀ n : Node, q n.outline = q n) :
    ∀ n n' : Node, n.bare = n'.bare → anyNode q n = anyNode q n'
  | .mk kind span cs, n', h => by
      have hhead : q (.mk kind span cs) = q n' := by
        rw [← hq, (Rejection.agree_of_bare _ _ h).outline, hq]
      obtain ⟨span', cs', rfl, hcs⟩ := eq_mk_of_bare h
      rw [anyNode, anyNode, hhead, anyBelow_of_bareAll hq cs cs' hcs]

theorem anyBelow_of_bareAll {q : Node → Bool} (hq : ∀ n : Node, q n.outline = q n) :
    ∀ cs cs' : List (Role × Node), bareAll cs = bareAll cs' → anyBelow q cs = anyBelow q cs'
  | [], cs', h => by rw [eq_nil_of_bareAll h]
  | (r, c) :: more, cs', h => by
      obtain ⟨c', more', rfl, hc, hmore⟩ := eq_cons_of_bareAll h
      rw [anyBelow, anyBelow, anyNode_of_bare hq c c' hc, anyBelow_of_bareAll hq more more' hmore]

end

end Node

namespace Place

/-- The place that the numbers lead to, from a place down. -/
def down : List Nat → Place → Option Place
  | [], p => some p
  | i :: path, p =>
    (p.node.children[i]?).bind fun c => down path ⟨c.2, ⟨p.node, c.1, i⟩ :: p.above⟩

mutual

/-- A place of a tree is reached by its address. -/
theorem down_of_mem_preorder {f : Place} {above : List Step} : ∀ {n : Node},
    f ∈ preorder above n →
      ∃ path, down path ⟨n, above⟩ = some f ∧ f.address = path.reverse ++ above.map (·.number)
  | .mk kind span children, h => by
      rw [preorder] at h
      rcases List.mem_cons.mp h with rfl | h
      · exact ⟨[], rfl, rfl⟩
      · obtain ⟨i, c, path, hc, hdown, haddress⟩ := down_of_mem_preorderBelow h
        refine ⟨(0 + i) :: path, ?_, ?_⟩
        · rw [down, Nat.zero_add]
          show (children[i]?).bind _ = _
          rw [hc, ← hdown, Nat.zero_add]
          rfl
        · rw [haddress, List.map_cons, List.reverse_cons, List.append_assoc]
          rfl

theorem down_of_mem_preorderBelow {f : Place} {parent : Node} {above : List Step} :
    ∀ {children : List (Role × Node)} {number : Nat},
      f ∈ preorderBelow parent above number children → ∃ i c path, children[i]? = some c ∧
        down path ⟨c.2, ⟨parent, c.1, number + i⟩ :: above⟩ = some f ∧
        f.address = path.reverse ++ (⟨parent, c.1, number + i⟩ :: above).map (·.number)
  | [], number, h => by
      rw [preorderBelow] at h
      cases h
  | (r, c) :: more, number, h => by
      rw [preorderBelow] at h
      rcases List.mem_append.mp h with h | h
      · obtain ⟨path, hdown, haddress⟩ := down_of_mem_preorder h
        exact ⟨0, (r, c), path, rfl, hdown, haddress⟩
      · obtain ⟨i, d, path, hd, hdown, haddress⟩ := down_of_mem_preorderBelow h
        rw [Nat.add_assoc, Nat.add_comm 1] at hdown haddress
        exact ⟨i + 1, d, path, hd, hdown, haddress⟩

end

end Place

end Readiness.Script

namespace Readiness.Rejection

open Script Node

/-! ## Handlers that are not noticed -/

/-- Whether a node is one that functions or chains are found at, or that tells what code deals
with. -/
def isNoticed (n : Node) : Bool :=
  n.isFunction || n.isMethodCall "then" || namesPayment n || namesDatabase n

/-- Whether nothing in a handler is noticed. -/
def IsQuiet (handling : List Node) : Prop := anyNode isNoticed (catchOf handling) = false

theorem isNoticed_outline (n : Node) : isNoticed n.outline = isNoticed n := by
  rw [isNoticed, isFunction_outline, isMethodCall_outline, namesPayment_outline,
    namesDatabase_outline, isNoticed]

variable {handling : List Node} {n n' body : Node} {cs cs' : List (Role × Node)}

/-- No node of a quiet handler is noticed. -/
theorem not_isNoticed_of_quiet (quiet : IsQuiet handling) (h : (catchOf handling).bare = n'.bare)
    {above : List Step} {p : Place} (hp : p ∈ Place.preorder above n') :
    isNoticed p.node = false := by
  have hany : (Place.preorder above n').any (fun p => isNoticed p.node) = false := by
    rw [Place.any_preorder, ← anyNode_of_bare isNoticed_outline _ _ h]
    exact quiet
  exact Bool.eq_false_iff.mpr (List.any_eq_false.mp hany p hp)

theorem anyNode_handler (quiet : IsQuiet handling) (h : (catchOf handling).bare = n'.bare)
    {q : Node → Bool} (hq : ∀ n, q n = true → isNoticed n = true) : anyNode q n' = false := by
  rw [← Place.any_preorder q [], List.any_eq_false]
  intro p hp hpq
  exact absurd (hq _ hpq) (Bool.eq_false_iff.mp (not_isNoticed_of_quiet quiet h hp))

theorem isNoticed_of_namesPayment (h : namesPayment n = true) : isNoticed n = true := by
  rw [isNoticed, h, Bool.or_true, Bool.true_or]

theorem isNoticed_of_namesDatabase (h : namesDatabase n = true) : isNoticed n = true := by
  rw [isNoticed, h, Bool.or_true]

/-! ## The wrapped body -/

/-- The parts of a wrapped body. -/
theorem eq_of_tried (h : (tried handling body).bare = n'.bare) : ∃ outer tries inner handler,
    n' = .mk .block outer [(.body, .mk .tryStatement tries [(.block, inner), (.handler, handler)])] ∧
      (asBlock body).bare = inner.bare ∧ (catchOf handling).bare = handler.bare := by
  obtain ⟨outer, cs, rfl, hcs⟩ := eq_mk_of_bare h
  obtain ⟨t, rfl, ht⟩ := eq_singleton_of_bareAll hcs
  obtain ⟨tries, parts, rfl, hparts⟩ := eq_mk_of_bare ht
  obtain ⟨inner, more, rfl, hinner, hmore⟩ := eq_cons_of_bareAll hparts
  obtain ⟨handler, rfl, hhandler⟩ := eq_singleton_of_bareAll hmore
  exact ⟨outer, tries, inner, handler, rfl, hinner, hhandler⟩

theorem asBlock_eq (body : Node) :
    (∃ span cs, body = .mk .block span cs ∧ asBlock body = .mk .block default cs) ∨
      asBlock body = blockOf [.mk .returnStatement default [(.argument, body)]] := by
  obtain ⟨kind, span, cs⟩ := body
  cases kind with
  | block => exact .inl ⟨span, cs, rfl, rfl⟩
  | _ => exact .inr rfl

/-- The block of a body is the body itself, or returns it. -/
theorem eq_of_asBlock (h : (asBlock body).bare = n'.bare) : body.bare = n'.bare ∨
    ∃ inner returns e, n' = .mk .block inner [(.body, .mk .returnStatement returns [(.argument, e)])] ∧
      body.bare = e.bare := by
  rcases asBlock_eq body with ⟨span, cs, rfl, hblock⟩ | hblock
  · rw [hblock] at h
    exact .inl h
  · rw [hblock] at h
    obtain ⟨inner, statements, rfl, hstatements⟩ := eq_mk_of_bare h
    obtain ⟨r, rfl, hr⟩ := eq_singleton_of_bareAll hstatements
    obtain ⟨returns, parts, rfl, hparts⟩ := eq_mk_of_bare hr
    obtain ⟨e, rfl, he⟩ := eq_singleton_of_bareAll hparts
    exact .inr ⟨inner, returns, e, rfl, he⟩

/-- What is asked about names has the same answer for a wrapped body. -/
theorem anyNode_tried {q : Node → Bool} (hq : ∀ n, q n.outline = q n)
    (hnoticed : ∀ n, q n = true → isNoticed n = true)
    (hnew : ∀ span cs, q (.mk .block span cs) = false ∧ q (.mk .tryStatement span cs) = false ∧
      q (.mk .returnStatement span cs) = false)
    (quiet : IsQuiet handling) (h : (tried handling body).bare = n'.bare) :
    anyNode q body = anyNode q n' := by
  obtain ⟨outer, tries, inner, handler, rfl, hinner, hhandler⟩ := eq_of_tried h
  have hrest : anyNode q (.mk .block outer
      [(.body, .mk .tryStatement tries [(.block, inner), (.handler, handler)])]) =
        anyNode q inner := by
    simp only [anyNode, anyBelow, (hnew _ _).1, (hnew _ _).2.1, Bool.false_or, Bool.or_false,
      anyNode_handler quiet hhandler hnoticed]
  rw [hrest]
  rcases eq_of_asBlock hinner with hbody | ⟨block, returns, e, rfl, hbody⟩
  · exact anyNode_of_bare hq _ _ hbody
  · simp only [anyNode, anyBelow, (hnew _ _).1, (hnew _ _).2.2, Bool.false_or, Bool.or_false]
    exact anyNode_of_bare hq _ _ hbody

theorem payment_tried (quiet : IsQuiet handling) (h : (tried handling body).bare = n'.bare) :
    anyNode namesPayment body = anyNode namesPayment n' :=
  anyNode_tried namesPayment_outline (fun _ => isNoticed_of_namesPayment)
    (fun _ _ => ⟨rfl, rfl, rfl⟩) quiet h

theorem database_tried (quiet : IsQuiet handling) (h : (tried handling body).bare = n'.bare) :
    anyNode namesDatabase body = anyNode namesDatabase n' :=
  anyNode_tried namesDatabase_outline (fun _ => isNoticed_of_namesDatabase)
    (fun _ _ => ⟨rfl, rfl, rfl⟩) quiet h

theorem ownCount_tried (h : (tried handling body).bare = n'.bare) : 0 < ownCount isTry n' := by
  obtain ⟨outer, tries, inner, handler, rfl, -, -⟩ := eq_of_tried h
  simp only [ownCount, ownBelow, isFunction, kind, isTry, if_true, Bool.false_eq_true, if_false]
  omega

/-! ## Trees agree all the way -/

/-- What a function with a wrapped body has in common with the function. -/
theorem parts_wrapBody (quiet : IsQuiet handling)
    (h : bareAll (changeFirst .body (tried handling) cs) = bareAll cs') :
    outlineAll true cs = outlineAll true cs' ∧
      anyBelow namesPayment cs = anyBelow namesPayment cs' ∧
      anyBelow namesDatabase cs = anyBelow namesDatabase cs' := by
  induction cs generalizing cs' with
  | nil =>
      rw [eq_nil_of_bareAll h]
      exact ⟨rfl, rfl, rfl⟩
  | cons child more ih =>
      obtain ⟨r, c⟩ := child
      rw [changeFirst] at h
      by_cases hr : r = .body
      · rw [if_pos hr] at h
        obtain ⟨c', more', rfl, hc, hmore⟩ := eq_cons_of_bareAll h
        have hagree := agreeAll_of_bare _ _ hmore
        rw [outlineAll, outlineAll, anyBelow, anyBelow, anyBelow, anyBelow, hagree.outlineAll,
          hagree.anyBelow Agree.payment, hagree.anyBelow Agree.database, payment_tried quiet hc,
          database_tried quiet hc, hr]
        exact ⟨rfl, rfl, rfl⟩
      · rw [if_neg hr] at h
        obtain ⟨c', more', rfl, hc, hmore⟩ := eq_cons_of_bareAll h
        obtain ⟨houtline, hpayment, hdatabase⟩ := ih hmore
        have hagree := agree_of_bare _ _ hc
        rw [outlineAll, outlineAll, anyBelow, anyBelow, anyBelow, anyBelow, houtline, hpayment,
          hdatabase, hagree.outline, hagree.payment, hagree.database]
        exact ⟨rfl, rfl, rfl⟩

/-- A function with a wrapped body agrees with the function: from outside, its body is not seen. -/
theorem agree_wrapBody (quiet : IsQuiet handling) (isFunction : n.isFunction = true)
    (h : (wrapBody handling n).bare = n'.bare) : Agree n n' := by
  obtain ⟨kind, span, cs⟩ := n
  obtain ⟨span', cs', rfl, hcs⟩ := eq_mk_of_bare h
  have hfunction' : (Node.mk kind span' cs').isFunction = true := isFunction
  obtain ⟨houtline, hpayment, hdatabase⟩ := parts_wrapBody quiet hcs
  have hsame : (Node.mk kind span cs).outline = (Node.mk kind span' cs').outline := by
    rw [outline, outline, isFunction, hfunction', houtline]
  refine ⟨hsame, ?_, ?_, fun q => ?_⟩
  · rw [anyNode, anyNode, hpayment, reading_eq namesPayment_outline hsame]
  · rw [anyNode, anyNode, hdatabase, reading_eq namesDatabase_outline hsame]
  · rw [ownCount, ownCount, if_pos isFunction, if_pos hfunction']

theorem agreeAll_modify {change : Node → Node} {i : Nat} {c : Role × Node} (hc : cs[i]? = some c)
    (h : bareAll (cs.modify i fun c => (c.1, change c.2)) = bareAll cs')
    (agree : ∀ c', (change c.2).bare = c'.bare → Agree c.2 c') : AgreeAll cs cs' := by
  induction cs generalizing i cs' with
  | nil => cases hc
  | cons child more ih =>
      obtain ⟨r, d⟩ := child
      cases i with
      | zero =>
          cases hc
          rw [List.modify_zero_cons] at h
          obtain ⟨c', more', rfl, hc', hmore⟩ := eq_cons_of_bareAll h
          exact .cons ⟨rfl, agree c' hc'⟩ (agreeAll_of_bare _ _ hmore)
      | succ i =>
          rw [List.modify_succ_cons] at h
          obtain ⟨d', more', rfl, hd, hmore⟩ := eq_cons_of_bareAll h
          exact .cons ⟨rfl, agree_of_bare _ _ hd⟩ (ih hc hmore)

theorem exists_of_down {f p : Place} {i : Nat} {path : List Nat}
    (h : Place.down (i :: path) p = some f) : ∃ c, p.node.children[i]? = some c ∧
      Place.down path ⟨c.2, ⟨p.node, c.1, i⟩ :: p.above⟩ = some f :=
  Option.bind_eq_some_iff.mp h

/-- The trees agree from the root down to the function. -/
theorem agree_changeAt (quiet : IsQuiet handling) {f : Place} (isFunction : f.node.isFunction = true)
    {path : List Nat} {above : List Step} (hdown : Place.down path ⟨n, above⟩ = some f)
    (h : (changeAt (wrapBody handling) path n).bare = n'.bare) : Agree n n' := by
  induction path generalizing n n' above with
  | nil =>
      cases hdown
      exact agree_wrapBody quiet isFunction h
  | cons i path ih =>
      obtain ⟨kind, span, cs⟩ := n
      obtain ⟨span', cs', rfl, hcs⟩ := eq_mk_of_bare h
      obtain ⟨c, hc, hdown⟩ := exists_of_down hdown
      exact agree_mk (agreeAll_modify hc hcs fun c' hc' => ih hdown hc')

/-! ## Places that go together -/

/-- Places of which the same is reported, but for where they are. -/
structure Alike (p p' : Place) : Prop extends SeenAlike p p' where
  payment : bodyAny namesPayment p.node = bodyAny namesPayment p'.node
  database : bodyAny namesDatabase p.node = bodyAny namesDatabase p'.node
  own : ∀ q, bodyOwn q p.node = bodyOwn q p'.node

/-- A place of which nothing is reported. -/
structure Idle (p : Place) : Prop where
  handled : p.node.isFunction = true → hasOwnTry p = true
  noChain : p.node.isMethodCall "then" = false

/-- Places that go together one by one, but for idle ones that are new. -/
inductive Matched : List Place → List Place → Prop where
  | nil : Matched [] []
  | same {p p' : Place} {l l' : List Place} (alike : Alike p p') (more : Matched l l') :
      Matched (p :: l) (p' :: l')
  | extra {p' : Place} {l l' : List Place} (idle : Idle p') (more : Matched l l') :
      Matched l (p' :: l')

/-- Places that go together but for the given one, which is among the first. -/
def Hit (f : Place) (l l' : List Place) : Prop :=
  ∃ l₁ l₂, l = l₁ ++ f :: l₂ ∧ Matched (l₁ ++ l₂) l'

variable {above above' : List Step} {l l' m m' : List Place}

theorem Matched.append (h : Matched l l') (h' : Matched m m') : Matched (l ++ m) (l' ++ m') := by
  induction h with
  | nil => exact h'
  | same alike _ ih => exact .same alike ih
  | extra idle _ ih => exact .extra idle ih

theorem matched_idle (h : ∀ p ∈ l', Idle p) : Matched [] l' := by
  induction l' with
  | nil => exact .nil
  | cons p l' ih =>
      exact .extra (h p List.mem_cons_self) (ih fun q hq => h q (List.mem_cons_of_mem p hq))

theorem Hit.append {f : Place} (h : Hit f l l') (h' : Matched m m') :
    Hit f (l ++ m) (l' ++ m') := by
  obtain ⟨l₁, l₂, rfl, h⟩ := h
  refine ⟨l₁, l₂ ++ m, by rw [List.append_assoc, List.cons_append], ?_⟩
  rw [← List.append_assoc]
  exact h.append h'

theorem Matched.append_hit {f : Place} (h : Matched l l') (h' : Hit f m m') :
    Hit f (l ++ m) (l' ++ m') := by
  obtain ⟨m₁, m₂, rfl, h'⟩ := h'
  refine ⟨l ++ m₁, m₂, (List.append_assoc ..).symm, ?_⟩
  rw [List.append_assoc]
  exact h.append h'

theorem AgreeAll.bodyAny (h : AgreeAll cs cs') {q : Node → Bool}
    (hq : ∀ {c c'}, Agree c c' → anyNode q c = anyNode q c') {kind : Kind} {span span' : Span} :
    Node.bodyAny q (.mk kind span cs) = Node.bodyAny q (.mk kind span' cs') := by
  rw [Node.bodyAny, Node.bodyAny, field?, field?]
  rcases h.lookup .body with ⟨hnone, hnone'⟩ | ⟨c, c', hc, hc', agree⟩
  · rw [children, children, hnone, hnone']
  · rw [children, children, hc, hc', Option.any_some, Option.any_some, hq agree]

theorem AgreeAll.bodyOwn (h : AgreeAll cs cs') (q : Kind → Bool) {kind : Kind}
    {span span' : Span} :
    Node.bodyOwn q (.mk kind span cs) = Node.bodyOwn q (.mk kind span' cs') := by
  rw [Node.bodyOwn, Node.bodyOwn, field?, field?]
  rcases h.lookup .body with ⟨hnone, hnone'⟩ | ⟨c, c', hc, hc', agree⟩
  · rw [children, children, hnone, hnone']
  · rw [children, children, hc, hc', Option.map_some, Option.map_some, agree.own]

theorem seen_mk {kind : Kind} {span span' : Span} (h : AgreeAll cs cs') :
    Seen (.mk kind span cs) (.mk kind span' cs') :=
  ⟨(agree_mk h).outline, h.bodyAny Agree.payment⟩

theorem alike_mk {kind : Kind} {span span' : Span} (h : AgreeAll cs cs')
    (around : Around above above') :
    Alike ⟨.mk kind span cs, above⟩ ⟨.mk kind span' cs', above'⟩ :=
  ⟨⟨(agree_mk h).outline, around⟩, h.bodyAny Agree.payment, h.bodyAny Agree.database,
    fun q => h.bodyOwn q⟩

mutual

/-- The places of trees that differ in their ranges go together. -/
theorem matched_bare : ∀ {n n' : Node} {above above' : List Step}, n.bare = n'.bare →
    Around above above' → Matched (Place.preorder above n) (Place.preorder above' n')
  | .mk kind span cs, n', above, above', h, around => by
      obtain ⟨span', cs', rfl, hcs⟩ := eq_mk_of_bare h
      have hagree := agreeAll_of_bare cs cs' hcs
      rw [Place.preorder, Place.preorder]
      exact .same (alike_mk hagree around) (matchedBelow_bare (seen_mk hagree) around hcs)

theorem matchedBelow_bare {parent parent' : Node} {above above' : List Step}
    (seen : Seen parent parent') (around : Around above above') :
    ∀ {cs cs' : List (Role × Node)} {number : Nat}, bareAll cs = bareAll cs' →
      Matched (Place.preorderBelow parent above number cs)
        (Place.preorderBelow parent' above' number cs')
  | [], cs', number, h => by
      rw [eq_nil_of_bareAll h]
      exact .nil
  | (r, c) :: more, cs', number, h => by
      obtain ⟨c', more', rfl, hc, hmore⟩ := eq_cons_of_bareAll h
      rw [Place.preorderBelow, Place.preorderBelow]
      exact (matched_bare hc (.step seen around)).append (matchedBelow_bare seen around hmore)

end

/-- A place is idle at which nothing is noticed. -/
theorem idle_of_not_isNoticed {p : Place} (h : isNoticed p.node = false) : Idle p := by
  rw [isNoticed, Bool.or_eq_false_iff, Bool.or_eq_false_iff, Bool.or_eq_false_iff] at h
  obtain ⟨⟨⟨hfunction, hchain⟩, -⟩, -⟩ := h
  refine ⟨fun hf => ?_, hchain⟩
  rw [hfunction] at hf
  cases hf

/-- The places of a wrapped body are those of the body and new ones, around which nothing is
reported: what is in the body sees the function past the new ones. -/
theorem matched_tried (quiet : IsQuiet handling) {f f' : Node} (isFunction : f.isFunction = true)
    (seen : Seen f f') (around : Around above above') {i : Nat}
    (h : (tried handling body).bare = n'.bare) :
    Matched (Place.preorder (⟨f, .body, i⟩ :: above) body)
      (Place.preorder (⟨f', .body, i⟩ :: above') n') := by
  obtain ⟨outer, tries, inner, handler, rfl, hinner, hhandler⟩ := eq_of_tried h
  have hnew : ∀ {kind : Kind} {span : Span} {cs : List (Role × Node)} {steps : List Step},
      isEntry kind = true ∨ kind = .block → Idle ⟨.mk kind span cs, steps⟩ := by
    intro kind span cs steps hkind
    apply idle_of_not_isNoticed
    rcases hkind with hentry | rfl
    · rcases isEntry_cases hentry with rfl | rfl
      all_goals rfl
    · rfl
  have hhandled : ∀ steps, Matched [] (Place.preorder steps handler) := fun steps =>
    matched_idle fun p hp => idle_of_not_isNoticed (not_isNoticed_of_quiet quiet hhandler hp)
  simp only [Place.preorder, Place.preorderBelow, List.append_nil]
  refine .extra (hnew (.inr rfl)) (.extra (hnew (.inl rfl)) ?_)
  rw [← List.append_nil (Place.preorder _ body)]
  refine Matched.append ?_ (hhandled _)
  rcases eq_of_asBlock hinner with hbody | ⟨block, returns, e, rfl, hbody⟩
  · refine matched_bare hbody (@Around.detour f f' .body i above above' _ [_] isFunction seen around
      rfl ?_)
    intro s hs
    rw [List.mem_singleton.mp hs]
    rfl
  · simp only [Place.preorder, Place.preorderBelow, List.append_nil]
    refine .extra (hnew (.inr rfl)) (.extra (hnew (.inl rfl)) ?_)
    refine matched_bare hbody (@Around.detour f f' .body i above above' _ [_, _, _] isFunction seen
      around rfl ?_)
    intro s hs
    simp only [List.mem_cons, List.not_mem_nil, or_false] at hs
    rcases hs with rfl | rfl | rfl
    all_goals rfl

/-- The places below a function and below the function with its body wrapped. -/
theorem matched_wrapBody (quiet : IsQuiet handling) {f f' : Node}
    (isFunction : f.isFunction = true) (seen : Seen f f') (around : Around above above')
    {number : Nat} (h : bareAll (changeFirst .body (tried handling) cs) = bareAll cs') :
    Matched (Place.preorderBelow f above number cs) (Place.preorderBelow f' above' number cs') := by
  induction cs generalizing cs' number with
  | nil =>
      rw [eq_nil_of_bareAll h]
      exact .nil
  | cons child more ih =>
      obtain ⟨r, c⟩ := child
      rw [changeFirst] at h
      by_cases hr : r = .body
      · rw [if_pos hr] at h
        obtain ⟨c', more', rfl, hc, hmore⟩ := eq_cons_of_bareAll h
        rw [Place.preorderBelow, Place.preorderBelow, hr]
        exact (matched_tried quiet isFunction seen around hc).append
          (matchedBelow_bare seen around hmore)
      · rw [if_neg hr] at h
        obtain ⟨c', more', rfl, hc, hmore⟩ := eq_cons_of_bareAll h
        rw [Place.preorderBelow, Place.preorderBelow]
        exact (matched_bare hc (.step seen around)).append (ih hmore)

theorem lookup_changeFirst {change : Node → Node} {r : Role} {c : Node} (hc : cs.lookup r = some c)
    (h : bareAll (changeFirst r change cs) = bareAll cs') :
    ∃ c', cs'.lookup r = some c' ∧ (change c).bare = c'.bare := by
  induction cs generalizing cs' with
  | nil => cases hc
  | cons child more ih =>
      obtain ⟨s, d⟩ := child
      rw [changeFirst] at h
      rw [List.lookup_cons] at hc
      by_cases hs : s = r
      · rw [if_pos hs] at h
        obtain ⟨d', more', rfl, hd, hmore⟩ := eq_cons_of_bareAll h
        rw [hs, beq_self_eq_true] at hc
        cases hc
        refine ⟨d', ?_, hd⟩
        rw [hs, List.lookup_cons_self]
      · rw [if_neg hs] at h
        obtain ⟨d', more', rfl, hd, hmore⟩ := eq_cons_of_bareAll h
        rw [beq_eq_false_iff_ne.mpr (Ne.symm hs)] at hc
        rw [List.lookup_cons, beq_eq_false_iff_ne.mpr (Ne.symm hs)]
        exact ih hc hmore

/-- A function goes with none: with its body wrapped, it is idle. -/
theorem hit_wrapBody (quiet : IsQuiet handling) {b : Node} (isFunction : n.isFunction = true)
    (hbody : n.field? .body = some b) (around : Around above above')
    (h : (wrapBody handling n).bare = n'.bare) :
    Hit ⟨n, above⟩ (Place.preorder above n) (Place.preorder above' n') := by
  have hagree := agree_wrapBody quiet isFunction h
  obtain ⟨kind, span, cs⟩ := n
  obtain ⟨span', cs', rfl, hcs⟩ := eq_mk_of_bare h
  obtain ⟨b', hb', hwrapped⟩ := lookup_changeFirst hbody hcs
  have hfunction' : (Node.mk kind span' cs').isFunction = true := isFunction
  have hidle : Idle ⟨.mk kind span' cs', above'⟩ := by
    refine ⟨fun _ => ?_, ?_⟩
    · rw [hasOwnTry_eq, decide_eq_true_iff, bodyOwn, field?]
      show 0 < ((cs'.lookup .body).map _).getD 0
      rw [hb']
      exact ownCount_tried hwrapped
    · show (Node.mk kind span' cs').isMethodCall _ = false
      rw [isMethodCall, (not_of_isFunction hfunction').1, Bool.false_and]
  have hseen : Seen (.mk kind span cs) (.mk kind span' cs') := by
    refine ⟨hagree.outline, ?_⟩
    rw [bodyAny, bodyAny, hbody, field?]
    show _ = Option.any _ (cs'.lookup .body)
    rw [hb']
    exact payment_tried quiet hwrapped
  refine ⟨[], Place.preorderBelow (.mk kind span cs) above 0 cs, ?_, ?_⟩
  · rw [Place.preorder, List.nil_append]
  · rw [List.nil_append, Place.preorder]
    exact .extra hidle (matched_wrapBody quiet isFunction hseen around hcs)

/-- The places below a node and below the node with one child changed. -/
theorem hit_modify {f : Place} {parent parent' : Node} (seen : Seen parent parent')
    (around : Around above above') {change : Node → Node} {i number : Nat} {c : Role × Node}
    (hc : cs[i]? = some c) (h : bareAll (cs.modify i fun c => (c.1, change c.2)) = bareAll cs')
    (hit : ∀ c', (change c.2).bare = c'.bare →
      Hit f (Place.preorder (⟨parent, c.1, number + i⟩ :: above) c.2)
        (Place.preorder (⟨parent', c.1, number + i⟩ :: above') c')) :
    Hit f (Place.preorderBelow parent above number cs)
      (Place.preorderBelow parent' above' number cs') := by
  induction cs generalizing i number cs' with
  | nil => cases hc
  | cons child more ih =>
      obtain ⟨r, d⟩ := child
      cases i with
      | zero =>
          cases hc
          rw [List.modify_zero_cons] at h
          obtain ⟨c', more', rfl, hc', hmore⟩ := eq_cons_of_bareAll h
          rw [Place.preorderBelow, Place.preorderBelow]
          exact (hit c' hc').append (matchedBelow_bare seen around hmore)
      | succ i =>
          rw [List.modify_succ_cons] at h
          obtain ⟨d', more', rfl, hd, hmore⟩ := eq_cons_of_bareAll h
          rw [Place.preorderBelow, Place.preorderBelow]
          refine (matched_bare hd (.step seen around)).append_hit (ih hc hmore fun c' hc' => ?_)
          rw [Nat.add_assoc, Nat.add_comm 1]
          exact hit c' hc'

/-- The places of a tree and of the tree with the body of a function wrapped. The induction is on
the way to the function; what is seen of the nodes on the way stays, since they agree. -/
theorem hit_changeAt (quiet : IsQuiet handling) {f : Place} {b : Node}
    (isFunction : f.node.isFunction = true) (hbody : f.node.field? .body = some b) {path : List Nat}
    (hdown : Place.down path ⟨n, above⟩ = some f) (around : Around above above')
    (h : (changeAt (wrapBody handling) path n).bare = n'.bare) :
    Hit f (Place.preorder above n) (Place.preorder above' n') := by
  induction path generalizing n n' above above' with
  | nil =>
      cases hdown
      exact hit_wrapBody quiet isFunction hbody around h
  | cons i path ih =>
      obtain ⟨kind, span, cs⟩ := n
      obtain ⟨span', cs', rfl, hcs⟩ := eq_mk_of_bare h
      obtain ⟨c, hc, hdown⟩ := exists_of_down hdown
      have hagree := agreeAll_modify hc hcs fun c' hc' => agree_changeAt quiet isFunction hdown hc'
      have hseen : Seen (.mk kind span cs) (.mk kind span' cs') := seen_mk hagree
      have hhit : Hit f (Place.preorderBelow (.mk kind span cs) above 0 cs)
          (Place.preorderBelow (.mk kind span' cs') above' 0 cs') := by
        refine hit_modify hseen around hc hcs fun c' hc' => ?_
        rw [Nat.zero_add]
        exact ih hdown (.step hseen around) hc'
      obtain ⟨l₁, l₂, hlist, hmatched⟩ := hhit
      rw [Place.preorder, Place.preorder]
      refine ⟨⟨.mk kind span cs, above⟩ :: l₁, l₂, ?_, .same (alike_mk hagree around) hmatched⟩
      rw [hlist, List.cons_append]

end Readiness.Rejection
