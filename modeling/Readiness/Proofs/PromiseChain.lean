import Mathlib.Data.List.Chain
import Readiness.Proofs.ChainRepair
import Readiness.Proofs.SilencedFunction

/-!
# One chain, one report, one repair

The calls of a chain are places, each of a method of what the one before comes to
(`MethodChain`). The detector and the repair both walk a chain from a `then` call up, and what
they meet is the rest of the chain (`chainAbove_of_isChain`). So of the `then` calls of
a chain only the last one can be reported; its repair is one handler, put where the chain
ends; and where that handler is called on the chain, every `then` call of it meets the
`catch` (`reported_chain`).

A chain that is a statement counts as handled if the statement behind it calls `catch`.
Statements are looked for in scripts and blocks. Those of a clause of a `switch` are in a list
as well, and there no chain counts as handled by what is behind it (`clause_reported`).
-/

namespace Readiness.Script

open Node

namespace Place

variable {path path' : List Nat} {n : Node} {above : List Step} {p q : Place}

/-! ## The way down to a place -/

theorem down_append (path path' : List Nat) (p : Place) :
    down (path ++ path') p = (down path p).bind (down path') := by
  induction path generalizing p with
  | nil => rfl
  | cons i path ih =>
      rw [List.cons_append, down, down]
      cases p.node.children[i]? with
      | none => rfl
      | some c => exact ih _

/-- The way down passes the same nodes, whatever is above the first of them. -/
theorem down_elsewhere (h : down path ⟨n, above⟩ = some p) :
    ∃ links, p.above = links ++ above ∧ links.map (·.number) = path.reverse ∧
      ∀ above', down path ⟨n, above'⟩ = some ⟨p.node, links ++ above'⟩ := by
  induction path generalizing n above with
  | nil =>
      cases h
      exact ⟨[], rfl, rfl, fun _ => rfl⟩
  | cons i path ih =>
      obtain ⟨c, hc, h⟩ := Rejection.exists_of_down h
      obtain ⟨links, habove, hnumbers, hdown⟩ := ih h
      refine ⟨links ++ [⟨n, c.1, i⟩], ?_, ?_, fun above' => ?_⟩
      · rw [habove, List.append_assoc]
        rfl
      · rw [List.map_append, hnumbers, List.reverse_cons]
        rfl
      · rw [down, hc, Option.bind_some, hdown, List.append_assoc]
        rfl

theorem address_of_down (h : down path (root n) = some p) : p.address = path.reverse := by
  obtain ⟨links, habove, hnumbers, -⟩ := down_elsewhere h
  rw [address, habove, List.append_nil, hnumbers]

theorem mem_preorderBelow {parent : Node} {children : List (Role × Node)} {number i : Nat}
    {c : Role × Node} (child : children[i]? = some c)
    (mem : p ∈ preorder (⟨parent, c.1, number + i⟩ :: above) c.2) :
    p ∈ preorderBelow parent above number children := by
  induction children generalizing number i with
  | nil => cases child
  | cons first more ih =>
      obtain ⟨r, d⟩ := first
      rw [preorderBelow, List.mem_append]
      cases i with
      | zero =>
          cases child
          exact .inl mem
      | succ i =>
          rw [← Nat.add_assoc, Nat.add_right_comm] at mem
          exact .inr (ih child mem)

theorem mem_of_down (h : down path ⟨n, above⟩ = some p) : p ∈ preorder above n := by
  induction path generalizing n above with
  | nil =>
      cases h
      obtain ⟨kind, span, children⟩ := n
      rw [preorder]
      exact List.mem_cons_self
  | cons i path ih =>
      obtain ⟨kind, span, children⟩ := n
      obtain ⟨c, hc, h⟩ := Rejection.exists_of_down h
      rw [preorder]
      refine List.mem_cons_of_mem _ (mem_preorderBelow hc ?_)
      rw [Nat.zero_add]
      exact ih h

theorem down_address {s : Script} (mem : p ∈ s.places) :
    down p.address.reverse (root s.program) = some p := by
  obtain ⟨path, hdown, haddress⟩ := down_of_mem_preorder (Script.mem_places.mp mem)
  rwa [haddress, List.map_nil, List.append_nil, List.reverse_reverse]

theorem mem_places_of_down {s : Script} (h : down path (root s.program) = some p) :
    p ∈ s.places :=
  Script.mem_places.mpr (mem_of_down h)

theorem parent_mem {s : Script} (mem : p ∈ s.places) (parent : p.parent? = some q) :
    q ∈ s.places := by
  have hdown := down_address mem
  obtain ⟨node, steps⟩ := p
  cases steps with
  | nil => cases parent
  | cons st more =>
      cases parent
      rw [address, List.map_cons, List.reverse_cons, down_append] at hdown
      obtain ⟨q, hq, hlast⟩ := Option.bind_eq_some_iff.mp hdown
      obtain ⟨c, -, hc⟩ := Rejection.exists_of_down hlast
      obtain ⟨-, hsteps⟩ := Place.mk.inj (Option.some.inj hc)
      obtain ⟨hst, rfl⟩ := List.cons.inj hsteps
      rw [← congrArg Step.parent hst]
      exact mem_places_of_down hq

/-- Where a change is made, the way down leads to what is changed. -/
theorem down_changeAt (change : Node → Node) (h : down path ⟨n, above⟩ = some p)
    (above' : List Step) :
    ∃ steps, down path ⟨changeAt change path n, above'⟩ = some ⟨change p.node, steps⟩ := by
  induction path generalizing n above above' with
  | nil =>
      cases h
      exact ⟨above', rfl⟩
  | cons i path ih =>
      obtain ⟨kind, span, children⟩ := n
      obtain ⟨c, hc, h⟩ := Rejection.exists_of_down h
      have hchanged : (children.modify i fun c => (c.1, changeAt change path c.2))[i]? =
          some (c.1, changeAt change path c.2) := by
        rw [List.getElem?_modify_eq]
        exact congrArg (Option.map _) hc
      rw [changeAt, down]
      dsimp only [Node.children]
      rw [hchanged]
      exact ih h _

end Place

theorem Node.getElem?_of_bareAll {cs cs' : List (Role × Node)} {i : Nat} {c : Role × Node}
    (bare : bareAll cs = bareAll cs') (child : cs[i]? = some c) :
    ∃ c', cs'[i]? = some (c.1, c') ∧ c.2.bare = c'.bare := by
  induction cs generalizing cs' i with
  | nil => cases child
  | cons first more ih =>
      obtain ⟨r, d⟩ := first
      obtain ⟨d', rest, rfl, hd, hmore⟩ := eq_cons_of_bareAll bare
      cases i with
      | zero =>
          cases child
          exact ⟨d', rfl, hd⟩
      | succ i =>
          obtain ⟨c', hc', hbare⟩ := ih hmore child
          exact ⟨c', hc', hbare⟩

end Readiness.Script

namespace Readiness.Rejection

open Script Node Repair

/-- In trees that differ in ranges only, the same way down leads to places that are alike. -/
theorem down_alike {path : List Nat} {n n' : Node} {above above' : List Step} {p : Place}
    (bare : n.bare = n'.bare) (around : Around above above')
    (h : Place.down path ⟨n, above⟩ = some p) :
    ∃ p', Place.down path ⟨n', above'⟩ = some p' ∧ p.node.bare = p'.node.bare ∧ SeenAlike p p' := by
  induction path generalizing n n' above above' with
  | nil =>
      cases h
      exact ⟨⟨n', above'⟩, rfl, bare, (agree_of_bare n n' bare).outline, around⟩
  | cons i path ih =>
      obtain ⟨kind, span, cs⟩ := n
      obtain ⟨span', cs', rfl, hcs⟩ := eq_mk_of_bare bare
      obtain ⟨c, hc, h⟩ := exists_of_down h
      obtain ⟨c', hc', hbare⟩ := getElem?_of_bareAll hcs hc
      have hseen : Seen (.mk kind span cs) (.mk kind span' cs') :=
        ⟨(agree_of_bare _ _ bare).outline, (agreeAll_of_bare cs cs' hcs).bodyAny Agree.payment⟩
      obtain ⟨p', hdown, halike⟩ := ih hbare (.step hseen around) h
      refine ⟨p', ?_, halike⟩
      rw [Place.down]
      dsimp only [Node.children]
      rw [hc']
      exact hdown

/-! ## Chains -/

/-- The second place calls a method of what the first one comes to. -/
inductive CalledOn : Place → Place → Prop where
  | intro {n : Node} {m c : Step} {more : List Step} (link : linked m c = true) :
      CalledOn ⟨n, m :: c :: more⟩ ⟨c.parent, more⟩

/-- A chain of method calls of a script, which ends with the last call. -/
structure MethodChain (s : Script) (calls : List Place) (top : Place) : Prop where
  mem : ∀ p ∈ calls, p ∈ s.places
  called : calls.IsChain CalledOn
  last : calls.getLast? = some top
  ended : ∀ d, ¬ CalledOn top d

variable {s s' : Script} {calls behind : List Place} {p q top : Place}

theorem not_calledOn_iff : (∀ d, ¬ CalledOn p d) ↔ p.chainAbove = [] := by
  obtain ⟨n, above⟩ := p
  constructor
  · intro h
    rw [Place.chainAbove]
    cases above using Place.chainAbove.go.induct with
    | case1 m c more hlink => exact absurd (.intro hlink) (h _)
    | case2 m c more hlink => exact chainAbove_of_not_linked hlink
    | case3 above hshort =>
        rw [Place.chainAbove.go]
        exact hshort
  · intro h d hd
    cases hd with
    | intro link =>
        rw [Place.chainAbove, chainAbove_of_linked link] at h
        cases h

/-- What the walk up from a call meets is a chain. -/
theorem isChain_chainAbove (n : Node) (above : List Step) :
    (⟨n, above⟩ :: (Place.chainAbove.go above).map (·.2)).IsChain CalledOn := by
  induction above using Place.chainAbove.go.induct generalizing n with
  | case1 m c more hlink ih =>
      rw [chainAbove_of_linked hlink]
      exact List.isChain_cons_cons.mpr ⟨.intro hlink, ih c.parent⟩
  | case2 m c more hlink =>
      rw [chainAbove_of_not_linked hlink]
      exact List.IsChain.singleton _
  | case3 above hshort =>
      rw [Place.chainAbove.go]
      · exact List.IsChain.singleton _
      · exact hshort

/-- The walk up from a call of a chain meets the rest of the chain. -/
theorem chainAbove_of_isChain (called : (p :: behind).IsChain CalledOn)
    (last : (p :: behind).getLast? = some top) (ended : ∀ d, ¬ CalledOn top d) :
    p.chainAbove.map (·.2) = behind := by
  induction behind generalizing p with
  | nil =>
      obtain rfl : p = top := Option.some.inj last
      rw [not_calledOn_iff.mp ended]
      rfl
  | cons d behind ih =>
      obtain ⟨hfirst, hmore⟩ := List.isChain_cons_cons.mp called
      rw [List.getLast?_cons_cons] at last
      have hrest := ih hmore last
      cases hfirst with
      | intro link =>
          rw [Place.chainAbove, chainAbove_of_linked link, List.map_cons]
          exact congrArg (List.cons _) hrest

theorem chainTop_of_isChain (called : (p :: behind).IsChain CalledOn)
    (last : (p :: behind).getLast? = some top) (ended : ∀ d, ¬ CalledOn top d) :
    p.chainTop = top := by
  have hbehind := chainAbove_of_isChain called last ended
  rw [List.getLast?_cons, ← hbehind, List.getLast?_map] at last
  exact Option.some.inj last

theorem mem_of_isChain (called : (p :: behind).IsChain CalledOn) (mem : p ∈ s.places) :
    ∀ d ∈ p :: behind, d ∈ s.places := by
  induction behind generalizing p with
  | nil => exact List.forall_mem_singleton.mpr mem
  | cons d behind ih =>
      obtain ⟨hfirst, hmore⟩ := List.isChain_cons_cons.mp called
      cases hfirst with
      | intro link =>
          exact List.forall_mem_cons.mpr
            ⟨mem, ih hmore (Place.parent_mem (Place.parent_mem mem rfl) rfl)⟩

/-- No method is called on the last call that the walk up meets. -/
theorem chainAbove_chainTop (n : Node) (above : List Step) :
    (Place.chainTop ⟨n, above⟩).chainAbove = [] := by
  induction above using Place.chainAbove.go.induct generalizing n with
  | case1 m c more hlink ih =>
      have htop : Place.chainTop ⟨n, m :: c :: more⟩ = Place.chainTop ⟨c.parent, more⟩ := by
        rw [Place.chainTop, Place.chainAbove, chainAbove_of_linked hlink, Place.chainTop,
          Place.chainAbove, List.getLast?_cons]
        cases (Place.chainAbove.go more).getLast? <;> rfl
      rw [htop]
      exact ih c.parent
  | case2 m c more hlink =>
      have hnone : (⟨n, m :: c :: more⟩ : Place).chainAbove = [] := chainAbove_of_not_linked hlink
      rw [Place.chainTop, hnone]
      exact hnone
  | case3 above hshort =>
      have hnone : (⟨n, above⟩ : Place).chainAbove = [] := by
        rw [Place.chainAbove, Place.chainAbove.go]
        exact hshort
      rw [Place.chainTop, hnone]
      exact hnone

/-- From every place of a script goes a chain, of that place alone if it comes to nothing that a
method is called on. -/
theorem methodChain_of_mem (mem : p ∈ s.places) :
    MethodChain s (p :: p.chainAbove.map (·.2)) p.chainTop := by
  have hcalled := isChain_chainAbove p.node p.above
  refine ⟨mem_of_isChain hcalled mem, hcalled, ?_,
    not_calledOn_iff.mpr (chainAbove_chainTop p.node p.above)⟩
  rw [List.getLast?_cons, List.getLast?_map, Place.chainTop]

/-! ## When a call is reported -/

/-- Whether a node is a statement that is an expression. -/
def isExpressionStatement (n : Node) : Bool :=
  match n.kind with
  | .expressionStatement _ => true
  | _ => false

/-- Whether a statement is one of a clause of a `switch`. -/
def isOfClause (p : Place) : Bool :=
  p.above.head?.any fun s =>
    match s.parent.kind with
    | .switchCase => s.role == .consequent
    | _ => false

/-- The statement behind a statement of a script, of a block or of a clause of a `switch`. -/
def statementBehind? (p : Place) : Option Node :=
  if isOfClause p then
    p.above.head?.bind fun s => (s.parent.children[s.number + 1]?).map (·.2)
  else p.nextStatement?

/-- Whether a call is a statement, and the statement behind it calls `catch`. -/
def isCaughtBehind (top : Place) : Bool :=
  top.parent?.any fun p => isExpressionStatement p.node && (statementBehind? p).any catches

/-- Whether a call is a statement of a clause of a `switch`. -/
def isInClause (top : Place) : Bool := top.parent?.any isOfClause

/-- In a clause, no statement is found behind another one. -/
theorem nextStatement?_eq (p : Place) :
    p.nextStatement? = if isOfClause p then none else statementBehind? p := by
  by_cases h : isOfClause p = true
  · rw [if_pos h]
    obtain ⟨node, steps⟩ := p
    cases steps with
    | nil => cases h
    | cons st more =>
        rw [isOfClause, List.head?_cons, Option.any_some] at h
        rw [Place.nextStatement?]
        dsimp only
        split at h
        · next hkind => rw [hkind]
        · cases h
  · rw [if_neg h, statementBehind?, if_neg h]

theorem caughtBehind_eq (p : Place) :
    p.parent?.any caughtBehind = (isCaughtBehind p && !isInClause p) := by
  rw [isCaughtBehind, isInClause]
  cases p.parent? with
  | none => rfl
  | some statement =>
      have hkind : caughtBehind statement =
          (isExpressionStatement statement.node && statement.nextStatement?.any catches) := by
        rw [caughtBehind, isExpressionStatement, Place.kind]
        cases statement.node.kind <;> rfl
      rw [Option.any_some, Option.any_some, Option.any_some, hkind, nextStatement?_eq]
      cases isOfClause statement with
      | true => rw [if_pos rfl, Option.any_none, Bool.and_false, Bool.not_true, Bool.and_false]
      | false => rw [if_neg Bool.false_ne_true, Bool.not_false, Bool.and_true]

theorem any_chainAbove (steps : Place.ComesFromCallees p.node p.above) (name : Text) :
    p.chainAbove.any (fun c => c.1 == some name) =
      (p.chainAbove.map (·.2)).any fun d => d.node.isMethodCall name := by
  rw [List.any_map, Bool.eq_iff_iff, List.any_eq_true, List.any_eq_true]
  refine exists_congr fun c => and_congr_right fun hc => ?_
  rw [Function.comp_apply, Place.isMethodCall_of_mem_chainAbove steps hc]

/-- A call of a chain is one after which rejections pass just if it is the last `then` call of the
chain, has no second argument, and no `catch` call follows on the chain or behind it. -/
theorem letsRejectionsPass_iff (steps : Place.ComesFromCallees p.node p.above)
    (called : (p :: behind).IsChain CalledOn) (last : (p :: behind).getLast? = some top)
    (ended : ∀ d, ¬ CalledOn top d) :
    letsRejectionsPass p = true ↔
      p.node.isMethodCall "then" = true ∧ p.node.arguments.length < 2 ∧
      (∀ d ∈ behind, d.node.isMethodCall "then" = false ∧ d.node.isMethodCall "catch" = false) ∧
      (isCaughtBehind top = true → isInClause top = true) := by
  have hbehind := chainAbove_of_isChain called last ended
  have htop := chainTop_of_isChain called last ended
  have hlast : isLastThen p = !behind.any fun d => d.node.isMethodCall "then" := by
    rw [← hbehind, ← any_chainAbove steps, isLastThen, List.not_any_eq_all_not]
    rfl
  have hcatch : catchFollows p =
      ((behind.any fun d => d.node.isMethodCall "catch") ||
        (isCaughtBehind top && !isInClause top)) := by
    rw [catchFollows_eq, htop, caughtBehind_eq, ← hbehind, ← any_chainAbove steps, List.any_map]
    rfl
  rw [letsRejectionsPass, hlast, hcatch]
  simp only [Bool.and_eq_true, decide_eq_true_iff, Bool.not_eq_true', Bool.or_eq_false_iff,
    List.any_eq_false, Bool.and_eq_false_iff, Bool.not_eq_false', Bool.not_eq_true]
  constructor
  · rintro ⟨⟨⟨hthen, hfew⟩, hlast⟩, hcatch, hbehind⟩
    refine ⟨hthen, hfew, fun d hd => ⟨hlast d hd, hcatch d hd⟩, fun hcaught => ?_⟩
    exact hbehind.resolve_left (Bool.not_eq_false _ ▸ hcaught)
  · rintro ⟨hthen, hfew, hrest, hbehind⟩
    refine ⟨⟨⟨hthen, hfew⟩, fun d hd => (hrest d hd).1⟩, fun d hd => (hrest d hd).2, ?_⟩
    cases hcaught : isCaughtBehind top with
    | false => exact .inl rfl
    | true => exact .inr (hbehind hcaught)

/-! ## The tree with a handler -/

/-- The call of a method of what a node comes to. -/
def methodCall (name : Text) (arguments : List Node) (n : Node) : Node :=
  .mk .call default
    ((.callee, .mk (.member false) default
      [(.memberObject, n), (.memberProperty, .mk (.identifier name) default [])]) ::
        arguments.map (Prod.mk .argument))

/-- The steps from a call of a chain up to the last one. -/
inductive Linked : List Step → Prop where
  | nil : Linked []
  | cons {m c : Step} {more : List Step} (link : linked m c = true) (rest : Linked more) :
      Linked (m :: c :: more)

theorem linked_of_isChain (called : (p :: behind).IsChain CalledOn)
    (last : (p :: behind).getLast? = some top) :
    ∃ links, Linked links ∧ p.above = links ++ top.above := by
  induction behind generalizing p with
  | nil =>
      obtain rfl : p = top := Option.some.inj last
      exact ⟨[], .nil, rfl⟩
  | cons d behind ih =>
      obtain ⟨hfirst, hmore⟩ := List.isChain_cons_cons.mp called
      rw [List.getLast?_cons_cons] at last
      obtain ⟨links, hlinks, habove⟩ := ih hmore last
      cases hfirst with
      | @intro n m c more link =>
          refine ⟨m :: c :: links, .cons link hlinks, ?_⟩
          rw [List.cons_append, List.cons_append, ← habove]

/-- The walk up from a call goes on behind what was the last call of the chain. -/
theorem mem_chainAbove_of_linked {links : List Step} (h : Linked links) {m c : Step}
    (link : linked m c = true) (n : Node) (more : List Step) :
    (m.parent.propertyName?, (⟨c.parent, more⟩ : Place)) ∈
      Place.chainAbove ⟨n, links ++ m :: c :: more⟩ := by
  rw [Place.chainAbove]
  induction h with
  | nil =>
      rw [List.nil_append, chainAbove_of_linked link]
      exact List.mem_cons_self
  | cons first _ ih =>
      rw [List.cons_append, List.cons_append, chainAbove_of_linked first]
      exact List.mem_cons_of_mem _ ih

theorem not_letsRejectionsPass_of_caught {found : Place}
    (caught : (some (Text.ofString "catch"), found) ∈ p.chainAbove) :
    letsRejectionsPass p = false := by
  have hcatch : catchFollows p = true := by
    rw [catchFollows, Bool.or_eq_true]
    exact .inl (List.any_eq_true.mpr ⟨_, caught, beq_self_eq_true _⟩)
  rw [letsRejectionsPass, hcatch, Bool.not_true, Bool.and_false]

/-- Where `catch` is called on the last call of a chain, no call of the chain is reported. They are
all still there, two steps further down. -/
theorem caught_chain (handling : List Node) (called : (p :: behind).IsChain CalledOn)
    (last : (p :: behind).getLast? = some top) (mem : p ∈ s.places) (memTop : top ∈ s.places)
    (caught : s'.program.bare = (s.program.changeAt (methodCall "catch" handling)
      top.address.reverse).bare) :
    ∃ below, p.address.reverse = top.address.reverse ++ below ∧ ∃ p' ∈ s'.places,
      p'.address.reverse = top.address.reverse ++ 0 :: 0 :: below ∧
      p'.node.bare = p.node.bare ∧ letsRejectionsPass p' = false := by
  obtain ⟨links, hlinks, habove⟩ := linked_of_isChain called last
  have haddress : p.address.reverse =
      top.address.reverse ++ (links.map (·.number)).reverse := by
    rw [Place.address, habove, List.map_append, List.reverse_append, Place.address]
  refine ⟨(links.map (·.number)).reverse, haddress, ?_⟩
  -- The way from the last call down to this one passes the same nodes in the new tree.
  have hdown := Place.down_address mem
  rw [haddress, Place.down_append, Place.down_address memTop, Option.bind_some] at hdown
  obtain ⟨steps, hsteps, -, hbelow⟩ := Place.down_elsewhere hdown
  obtain rfl : links = steps := List.append_cancel_right (habove.symm.trans hsteps)
  obtain ⟨above, htop⟩ := Place.down_changeAt (methodCall "catch" handling)
    (Place.down_address memTop) []
  have hnew : Place.down (top.address.reverse ++ 0 :: 0 :: (links.map (·.number)).reverse)
      (.root (s.program.changeAt (methodCall "catch" handling) top.address.reverse)) =
        some ⟨p.node, links ++ ⟨.mk (.member false) default [(.memberObject, top.node),
          (.memberProperty, .mk (.identifier "catch") default [])], .memberObject, 0⟩ ::
          ⟨methodCall "catch" handling top.node, .callee, 0⟩ :: above⟩ := by
    rw [Place.down_append, Place.root, htop]
    exact hbelow _
  obtain ⟨p', hp', hbare, halike⟩ := down_alike caught.symm .root hnew
  refine ⟨p', Place.mem_places_of_down hp', ?_, hbare.symm, ?_⟩
  · rw [Place.address_of_down hp', List.reverse_reverse]
  · rw [← letsRejectionsPass_alike halike]
    exact not_letsRejectionsPass_of_caught (mem_chainAbove_of_linked hlinks rfl _ _)

/-! ## One chain -/

/-- Whether one of the issues is what is told about a call. -/
def IsReported (s : Script) (context : Readiness.Context) (file : Text) (issues : List Issue)
    (p : Place) : Prop :=
  ∃ i ∈ issues, chainIssue? s context file p = .ok (some i)

variable {context : Readiness.Context} {file : Text} {extra : List Text} {issues : List Issue}

theorem isReported_iff (detected : (detector extra).detect s context file = .ok issues)
    (mem : p ∈ s.places) :
    IsReported s context file issues p ↔ letsRejectionsPass p = true := by
  constructor
  · rintro ⟨i, -, hi⟩
    exact (chainIssue_ok hi).1
  · intro hpass
    obtain ⟨functions, chains, -, hchains, rfl⟩ := detect_eq_ok.mp detected
    obtain ⟨hfound, rfl⟩ := filterMapM_eq_ok.mp hchains
    obtain ⟨o, ho⟩ := hfound p mem
    rcases chainIssue?_eq_ok.mp ho with ⟨hnot, -⟩ | ⟨-, -, i, -, -, rfl⟩
    · rw [hpass] at hnot
      cases hnot
    · refine ⟨i, List.mem_append_right _ (List.mem_filterMap.mpr ⟨p, mem, ?_⟩), ho⟩
      rw [foundBy, ho]
      rfl

theorem MethodChain.rest (chain : MethodChain s calls top) {front : List Place}
    (split : calls = front ++ p :: behind) :
    (p :: behind).IsChain CalledOn ∧ (p :: behind).getLast? = some top := by
  subst split
  refine ⟨chain.called.right_of_append, ?_⟩
  have hlast := chain.last
  rwa [List.getLast?_append_of_ne_nil _ (List.cons_ne_nil p behind)] at hlast

theorem MethodChain.mem_top (chain : MethodChain s calls top) : top ∈ s.places :=
  chain.mem top (List.mem_of_getLast? chain.last)

theorem MethodChain.letsRejectionsPass_iff (chain : MethodChain s calls top)
    (one : s.program.hasOneCallee = true) {front : List Place}
    (split : calls = front ++ p :: behind) :
    letsRejectionsPass p = true ↔
      p.node.isMethodCall "then" = true ∧ p.node.arguments.length < 2 ∧
      (∀ d ∈ behind, d.node.isMethodCall "then" = false ∧ d.node.isMethodCall "catch" = false) ∧
      (isCaughtBehind top = true → isInClause top = true) := by
  obtain ⟨hcalled, hlast⟩ := chain.rest split
  have hmem := chain.mem p (split ▸ List.mem_append_right front List.mem_cons_self)
  exact Rejection.letsRejectionsPass_iff (comesFromCallees_places one hmem) hcalled hlast chain.ended

/-- Behind a call of a chain after which rejections pass there is no other one. -/
theorem MethodChain.not_mem_behind (chain : MethodChain s calls top)
    (one : s.program.hasOneCallee = true) {front : List Place}
    (split : calls = front ++ p :: behind) (passes : letsRejectionsPass p = true)
    (passes' : letsRejectionsPass q = true) : q ∉ behind := by
  intro hq
  have hnot := (((chain.letsRejectionsPass_iff one split).mp passes).2.2.1 q hq).1
  rw [letsRejectionsPass, hnot] at passes'
  cases passes'

theorem MethodChain.eq_of_passes (chain : MethodChain s calls top)
    (one : s.program.hasOneCallee = true) (memp : p ∈ calls) (memq : q ∈ calls)
    (passes : letsRejectionsPass p = true) (passes' : letsRejectionsPass q = true) : p = q := by
  obtain ⟨front, behind, hsplit⟩ := List.append_of_mem memp
  rw [hsplit, List.mem_append, List.mem_cons] at memq
  rcases memq with hfront | rfl | hbehind
  · obtain ⟨first, rest, rfl⟩ := List.append_of_mem hfront
    rw [List.append_assoc, List.cons_append] at hsplit
    exact absurd (List.mem_append_right rest List.mem_cons_self)
      (chain.not_mem_behind one hsplit passes' passes)
  · rfl
  · exact absurd hbehind (chain.not_mem_behind one hsplit passes passes')

/-- The repair that comes to a call after which rejections pass puts a handler at the end of its
chain. -/
theorem proposeHandler_of_passes (steps : Place.ComesFromCallees p.node p.above)
    (passes : letsRejectionsPass p = true) {i : Issue}
    (found : nearest? (s.places.filter fun p => p.node.isMethodCall "then") i.line i.column =
      some p) :
    ∃ explanation, proposeHandler s i =
      .ok ⟨[Edit.insert p.chainTop.node.stop handlerText], explanation⟩ := by
  have hnot := handlesRejections_of_letsRejectionsPass steps passes
  rw [proposeHandler, found]
  dsimp only
  rw [chainProposal, hnot]
  exact ⟨_, rfl⟩

/-- Of the calls of a chain at most one is reported, in a tree whose calls have one callee each, as
those that are parsed have (`Script.parse_hasOneCallee`). It is the last `then` call, and it is
reported just if it has fewer than two arguments, no `catch` call follows it on the chain, and the
chain is not a statement behind which another one calls `catch`; in a clause of a `switch`,
statements behind the chain do not count. A repair that comes to the reported call puts a handler at
the end of the chain and does nothing else. In a tree in which `catch` is called there, and that is
the same otherwise but for ranges, nothing is reported of any call of the chain. -/
theorem reported_chain (one : s.program.hasOneCallee = true)
    (detected : (detector extra).detect s context file = .ok issues)
    (chain : MethodChain s calls top) :
    (∀ p ∈ calls, ∀ q ∈ calls, IsReported s context file issues p →
      IsReported s context file issues q → p = q) ∧
    (∀ front p behind, calls = front ++ p :: behind →
      (IsReported s context file issues p ↔
        p.node.isMethodCall "then" = true ∧ p.node.arguments.length < 2 ∧
        (∀ d ∈ behind, d.node.isMethodCall "then" = false ∧ d.node.isMethodCall "catch" = false) ∧
        (isCaughtBehind top = true → isInClause top = true)) ∧
      (IsReported s context file issues p → ∀ i : Issue,
        nearest? (s.places.filter fun p => p.node.isMethodCall "then") i.line i.column = some p →
        ∃ explanation, proposeHandler s i =
          .ok ⟨[Edit.insert top.node.stop handlerText], explanation⟩)) ∧
    ∀ (s' : Script) (handling : List Node), s'.program.bare =
        (s.program.changeAt (methodCall "catch" handling) top.address.reverse).bare →
      ∀ p ∈ calls, ∃ below, p.address.reverse = top.address.reverse ++ below ∧ ∃ p' ∈ s'.places,
        p'.address.reverse = top.address.reverse ++ 0 :: 0 :: below ∧
        p'.node.bare = p.node.bare ∧
        ∀ context file, chainIssue? s' context file p' = .ok none := by
  refine ⟨fun p hp q hq hreported hreported' => ?_, fun front p behind hsplit => ?_,
    fun s' handling hcaught p hp => ?_⟩
  · exact chain.eq_of_passes one hp hq ((isReported_iff detected (chain.mem p hp)).mp hreported)
      ((isReported_iff detected (chain.mem q hq)).mp hreported')
  · have hmem := chain.mem p (hsplit ▸ List.mem_append_right front List.mem_cons_self)
    rw [isReported_iff detected hmem]
    refine ⟨chain.letsRejectionsPass_iff one hsplit, fun hpasses i hfound => ?_⟩
    obtain ⟨hcalled, hlast⟩ := chain.rest hsplit
    rw [← chainTop_of_isChain hcalled hlast chain.ended]
    exact proposeHandler_of_passes (comesFromCallees_places one hmem) hpasses hfound
  · obtain ⟨front, behind, hsplit⟩ := List.append_of_mem hp
    obtain ⟨hcalled, hlast⟩ := chain.rest hsplit
    obtain ⟨below, haddress, p', hp', haddress', hbare, hnot⟩ :=
      caught_chain handling hcalled hlast (chain.mem p hp) chain.mem_top hcaught
    exact ⟨below, haddress, p', hp', haddress', hbare, fun context file =>
      chainIssue?_eq_ok.mpr (.inl ⟨hnot, rfl⟩)⟩

/-! A chain of three calls, of which the second one is reported. -/

namespace Chained

def text : Text := "p.then(f).then(g).finally(h)"

def repaired : Text := text ++ handlerText

/-- The handler that the repair writes. -/
def handler : Node :=
  .mk (.arrowFunction false) default
    ((.param, nameNode "error") ::
      ((reportNode "Promise rejected:").fields .expression).map (Prod.mk .body))

/-- Whether a place is the first call of the chain, and the tree of the other text is the one where
`catch` is called on the last call. -/
def isRepaired (p : Place) : Bool :=
  match p.chainAbove with
  | [(_, q), (_, top)] =>
    q.node.isMethodCall "then" && decide (q.node.arguments.length < 2) &&
      !top.node.isMethodCall "then" && !top.node.isMethodCall "catch" && !isCaughtBehind top &&
      repaired == text.take top.node.stop ++ handlerText ++ text.drop top.node.stop &&
      sameTree (Script.ofText repaired).program
        ((Script.ofText text).program.changeAt (methodCall "catch" [handler]) top.address.reverse)
  | _ => false

theorem facts : Script.isPlain text = true ∧ Script.isRead repaired = true ∧
    (∃ p ∈ (Script.ofText text).places, isRepaired p = true) ∧
    (∀ p ∈ (Script.ofText text).places, Silenced.isNamed p = true) ∧
    (Script.ofText text).text.IsEncodable ∧ (slashed "a.js").IsEncodable := by
  unfold isRepaired repaired text handlerText
  repeat rw [Text.ofString_ofList]
  decide +kernel

end Chained

theorem reported_chain_sample :
    ∃ s s' p q top issues, Script.parse Chained.text = .ok (.ok s) ∧
      Script.parse Chained.repaired = .ok (.ok s') ∧ MethodChain s [p, q, top] top ∧
      Chained.repaired = Chained.text.take top.node.stop ++ handlerText ++
        Chained.text.drop top.node.stop ∧
      (detector []).detect s {} "a.js" = .ok issues ∧ IsReported s {} "a.js" issues q ∧
      (∀ r ∈ [p, q, top], IsReported s {} "a.js" issues r → r = q) ∧
      ∀ r ∈ [p, q, top], ∃ r' ∈ s'.places, r'.node.bare = r.node.bare ∧
        chainIssue? s' {} "a.js" r' = .ok none := by
  obtain ⟨hplain, hread, ⟨p, hp, hrepaired⟩, hnamed, hwritten, hfile⟩ := Chained.facts
  have hchain := methodChain_of_mem hp
  rw [Chained.isRepaired] at hrepaired
  split at hrepaired
  · next _ q _ top habove =>
      have htop : p.chainTop = top := by rw [Place.chainTop, habove]; rfl
      rw [habove, htop] at hchain
      simp only [Bool.and_eq_true, Bool.not_eq_true', decide_eq_true_iff, beq_iff_eq] at hrepaired
      obtain ⟨⟨⟨⟨⟨⟨hthen, hfew⟩, hlast⟩, hcatch⟩, hcaught⟩, htext⟩, hsame⟩ := hrepaired
      obtain ⟨issues, hissues⟩ := @exists_detect "a.js" {} [] _
        (fun p hp => Bool.and_eq_true_iff.mp (hnamed p hp)) hfile hwritten
      have hparse := Script.parse_of_isPlain hplain
      obtain ⟨hsingle, hwhen, hsilent⟩ :=
        reported_chain (Script.parse_hasOneCallee hparse) hissues hchain
      have hreported := ((hwhen [p] q [top] rfl).1).mpr ⟨hthen, hfew,
        List.forall_mem_singleton.mpr ⟨hlast, hcatch⟩, fun h => by rw [hcaught] at h; cases h⟩
      refine ⟨_, _, p, q, top, issues, hparse, Script.parse_of_isRead hread, hchain, htext, hissues,
        hreported, fun r hr h => hsingle r hr q ?_ h hreported, fun r hr => ?_⟩
      · exact List.mem_cons_of_mem p List.mem_cons_self
      · obtain ⟨-, -, r', hr', -, hbare, hnone⟩ :=
          hsilent _ [Chained.handler] (bare_of_sameTree _ _ hsame) r hr
        exact ⟨r', hr', hbare, hnone {} "a.js"⟩
  · cases hrepaired

/-! A chain that is a statement of a clause. -/

namespace Clause

def text : Text := "switch(x){case 1:p.then(f);q.catch(g)}"

/-- Whether a place is a reported chain of one call with a statement behind it that calls `catch`. -/
def isCaught (p : Place) : Bool :=
  p.chainAbove.isEmpty && isCaughtBehind p && letsRejectionsPass p

theorem facts : Script.isPlain text = true ∧
    (∃ p ∈ (Script.ofText text).places, isCaught p = true) ∧
    (∀ p ∈ (Script.ofText text).places, Silenced.isNamed p = true) ∧
    (Script.ofText text).text.IsEncodable ∧ (slashed "input.js").IsEncodable := by
  rw [text, Text.ofString_ofList]
  decide +kernel

end Clause

/-- In a clause of a `switch`, a chain is reported that is a statement directly in front of one that
calls `catch`. -/
theorem clause_reported :
    ∃ s p issues, Script.parse Clause.text = .ok (.ok s) ∧ MethodChain s [p] p ∧
      isCaughtBehind p = true ∧ (detector []).detect s {} "input.js" = .ok issues ∧
      IsReported s {} "input.js" issues p := by
  obtain ⟨hplain, ⟨p, hp, hcaught⟩, hnamed, hwritten, hfile⟩ := Clause.facts
  rw [Clause.isCaught, Bool.and_eq_true, Bool.and_eq_true, List.isEmpty_iff] at hcaught
  obtain ⟨⟨habove, hcaught⟩, hpasses⟩ := hcaught
  have hchain := methodChain_of_mem hp
  have htop : p.chainTop = p := by rw [Place.chainTop, habove]; rfl
  rw [habove, htop] at hchain
  obtain ⟨issues, hissues⟩ := @exists_detect "input.js" {} [] _
    (fun p hp => Bool.and_eq_true_iff.mp (hnamed p hp)) hfile hwritten
  exact ⟨_, p, issues, Script.parse_of_isPlain hplain, hchain, hcaught, hissues,
    (isReported_iff hissues hp).mpr hpasses⟩

end Readiness.Rejection
