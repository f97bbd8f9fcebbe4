import Readiness.Proofs.TreeOutline

/-!
# Trees and places that are seen alike

Two trees agree if they have the same outline, the same names in them as far as payments
and databases go, and the same code of their own (`Agree`). Trees that differ in ranges
alone agree, and so do trees whose parts agree.

A place sees the steps above it. The surroundings of two places are alike if these steps
are the same as far as they are seen (`Around`), where the step from a body to its function
may take a detour through statements that were put around the body: a `try`, or a
`return` of an expression. The name of a function, the wrapper that catches for it, a chain
of calls with the statement behind it and the nearest function around come out the same
in surroundings that are alike.
-/

namespace Readiness.Rejection

open Script Node

/-! ## What is asked about a function -/

/-- Whether a node is a name that marks payment code. -/
def namesPayment (n : Node) : Bool := ((n.identifier?).map isPaymentName).getD false

/-- Whether a node reads a property of a database. -/
def namesDatabase (n : Node) : Bool :=
  n.isMember && ((n.field? .memberObject).bind Node.identifier?).any isDatabaseName

def isAwait : Kind → Bool
  | .await => true
  | _ => false

def isTry : Kind → Bool
  | .tryStatement => true
  | _ => false

theorem body_any (q : Node → Bool) (f : Place) :
    (body f).any (fun p => q p.node) = bodyAny q f.node := by
  rw [body, bodyAny, ← Place.map_node_child?]
  cases f.child? .body with
  | none => rfl
  | some b => exact Place.any_walk q b

theorem looksLikePayment_eq (f : Place) : looksLikePayment f =
    f.functionName?.map fun name => isPaymentName (name.getD []) || bodyAny namesPayment f.node := by
  rw [looksLikePayment, ← body_any namesPayment]
  cases f.functionName? <;> rfl

theorem touchesDatabase_eq (f : Place) : touchesDatabase f = bodyAny namesDatabase f.node :=
  body_any namesDatabase f

theorem length_ownAwaits (f : Place) : (ownAwaits f).length = bodyOwn isAwait f.node := by
  rw [← Place.countP_own, List.countP_eq_length_filter]
  rfl

theorem hasOwnTry_eq (f : Place) : hasOwnTry f = decide (0 < bodyOwn isTry f.node) := by
  rw [← Place.countP_own, Bool.eq_iff_iff, decide_eq_true_iff, List.countP_pos_iff, hasOwnTry,
    List.any_eq_true]
  rfl

/-! ## Trees that agree -/

/-- Trees that answer alike what is asked about functions. -/
structure Agree (n n' : Node) : Prop where
  outline : n.outline = n'.outline
  payment : anyNode namesPayment n = anyNode namesPayment n'
  database : anyNode namesDatabase n = anyNode namesDatabase n'
  own : ∀ q, ownCount q n = ownCount q n'

/-- Children that agree one by one. -/
def AgreeAll (cs cs' : List (Role × Node)) : Prop :=
  List.Forall₂ (fun c c' => c.1 = c'.1 ∧ Agree c.2 c'.2) cs cs'

theorem namesPayment_outline (n : Node) : namesPayment n.outline = namesPayment n := by
  rw [namesPayment, identifier?_outline, namesPayment]

theorem namesDatabase_outline (n : Node) : namesDatabase n.outline = namesDatabase n := by
  rw [namesDatabase, isMember_outline, field?_outline (by decide), Option.bind_map,
    identifier?_comp_outline, namesDatabase]

variable {n n' : Node} {cs cs' : List (Role × Node)}

theorem AgreeAll.outlineAll (h : AgreeAll cs cs') (hidden : Bool) :
    Node.outlineAll hidden cs = Node.outlineAll hidden cs' := by
  induction h with
  | nil => rfl
  | @cons c c' more more' hc _ ih =>
      obtain ⟨r, c⟩ := c
      obtain ⟨r', c'⟩ := c'
      obtain ⟨rfl, hc⟩ := hc
      rw [Node.outlineAll, Node.outlineAll, ih, hc.outline]

theorem AgreeAll.anyBelow (h : AgreeAll cs cs') {q : Node → Bool}
    (hq : ∀ {c c'}, Agree c c' → anyNode q c = anyNode q c') :
    Node.anyBelow q cs = Node.anyBelow q cs' := by
  induction h with
  | nil => rfl
  | @cons c c' more more' hc _ ih => rw [Node.anyBelow, Node.anyBelow, ih, hq hc.2]

theorem AgreeAll.ownBelow (h : AgreeAll cs cs') (q : Kind → Bool) :
    Node.ownBelow q cs = Node.ownBelow q cs' := by
  induction h with
  | nil => rfl
  | @cons c c' more more' hc _ ih => rw [Node.ownBelow, Node.ownBelow, ih, hc.2.own]

theorem AgreeAll.lookup (h : AgreeAll cs cs') (r : Role) :
    cs.lookup r = none ∧ cs'.lookup r = none ∨
      ∃ c c', cs.lookup r = some c ∧ cs'.lookup r = some c' ∧ Agree c c' := by
  induction h with
  | nil => exact .inl ⟨rfl, rfl⟩
  | @cons c c' more more' hc _ ih =>
      obtain ⟨s, c⟩ := c
      obtain ⟨s', c'⟩ := c'
      obtain ⟨rfl, hc⟩ := hc
      rw [List.lookup_cons, List.lookup_cons]
      cases r == s with
      | true => exact .inr ⟨c, c', rfl, rfl, hc⟩
      | false => exact ih

/-- Trees agree whose parts agree. -/
theorem agree_mk {kind : Kind} {span span' : Span} (h : AgreeAll cs cs') :
    Agree (.mk kind span cs) (.mk kind span' cs') := by
  have houtline : (Node.mk kind span cs).outline = (Node.mk kind span' cs').outline := by
    rw [outline, outline]
    exact congrArg _ (h.outlineAll _)
  refine ⟨houtline, ?_, ?_, fun q => ?_⟩
  · rw [anyNode, anyNode, h.anyBelow Agree.payment, ← namesPayment_outline, houtline,
      namesPayment_outline]
  · rw [anyNode, anyNode, h.anyBelow Agree.database, ← namesDatabase_outline, houtline,
      namesDatabase_outline]
  · rw [ownCount, ownCount, h.ownBelow q]
    rfl

mutual

/-- Trees agree that differ in their ranges alone. -/
theorem agree_of_bare : ∀ n n' : Node, n.bare = n'.bare → Agree n n'
  | .mk kind span cs, .mk kind' span' cs', h => by
      rw [bare, bare] at h
      obtain ⟨rfl, -, hcs⟩ := Node.mk.inj h
      exact agree_mk (agreeAll_of_bare cs cs' hcs)

theorem agreeAll_of_bare : ∀ cs cs' : List (Role × Node), bareAll cs = bareAll cs' → AgreeAll cs cs'
  | [], [], _ => .nil
  | (r, c) :: more, (r', c') :: more', h => by
      rw [bareAll, bareAll] at h
      obtain ⟨hhead, hmore⟩ := List.cons.inj h
      obtain ⟨rfl, hc⟩ := Prod.mk.inj hhead
      exact .cons ⟨rfl, agree_of_bare c c' hc⟩ (agreeAll_of_bare more more' hmore)
  | [], _ :: _, h => by
      rw [bareAll, bareAll] at h
      cases h
  | _ :: _, [], h => by
      rw [bareAll, bareAll] at h
      cases h

end

/-! ## Surroundings -/

/-- Readings that come out the same on outlines come out the same on nodes with one outline. -/
theorem reading_eq {α : Type} {reading : Node → α} (h : ∀ n, reading n.outline = reading n)
    (same : n.outline = n'.outline) : reading n = reading n' := by
  rw [← h n, same, h n']

/-- What a place inside of a node sees of the node. -/
structure Seen (n n' : Node) : Prop where
  outline : n.outline = n'.outline
  payment : bodyAny namesPayment n = bodyAny namesPayment n'

/-- The kinds of the new statements that can hold a body directly. -/
def isEntry : Kind → Bool
  | .tryStatement | .returnStatement => true
  | _ => false

/-- The same steps up to the root, but that the step from a body to its function can take a detour
through new statements. -/
inductive Around : List Step → List Step → Prop where
  | root : Around [] []
  | step {n n' : Node} {r : Role} {i : Nat} {above above' : List Step} (seen : Seen n n')
      (more : Around above above') : Around (⟨n, r, i⟩ :: above) (⟨n', r, i⟩ :: above')
  | detour {n n' : Node} {r : Role} {i : Nat} {above above' : List Step} {first : Step}
      {others : List Step} (isFunction : n.isFunction = true) (seen : Seen n n')
      (more : Around above above') (entry : isEntry first.parent.kind = true)
      (passages : ∀ s ∈ others, s.parent.isFunction = false) :
      Around (⟨n, r, i⟩ :: above) (first :: others ++ ⟨n', r, i⟩ :: above')

/-- Places that are seen alike from outside of bodies. -/
structure SeenAlike (p p' : Place) : Prop where
  outline : p.node.outline = p'.node.outline
  above : Around p.above p'.above

theorem isEntry_cases {kind : Kind} (h : isEntry kind = true) :
    kind = .tryStatement ∨ kind = .returnStatement := by
  cases kind with
  | tryStatement => exact .inl rfl
  | returnStatement => exact .inr rfl
  | _ => cases h

theorem isFunction_cases (h : n.isFunction = true) :
    (∃ isAsync generator, n.kind = .functionDeclaration isAsync generator) ∨
      (∃ isAsync generator, n.kind = .functionExpression isAsync generator) ∨
      ∃ isAsync, n.kind = .arrowFunction isAsync := by
  rw [isFunction] at h
  split at h
  · next hkind => exact .inl ⟨_, _, hkind⟩
  · next hkind => exact .inr (.inl ⟨_, _, hkind⟩)
  · next hkind => exact .inr (.inr ⟨_, hkind⟩)
  · cases h

theorem not_of_isFunction (h : n.isFunction = true) : n.isCall = false ∧ n.isMember = false := by
  rcases isFunction_cases h with ⟨_, _, hkind⟩ | ⟨_, _, hkind⟩ | ⟨_, hkind⟩
  all_goals rw [isCall, isMember, hkind]; exact ⟨rfl, rfl⟩

theorem not_of_isEntry (h : isEntry n.kind = true) :
    n.isCall = false ∧ n.isMember = false ∧ n.isFunction = false := by
  rcases isEntry_cases h with hkind | hkind
  all_goals rw [isCall, isMember, isFunction, hkind]; exact ⟨rfl, rfl, rfl⟩

variable {p p' : Place} {above above' : List Step}

theorem isWrapped_around (wrappers : List Text) (h : Around p.above p'.above) :
    isWrapped wrappers p = isWrapped wrappers p' := by
  obtain ⟨node, steps⟩ := p
  obtain ⟨node', steps'⟩ := p'
  rw [isWrapped, isWrapped]
  cases h with
  | root => rfl
  | @step n n' _ _ _ _ seen more =>
      have hcount : n.arguments.length = n'.arguments.length := by
        rw [← length_arguments_outline n, seen.outline, length_arguments_outline n']
      dsimp only
      rw [reading_eq isCall_outline seen.outline, hcount,
        reading_eq calleeName?_outline seen.outline]
  | detour isFunction seen more entry passages =>
      dsimp only [List.cons_append]
      rw [(not_of_isFunction isFunction).1, (not_of_isEntry entry).1]
      rfl

/-- The name that a node declares. -/
def declaredName? (n : Node) : Option Text := (n.field? .id).bind identifier?

theorem declaredName?_outline (n : Node) : declaredName? n.outline = declaredName? n := by
  rw [declaredName?, field?_outline (by decide), Option.bind_map, identifier?_comp_outline,
    declaredName?]

theorem functionName?_alike (h : SeenAlike p p') : p.functionName? = p'.functionName? := by
  obtain ⟨node, steps⟩ := p
  obtain ⟨node', steps'⟩ := p'
  obtain ⟨houtline, habove⟩ := h
  have hdeclared : ∀ {m m' : Node}, m.outline = m'.outline →
      (m.field? .id).bind identifier? = (m'.field? .id).bind identifier? :=
    fun same => reading_eq declaredName?_outline same
  rw [Place.functionName?, Place.functionName?]
  dsimp only at houtline habove ⊢
  rw [hdeclared houtline]
  cases (node'.field? .id).bind identifier? with
  | some name => rfl
  | none =>
      cases habove with
      | root => rfl
      | step seen more =>
          dsimp only
          rw [reading_eq kind_outline seen.outline, hdeclared seen.outline,
            reading_eq keyName?_outline seen.outline,
            reading_eq Place.assignedName?_outline seen.outline]
      | detour isFunction seen more entry passages =>
          dsimp only [List.cons_append]
          rcases isFunction_cases isFunction with ⟨_, _, hkind⟩ | ⟨_, _, hkind⟩ | ⟨_, hkind⟩
          all_goals
            rw [hkind]
            rcases isEntry_cases entry with hentry | hentry
            all_goals rw [hentry]

/-! ## Chains -/

theorem chainAbove_of_isEntry {first : Step} {others : List Step}
    (entry : isEntry first.parent.kind = true) : Place.chainAbove.go (first :: others) = [] := by
  cases others with
  | nil => rfl
  | cons second others =>
      rw [Place.chainAbove.go, (not_of_isEntry entry).2.1]
      rfl

theorem chainAbove_of_isEntry_second {first second : Step} {others : List Step}
    (entry : isEntry second.parent.kind = true) :
    Place.chainAbove.go (first :: second :: others) = [] := by
  rw [Place.chainAbove.go, (not_of_isEntry entry).1, Bool.and_false, Bool.false_and,
    if_neg Bool.false_ne_true]

/-- Whether two steps lead from a call to a call of one of its methods. -/
def linked (m c : Step) : Bool :=
  m.parent.isMember && m.role == .memberObject && c.parent.isCall && c.role == .callee

theorem linked_seen {n n' m m' : Node} (seen : Seen n n') (seen' : Seen m m') (r s : Role)
    (i j : Nat) : linked ⟨n, r, i⟩ ⟨m, s, j⟩ = linked ⟨n', r, i⟩ ⟨m', s, j⟩ := by
  rw [linked, linked, reading_eq isMember_outline seen.outline,
    reading_eq isCall_outline seen'.outline]

theorem chainAbove_of_linked {m c : Step} {more : List Step} (h : linked m c = true) :
    Place.chainAbove.go (m :: c :: more) =
      (m.parent.propertyName?, ⟨c.parent, more⟩) :: Place.chainAbove.go more := by
  rw [Place.chainAbove.go]
  exact if_pos h

theorem chainAbove_of_not_linked {m c : Step} {more : List Step} (h : ¬ linked m c = true) :
    Place.chainAbove.go (m :: c :: more) = [] := by
  rw [Place.chainAbove.go]
  exact if_neg h

/-- The calls on a chain are the same ones. -/
theorem chainAbove_around (h : Around above above') :
    List.Forall₂ (fun c c' => c.1 = c'.1 ∧ SeenAlike c.2 c'.2) (Place.chainAbove.go above)
      (Place.chainAbove.go above') := by
  induction above using Place.chainAbove.go.induct generalizing above' with
  | case1 m c more hlink ih =>
      have hparts := hlink
      simp only [Bool.and_eq_true] at hparts
      obtain ⟨⟨⟨hmember, -⟩, hcall⟩, -⟩ := hparts
      cases h with
      | detour isFunction =>
          rw [(not_of_isFunction isFunction).2] at hmember
          cases hmember
      | @step n n' r i _ above' seen hmore =>
          cases hmore with
          | detour isFunction =>
              rw [(not_of_isFunction isFunction).1] at hcall
              cases hcall
          | @step k k' s j _ above' seenCall hmore =>
              have hlink' : linked ⟨n', r, i⟩ ⟨k', s, j⟩ = true :=
                (linked_seen seen seenCall r s i j).symm.trans hlink
              rw [chainAbove_of_linked hlink, chainAbove_of_linked hlink']
              exact .cons ⟨reading_eq propertyName?_outline seen.outline, seenCall.outline, hmore⟩
                (ih hmore)
  | case2 m c more hlink =>
      rw [chainAbove_of_not_linked hlink]
      have hnone : Place.chainAbove.go above' = [] := by
        cases h with
        | detour isFunction seen hmore entry passages => exact chainAbove_of_isEntry entry
        | @step n n' r i _ above' seen hmore =>
            cases hmore with
            | detour isFunction seenCall hmore entry passages =>
                exact chainAbove_of_isEntry_second entry
            | @step k k' s j _ above' seenCall hmore =>
                have hlink' : ¬ linked ⟨n', r, i⟩ ⟨k', s, j⟩ = true := fun h =>
                  hlink ((linked_seen seen seenCall r s i j).trans h)
                exact chainAbove_of_not_linked hlink'
      rw [hnone]
      exact .nil
  | case3 above hshort =>
      cases h with
      | root => exact .nil
      | detour isFunction seen hmore entry passages =>
          rw [Place.chainAbove.go, List.cons_append, chainAbove_of_isEntry entry]
          · exact .nil
          · exact hshort
      | step seen hmore =>
          cases hmore with
          | root => exact .nil
          | step => exact absurd rfl (hshort _ _ _)
          | detour => exact absurd rfl (hshort _ _ _)

theorem getLast?_forall₂ {α β : Type} {R : α → β → Prop} {l : List α} {m : List β}
    (h : List.Forall₂ R l m) : l.getLast? = none ∧ m.getLast? = none ∨
      ∃ a b, l.getLast? = some a ∧ m.getLast? = some b ∧ R a b := by
  induction h with
  | nil => exact .inl ⟨rfl, rfl⟩
  | @cons a b l m hab _ ih =>
      rw [List.getLast?_cons, List.getLast?_cons]
      refine .inr ?_
      rcases ih with ⟨hl, hm⟩ | ⟨c, d, hl, hm, hcd⟩
      · rw [hl, hm]
        exact ⟨a, b, rfl, rfl, hab⟩
      · rw [hl, hm]
        exact ⟨c, d, rfl, rfl, hcd⟩

theorem chainTop_alike (h : SeenAlike p p') : SeenAlike p.chainTop p'.chainTop := by
  rw [Place.chainTop, Place.chainTop]
  rcases getLast?_forall₂ (chainAbove_around h.above) with ⟨hl, hm⟩ | ⟨c, c', hl, hm, hc⟩
  · rw [Place.chainAbove, Place.chainAbove, hl, hm]
    exact h
  · rw [Place.chainAbove, Place.chainAbove, hl, hm]
    exact hc.2

theorem names_forall₂ {α β : Type} {R : β → β → Prop} {l m : List (α × β)}
    (h : List.Forall₂ (fun c c' => c.1 = c'.1 ∧ R c.2 c'.2) l m) :
    l.map (·.1) = m.map (·.1) := by
  induction h with
  | nil => rfl
  | cons hc _ ih => rw [List.map_cons, List.map_cons, hc.1, ih]

theorem chainNames_alike (h : SeenAlike p p') :
    p.chainAbove.map (·.1) = p'.chainAbove.map (·.1) := by
  rw [Place.chainAbove, Place.chainAbove]
  exact names_forall₂ (chainAbove_around h.above)

/-- The statement behind a statement is the same one, seen from outside of bodies. -/
theorem nextStatement?_alike (h : SeenAlike p p') :
    p.nextStatement?.map outline = p'.nextStatement?.map outline := by
  obtain ⟨node, steps⟩ := p
  obtain ⟨node', steps'⟩ := p'
  obtain ⟨-, habove⟩ := h
  rw [Place.nextStatement?, Place.nextStatement?]
  dsimp only at habove ⊢
  cases habove with
  | root => rfl
  | detour isFunction seen more entry passages =>
      dsimp only [List.cons_append]
      rcases isFunction_cases isFunction with ⟨_, _, hkind⟩ | ⟨_, _, hkind⟩ | ⟨_, hkind⟩
      all_goals
        rw [hkind]
        rcases isEntry_cases entry with hentry | hentry
        all_goals rw [hentry]
  | @step n n' r i above above' seen more =>
      dsimp only
      rw [reading_eq kind_outline seen.outline]
      have hnext : n'.isFunction = false → ((n.children[i + 1]?).map (·.2)).map outline =
          ((n'.children[i + 1]?).map (·.2)).map outline := by
        intro hfunction
        have hfunction' : n.isFunction = false := by
          rw [reading_eq isFunction_outline seen.outline, hfunction]
        have hreading : ∀ m : Node, m.isFunction = false →
            ((m.children[i + 1]?).map (·.2)).map outline = (m.outline.children[i + 1]?).map (·.2) := by
          intro m hm
          rw [children_outline hm, List.getElem?_map, Option.map_map, Option.map_map]
          rfl
        rw [hreading n hfunction', hreading n' hfunction, seen.outline]
      cases hkind : n'.kind with
      | program isModule => exact hnext (by rw [isFunction, hkind])
      | block => exact hnext (by rw [isFunction, hkind])
      | _ => rfl

/-- Whether a statement calls `catch`. -/
def catches (n : Node) : Bool :=
  match n.kind with
  | .expressionStatement _ =>
    ((n.field? .expression).map fun e => e.isMethodCall "catch").getD false
  | _ => false

theorem catches_outline (n : Node) : catches n.outline = catches n := by
  rw [catches, kind_outline, field?_outline (by decide), catches, Option.map_map]
  have hreading : (fun e : Node => e.isMethodCall "catch") ∘ outline =
      fun e : Node => e.isMethodCall "catch" := funext fun e => isMethodCall_outline e "catch"
  rw [hreading]

/-- Whether the statement behind a statement calls `catch`. -/
def caughtBehind (statement : Place) : Bool :=
  match statement.kind with
  | .expressionStatement _ => statement.nextStatement?.any catches
  | _ => false

theorem catchFollows_eq (p : Place) : catchFollows p =
    ((p.chainAbove.map (·.1)).any (· == some (Text.ofString "catch")) || p.chainTop.parent?.any caughtBehind) := by
  rw [catchFollows, List.any_map]
  congr 1
  cases p.chainTop.parent? with
  | none => rfl
  | some statement =>
      rw [Option.any_some, caughtBehind]
      dsimp only
      cases statement.kind with
      | expressionStatement directive =>
          dsimp only
          cases statement.nextStatement? with
          | none => rfl
          | some next => rfl
      | _ => rfl

theorem caughtBehind_alike (h : SeenAlike p p') : caughtBehind p = caughtBehind p' := by
  have hnext := nextStatement?_alike h
  have hany : ∀ o : Option Node, o.any catches = (o.map outline).any catches := by
    intro o
    cases o with
    | none => rfl
    | some n => exact (catches_outline n).symm
  rw [caughtBehind, caughtBehind, Place.kind, Place.kind, reading_eq kind_outline h.outline,
    hany p.nextStatement?, hnext, ← hany]

theorem catchFollows_alike (h : SeenAlike p p') : catchFollows p = catchFollows p' := by
  rw [catchFollows_eq, catchFollows_eq, chainNames_alike h]
  congr 1
  obtain ⟨-, habove⟩ := chainTop_alike h
  rw [Place.parent?, Place.parent?]
  generalize p.chainTop.above = above at habove ⊢
  generalize p'.chainTop.above = above' at habove ⊢
  cases habove with
  | root => rfl
  | step seen more => exact caughtBehind_alike ⟨seen.outline, more⟩
  | detour isFunction seen more entry passages =>
      rw [List.cons_append, Option.any_some, Option.any_some, caughtBehind, caughtBehind]
      rcases isFunction_cases isFunction with ⟨_, _, hkind⟩ | ⟨_, _, hkind⟩ | ⟨_, hkind⟩
      all_goals
        rw [Place.kind, hkind]
        rcases isEntry_cases entry with hentry | hentry
        all_goals rw [Place.kind, hentry]

/-! ## Functions around -/

/-- The nearest function around is the same one. -/
theorem enclosing_around (h : Around above above') :
    (Place.ancestors.go above).find? (·.node.isFunction) = none ∧
        (Place.ancestors.go above').find? (·.node.isFunction) = none ∨
      ∃ f f', (Place.ancestors.go above).find? (·.node.isFunction) = some f ∧
        (Place.ancestors.go above').find? (·.node.isFunction) = some f' ∧ Seen f.node f'.node ∧
        SeenAlike f f' := by
  induction h with
  | root => exact .inl ⟨rfl, rfl⟩
  | @step n n' r i above above' seen more ih =>
      rw [Place.ancestors.go, Place.ancestors.go, List.find?_cons, List.find?_cons]
      dsimp only
      rw [← reading_eq isFunction_outline seen.outline]
      cases n.isFunction with
      | true => exact .inr ⟨_, _, rfl, rfl, seen, seen.outline, more⟩
      | false => exact ih
  | @detour n n' r i above above' first others isFunction seen more entry passages ih =>
      have hskip : ∀ {extra : List Step}, (∀ s ∈ extra, s.parent.isFunction = false) →
          (Place.ancestors.go (extra ++ ⟨n', r, i⟩ :: above')).find? (·.node.isFunction) =
            some ⟨n', above'⟩ := by
        intro extra
        induction extra with
        | nil =>
            intro _
            rw [List.nil_append, Place.ancestors.go, List.find?_cons_of_pos]
            show n'.isFunction = true
            rw [← reading_eq isFunction_outline seen.outline, isFunction]
        | cons s extra ih =>
            intro hextra
            have hs := hextra s List.mem_cons_self
            rw [List.cons_append, Place.ancestors.go, List.find?_cons_of_neg]
            · exact ih fun e he => hextra e (List.mem_cons_of_mem s he)
            · dsimp only
              rw [hs]
              exact Bool.false_ne_true
      have hsteps : ∀ s ∈ first :: others, s.parent.isFunction = false := by
        intro s hs
        rcases List.mem_cons.mp hs with rfl | hs
        · exact (not_of_isEntry entry).2.2
        · exact passages s hs
      rw [Place.ancestors.go, List.find?_cons_of_pos]
      · exact .inr ⟨_, _, rfl, hskip hsteps, seen, seen.outline, more⟩
      · exact isFunction

end Readiness.Rejection
