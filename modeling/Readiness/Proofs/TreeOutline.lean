import Mathlib.Data.List.Forall2
import Readiness.Detect.Rejection
import Readiness.Proofs.TreeWalk

/-!
# What is seen of a tree from outside of its functions

Names, keys and chains of calls are read off a node and what hangs on it, but never off
the body of a function: a function has its name in front. So all of these readings come
out the same on the outline of a tree, which has its kinds and roles and leaves out the
ranges and the bodies of functions (`Node.outline`).

What is asked about bodies is of two kinds. Names anywhere in a body, nested functions
included, are a matter of some node in the tree passing a test (`Node.anyNode`), and what
a function does itself is counted without entering nested functions (`Node.ownCount`).
Neither depends on the order in which places are listed.
-/

namespace Readiness.Script

namespace Node

mutual

/-- The tree without its ranges. -/
def bare : Node → Node
  | .mk kind _ children => .mk kind default (bareAll children)

/-- The children without theirs. -/
def bareAll : List (Role × Node) → List (Role × Node)
  | [] => []
  | (r, c) :: more => (r, c.bare) :: bareAll more

end

mutual

/-- The tree without its ranges, and with nothing for the bodies of functions. -/
def outline : Node → Node
  | .mk kind span children =>
    .mk kind default (outlineAll (Node.mk kind span children).isFunction children)

/-- The outlines of children, of which the bodies may be hidden. -/
def outlineAll (hidden : Bool) : List (Role × Node) → List (Role × Node)
  | [] => []
  | (r, c) :: more =>
    (r, if hidden && r == .body then default else c.outline) :: outlineAll hidden more

end

mutual

/-- Whether some node of a tree passes a test. -/
def anyNode (q : Node → Bool) : Node → Bool
  | .mk kind span children => q (.mk kind span children) || anyBelow q children

/-- Whether some node below the children does. -/
def anyBelow (q : Node → Bool) : List (Role × Node) → Bool
  | [] => false
  | (_, c) :: more => anyNode q c || anyBelow q more

end

mutual

/-- How many nodes of a tree have a kind that passes a test, where functions are not entered. -/
def ownCount (q : Kind → Bool) : Node → Nat
  | .mk kind span children =>
    (if q kind then 1 else 0) +
      if (Node.mk kind span children).isFunction then 0 else ownBelow q children

/-- How many below the children do. -/
def ownBelow (q : Kind → Bool) : List (Role × Node) → Nat
  | [] => 0
  | (_, c) :: more => ownCount q c + ownBelow q more

end

/-! ## Readings of an outline -/

@[simp] theorem kind_outline (n : Node) : n.outline.kind = n.kind := by
  cases n
  rw [outline]
  rfl

theorem lookup_outlineAll {hidden : Bool} {r : Role} (h : hidden = false ∨ r ≠ .body)
    (cs : List (Role × Node)) : (outlineAll hidden cs).lookup r = (cs.lookup r).map outline := by
  induction cs with
  | nil => rfl
  | cons child more ih =>
      obtain ⟨s, c⟩ := child
      rw [outlineAll, List.lookup_cons, List.lookup_cons, ih]
      cases hs : r == s with
      | false => rfl
      | true =>
          have hshown : (hidden && s == .body) = false := by
            rcases h with rfl | h
            · rfl
            · rw [← eq_of_beq hs, beq_eq_false_iff_ne.mpr h, Bool.and_false]
          rw [hshown]
          rfl

theorem field?_outline {r : Role} (h : r ≠ .body) (n : Node) :
    n.outline.field? r = (n.field? r).map outline := by
  cases n
  rw [outline]
  exact lookup_outlineAll (.inr h) _

theorem fields_outlineAll {hidden : Bool} {r : Role} (h : r ≠ .body) (cs : List (Role × Node)) :
    ((outlineAll hidden cs).filterMap fun c => if c.1 = r then some c.2 else none) =
      (cs.filterMap fun c => if c.1 = r then some c.2 else none).map outline := by
  induction cs with
  | nil => rfl
  | cons child more ih =>
      obtain ⟨s, c⟩ := child
      rw [outlineAll, List.filterMap_cons, List.filterMap_cons]
      by_cases hs : s = r
      · have hshown : (hidden && s == .body) = false := by
          rw [hs, beq_eq_false_iff_ne.mpr h, Bool.and_false]
        simp only [hshown, if_pos hs, Bool.false_eq_true, if_false, List.map_cons, ih]
      · simp only [if_neg hs, ih]

theorem length_arguments_outline (n : Node) : n.outline.arguments.length = n.arguments.length := by
  cases n
  rw [outline]
  show (List.filterMap _ (outlineAll _ _)).length = _
  rw [fields_outlineAll (by decide), List.length_map]
  rfl

theorem children_outline {n : Node} (h : n.isFunction = false) :
    n.outline.children = n.children.map fun c => (c.1, c.2.outline) := by
  have hall : ∀ cs, outlineAll false cs = cs.map fun c => (c.1, c.2.outline) := by
    intro cs
    induction cs with
    | nil => rfl
    | cons child more ih =>
        obtain ⟨r, c⟩ := child
        rw [outlineAll, List.map_cons, ih]
        rfl
  cases n
  rw [outline, h]
  exact hall _

@[simp] theorem identifier?_outline (n : Node) : n.outline.identifier? = n.identifier? := by
  rw [identifier?, kind_outline, identifier?]

theorem identifier?_comp_outline : identifier? ∘ outline = identifier? :=
  funext identifier?_outline

@[simp] theorem string?_outline (n : Node) : n.outline.string? = n.string? := by
  rw [string?, kind_outline, string?]

@[simp] theorem isFunction_outline (n : Node) : n.outline.isFunction = n.isFunction := by
  rw [isFunction, kind_outline, isFunction]

@[simp] theorem isAsync_outline (n : Node) : n.outline.isAsync = n.isAsync := by
  rw [isAsync, kind_outline, isAsync]

@[simp] theorem isCall_outline (n : Node) : n.outline.isCall = n.isCall := by
  rw [isCall, kind_outline, isCall]

@[simp] theorem isMember_outline (n : Node) : n.outline.isMember = n.isMember := by
  rw [isMember, kind_outline, isMember]

@[simp] theorem propertyName?_outline (n : Node) : n.outline.propertyName? = n.propertyName? := by
  rw [propertyName?, kind_outline, field?_outline (by decide), propertyName?]
  cases n.field? .memberProperty with
  | none => rfl
  | some p =>
      cases n.kind with
      | member computed =>
          cases computed with
          | false => exact identifier?_outline p
          | true => exact string?_outline p
      | _ => rfl

@[simp] theorem calleeName?_outline (n : Node) : n.outline.calleeName? = n.calleeName? := by
  rw [calleeName?, field?_outline (by decide), calleeName?]
  cases n.field? .callee with
  | none => rfl
  | some c => simp only [Option.map_some, kind_outline, propertyName?_outline]

@[simp] theorem isMethodCall_outline (n : Node) (name : Text) :
    n.outline.isMethodCall name = n.isMethodCall name := by
  rw [isMethodCall, isCall_outline, field?_outline (by decide), isMethodCall]
  cases n.field? .callee with
  | none => rfl
  | some c => simp only [Option.map_some, isMember_outline, propertyName?_outline]

@[simp] theorem keyName?_outline (n : Node) : n.outline.keyName? = n.keyName? := by
  rw [keyName?, kind_outline, field?_outline (by decide), keyName?, Option.map_map]
  have hkind : kind ∘ outline = kind := funext kind_outline
  rw [hkind]

mutual

@[simp] theorem path?_outline : ∀ n : Node, n.outline.path? = n.path?
  | .mk kind span children => by
      have hname := propertyName?_outline (.mk kind span children)
      have hlookup : ∀ r, (outlineAll false children).lookup r = (children.lookup r).map outline :=
        fun r => lookup_outlineAll (.inl rfl) children
      rw [outline] at hname ⊢
      cases kind with
      | member computed =>
          have hunder : pathUnder (outlineAll (mk (.member computed) span children).isFunction
              children) = pathUnder children := pathUnder_outlineAll children
          rw [path?, path?, hname, hunder]
      | metaProperty =>
          rw [path?, path?]
          simp only [isFunction, kind, hlookup, Option.bind_map, identifier?_comp_outline]
      | _ => rfl

theorem pathUnder_outlineAll : ∀ children : List (Role × Node),
    pathUnder (outlineAll false children) = pathUnder children
  | [] => rfl
  | (r, c) :: more => by
      rw [outlineAll, pathUnder, pathUnder, Bool.false_and, if_neg Bool.false_ne_true,
        path?_outline c, pathUnder_outlineAll more]

end

end Node

@[simp] theorem Place.assignedName?_outline (n : Node) :
    Place.assignedName? n.outline = Place.assignedName? n := by
  rw [assignedName?, Node.field?_outline (by decide), assignedName?]
  cases n.field? .left with
  | none => rfl
  | some l =>
      simp only [Option.map_some, Node.kind_outline, Node.path?_outline,
        Node.propertyName?_outline]

/-! ## Questions about bodies -/

namespace Node

/-- Whether some node of a body passes a test. -/
def bodyAny (q : Node → Bool) (n : Node) : Bool := (n.field? .body).any (anyNode q)

/-- How many nodes of a body have a kind that passes a test, where functions are not entered. -/
def bodyOwn (q : Kind → Bool) (n : Node) : Nat := ((n.field? .body).map (ownCount q)).getD 0

end Node

namespace Place

open Node

mutual

theorem any_preorder (q : Node → Bool) (above : List Step) :
    ∀ n : Node, (preorder above n).any (fun p => q p.node) = anyNode q n
  | .mk kind span children => by
      rw [preorder, anyNode, List.any_cons, any_preorderBelow q _ above 0 children]

theorem any_preorderBelow (q : Node → Bool) (parent : Node) (above : List Step) (number : Nat) :
    ∀ children : List (Role × Node),
      (preorderBelow parent above number children).any (fun p => q p.node) = anyBelow q children
  | [] => rfl
  | (r, c) :: more => by
      rw [preorderBelow, anyBelow, List.any_append, any_preorder q _ c,
        any_preorderBelow q parent above (number + 1) more]

end

theorem any_walk (q : Node → Bool) (p : Place) :
    p.walk.any (fun p => q p.node) = anyNode q p.node := by
  rw [← any_preorder q p.above, Bool.eq_iff_iff, List.any_eq_true, List.any_eq_true]
  simp only [mem_walk]

mutual

theorem countP_ownWithin (q : Kind → Bool) (above : List Step) :
    ∀ n : Node, (ownWithin above n).countP (fun p => q p.kind) = ownCount q n
  | .mk kind span children => by
      rw [ownWithin, ownCount]
      split
      · rw [List.countP_singleton]
        rfl
      · rw [List.countP_cons, ((List.mergeSort_perm _ _).flatMap_right _).countP_eq,
          countP_ownChildren q _ above 0 children, Nat.add_comm]
        rfl

theorem countP_ownChildren (q : Kind → Bool) (parent : Node) (above : List Step) (number : Nat) :
    ∀ children : List (Role × Node),
      ((ownChildren parent above number children).flatMap (·.2)).countP (fun p => q p.kind) =
        ownBelow q children
  | [] => rfl
  | (r, c) :: more => by
      rw [ownChildren, ownBelow, List.flatMap_cons, List.countP_append, countP_ownWithin q _ c,
        countP_ownChildren q parent above (number + 1) more]

end

theorem map_node_child? (p : Place) (r : Role) : (p.child? r).map Place.node = p.node.field? r := by
  have hgo : ∀ (children : List (Role × Node)) (number : Nat),
      (child?.go p r children number).map Place.node = children.lookup r := by
    intro children
    induction children with
    | nil => exact fun _ => rfl
    | cons child more ih =>
        intro number
        obtain ⟨s, c⟩ := child
        rw [child?.go, List.lookup_cons]
        by_cases hs : s = r
        · rw [if_pos hs, hs, beq_self_eq_true]
          rfl
        · rw [if_neg hs, beq_eq_false_iff_ne.mpr (Ne.symm hs)]
          exact ih _
  exact hgo _ _

theorem countP_own (q : Kind → Bool) (f : Place) :
    f.own.countP (fun p => q p.kind) = bodyOwn q f.node := by
  rw [own_eq, bodyOwn, ← map_node_child?]
  cases f.child? .body with
  | none => rfl
  | some b => exact countP_ownWithin q b.above b.node

end Place

namespace Node

/-! ## Trees that can be compared -/

/-- Whether two kinds are the same one, for the kinds of a small part of the language. -/
def sameKind : Kind → Kind → Bool
  | .program a, .program b => a == b
  | .identifier a, .identifier b => a == b
  | .literal (.string a), .literal (.string b) => a == b
  | .functionDeclaration a b, .functionDeclaration c d => a == c && b == d
  | .arrowFunction a, .arrowFunction b => a == b
  | .member a, .member b => a == b
  | .unary a, .unary b => a == b
  | .binary a, .binary b => a == b
  | .expressionStatement a, .expressionStatement b => a == b
  | .call, .call | .conditional, .conditional | .await, .await | .block, .block
  | .throwStatement, .throwStatement | .tryStatement, .tryStatement
  | .catchClause, .catchClause => true
  | _, _ => false

theorem eq_of_sameKind {k k' : Kind} (h : sameKind k k' = true) : k = k' := by
  rw [sameKind.eq_def] at h
  split at h
  case h_4 =>
    rw [Bool.and_eq_true] at h
    rw [eq_of_beq h.1, eq_of_beq h.2]
  all_goals first
    | rfl
    | rw [eq_of_beq h]
    | cases h

mutual

/-- Whether two trees are the same but for their ranges. -/
def sameTree : Node → Node → Bool
  | .mk kind _ cs, .mk kind' _ cs' => sameKind kind kind' && sameTrees cs cs'

def sameTrees : List (Role × Node) → List (Role × Node) → Bool
  | [], [] => true
  | (r, c) :: more, (r', c') :: more' => r == r' && sameTree c c' && sameTrees more more'
  | [], _ :: _ => false
  | _ :: _, [] => false

end

mutual

theorem bare_of_sameTree : ∀ n n' : Node, sameTree n n' = true → n.bare = n'.bare
  | .mk kind span cs, .mk kind' span' cs', h => by
      rw [sameTree, Bool.and_eq_true] at h
      rw [bare, bare, eq_of_sameKind h.1, bareAll_of_sameTrees cs cs' h.2]

theorem bareAll_of_sameTrees : ∀ cs cs' : List (Role × Node), sameTrees cs cs' = true →
    bareAll cs = bareAll cs'
  | [], [], _ => rfl
  | (r, c) :: more, (r', c') :: more', h => by
      rw [sameTrees, Bool.and_eq_true, Bool.and_eq_true] at h
      rw [bareAll, bareAll, eq_of_beq h.1.1, bare_of_sameTree c c' h.1.2,
        bareAll_of_sameTrees more more' h.2]
  | [], _ :: _, h => by
      rw [sameTrees] at h
      cases h
  | _ :: _, [], h => by
      rw [sameTrees] at h
      cases h

end

end Node

end Readiness.Script
