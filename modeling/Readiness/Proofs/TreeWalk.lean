import Mathlib.Data.List.Basic
import Readiness.Script.Place

/-!
# The walk of a tree as a recursion

The places of a tree come off a stack. What is left to be listed at any moment are the places at and
below those on the stack, one after the other, so that the walk of a place is the place itself
followed by the walks of its children. From this equation the walk is the recursion over the tree
that lists a node before its children and these by where they start, and the code that a function
owns is the same recursion stopped at nested functions.
-/

namespace Readiness.Script

namespace Place

mutual

/-- The places of a tree whose root has the given steps above it, in source order. -/
def within (above : List Step) : Node → List Place
  | .mk kind span children =>
    let n := Node.mk kind span children
    let below := childPlaces n above 0 children
    ⟨n, above⟩ :: (below.mergeSort fun a b => decide (a.1 ≤ b.1)).flatMap (·.2)

/-- The places below each child, with the offset where the child starts. -/
def childPlaces (parent : Node) (above : List Step) (number : Nat) :
    List (Role × Node) → List (Nat × List Place)
  | [] => []
  | (r, c) :: more =>
    (c.start, within (⟨parent, r, number⟩ :: above) c) :: childPlaces parent above (number + 1) more

end

mutual

/-- The places of a function's own code, in source order: nested functions are listed and not
entered. -/
def ownWithin (above : List Step) : Node → List Place
  | .mk kind span children =>
    let n := Node.mk kind span children
    if n.isFunction then [⟨n, above⟩]
    else
      let below := ownChildren n above 0 children
      ⟨n, above⟩ :: (below.mergeSort fun a b => decide (a.1 ≤ b.1)).flatMap (·.2)

/-- The own places below each child, with the offset where the child starts. -/
def ownChildren (parent : Node) (above : List Step) (number : Nat) :
    List (Role × Node) → List (Nat × List Place)
  | [] => []
  | (r, c) :: more =>
    (c.start, ownWithin (⟨parent, r, number⟩ :: above) c) ::
      ownChildren parent above (number + 1) more

end

/-! ### The children of a place -/

theorem childrenByStart_perm (p : Place) :
    p.childrenByStart.Perm (p.childrenFrom 0 p.node.children) :=
  sortedByStart_perm _

@[grind =]
theorem mem_childrenByStart {p q : Place} :
    q ∈ p.childrenByStart ↔ q ∈ p.childrenFrom 0 p.node.children :=
  p.childrenByStart_perm.mem_iff

/-- A place that starts behind some places and not behind the others is put between them. -/
theorem insertByStart_between {p : Place} {front back : List Place}
    (behind : ∀ q ∈ front, q.node.start < p.node.start)
    (ahead : ∀ q ∈ back, p.node.start ≤ q.node.start) :
    insertByStart p (front ++ back) = front ++ p :: back := by
  induction front with
  | nil =>
      cases back with
      | nil => rfl
      | cons q back => exact if_pos (ahead q List.mem_cons_self)
  | cons q front ih =>
      obtain ⟨hq, hmore⟩ := List.forall_mem_cons.mp behind
      rw [List.cons_append, insertByStart, if_neg (Nat.not_le.mpr hq), ih hmore, List.cons_append]

/-- There is one stable order of places by where they start. -/
theorem sortedByStart_eq_mergeSort (ps : List Place) :
    sortedByStart ps = ps.mergeSort fun a b => decide (a.node.start ≤ b.node.start) := by
  have trans (a b c : Place) (hab : decide (a.node.start ≤ b.node.start) = true)
      (hbc : decide (b.node.start ≤ c.node.start) = true) :
      decide (a.node.start ≤ c.node.start) = true :=
    decide_eq_true (Nat.le_trans (of_decide_eq_true hab) (of_decide_eq_true hbc))
  have total (a b : Place) :
      (decide (a.node.start ≤ b.node.start) || decide (b.node.start ≤ a.node.start)) = true := by
    rw [Bool.or_eq_true, decide_eq_true_iff, decide_eq_true_iff]
    exact Nat.le_total _ _
  induction ps with
  | nil => rw [List.mergeSort_nil, sortedByStart]
  | cons p ps ih =>
      obtain ⟨front, back, hwith, hwithout, hfront⟩ := List.mergeSort_cons trans total p ps
      have hsorted := List.pairwise_mergeSort trans total (p :: ps)
      rw [hwith] at hsorted
      obtain ⟨hback, -⟩ := List.pairwise_cons.mp (List.pairwise_append.mp hsorted).2.1
      rw [sortedByStart, ih, hwithout, hwith]
      refine insertByStart_between (fun q hq => ?_) fun q hq => of_decide_eq_true (hback q hq)
      simpa using hfront q hq

theorem childrenByStart_eq_mergeSort (p : Place) :
    p.childrenByStart = (p.childrenFrom 0 p.node.children).mergeSort
      fun a b => decide (a.node.start ≤ b.node.start) :=
  sortedByStart_eq_mergeSort _

/-- A child stands one step below its parent, under a number that none before it has. -/
theorem step_of_mem_childrenFrom {p q : Place} {number : Nat} {children : List (Role × Node)}
    (h : q ∈ p.childrenFrom number children) :
    ∃ r i, number ≤ i ∧ children[i - number]? = some (r, q.node) ∧
      q.above = ⟨p.node, r, i⟩ :: p.above := by
  induction children generalizing number with
  | nil => cases h
  | cons child more ih =>
      obtain ⟨r, c⟩ := child
      rcases List.mem_cons.mp h with rfl | h
      · exact ⟨r, number, Nat.le_refl _, by rw [Nat.sub_self]; rfl, rfl⟩
      · obtain ⟨s, i, hi, hget, habove⟩ := ih h
        refine ⟨s, i, by omega, ?_, habove⟩
        rw [show i - number = i - (number + 1) + 1 by omega]
        exact hget

theorem part_of_mem_childrenByStart {p q : Place} (h : q ∈ p.childrenByStart) :
    ∃ r, (r, q.node) ∈ p.node.children := by
  obtain ⟨r, i, -, hget, -⟩ := step_of_mem_childrenFrom (mem_childrenByStart.mp h)
  exact ⟨r, List.mem_of_getElem? hget⟩

theorem mem_childrenByStart_of_child? {p c : Place} {r : Role} (h : p.child? r = some c) :
    c ∈ p.childrenByStart := by
  have hgo : ∀ (children : List (Role × Node)) (number : Nat),
      child?.go p r children number = some c → c ∈ p.childrenFrom number children := by
    intro children
    induction children with
    | nil =>
        intro number hnone
        cases hnone
    | cons child more ih =>
        intro number hchild
        obtain ⟨s, n⟩ := child
        rw [child?.go] at hchild
        split at hchild
        · cases hchild
          exact List.mem_cons_self
        · exact List.mem_cons_of_mem _ (ih _ hchild)
  exact mem_childrenByStart.mpr (hgo _ _ h)

theorem size_lt_of_mem_childrenByStart {p q : Place} (h : q ∈ p.childrenByStart) :
    q.node.size < p.node.size := by
  obtain ⟨before, after, hsplit⟩ := List.append_of_mem h
  have hsizes := sizes_childrenByStart p
  rw [hsplit, sizes_append, sizes] at hsizes
  omega

/-- What passes from the children of a place to the place holds at every place. -/
theorem induction_childrenByStart {motive : Place → Prop}
    (step : ∀ p, (∀ c ∈ p.childrenByStart, motive c) → motive p) (p : Place) : motive p := by
  induction hn : p.node.size using Nat.strongRecOn generalizing p with
  | ind n ih =>
      refine step p fun c hc => ih c.node.size ?_ c rfl
      rw [← hn]
      exact size_lt_of_mem_childrenByStart hc

/-! ### The stack -/

theorem traverse_nil (enters : Place → Bool) : traverse enters [] = [] := by
  rw [traverse]

theorem traverse_cons (enters : Place → Bool) (p : Place) (stack : List Place) :
    traverse enters (p :: stack) =
      p :: traverse enters (if enters p then p.childrenByStart ++ stack else stack) := by
  rw [traverse, pushed_eq]

/-- What the loop lists from a stack is listed from each of its places in turn. -/
theorem traverse_eq_flatMap (enters : Place → Bool) (stack : List Place) :
    traverse enters stack = stack.flatMap fun p => traverse enters [p] := by
  -- the places still to come are fewer after every turn, whatever is pushed
  induction hn : sizes stack using Nat.strongRecOn generalizing stack with
  | ind n ih =>
      cases stack with
      | nil => rw [traverse_nil, List.flatMap_nil]
      | cons p stack =>
          rw [sizes] at hn
          have hsizes := sizes_childrenByStart p
          rw [List.flatMap_cons, traverse_cons, traverse_cons]
          split
          · rw [List.append_nil, List.cons_append,
              ih _ (by rw [← hn, sizes_append]; omega) _ rfl,
              ih _ (by rw [← hn]; omega) p.childrenByStart rfl, List.flatMap_append]
          · rw [traverse_nil, List.singleton_append, ih _ (by rw [← hn]; omega) stack rfl]

/-- A place comes before what lies below it. -/
theorem traverse_singleton (enters : Place → Bool) (p : Place) :
    traverse enters [p] =
      p :: if enters p then p.childrenByStart.flatMap fun c => traverse enters [c] else [] := by
  rw [traverse_cons]
  split
  · rw [List.append_nil, traverse_eq_flatMap]
  · rw [traverse_nil]

theorem walk_eq (p : Place) : p.walk = p :: p.childrenByStart.flatMap walk :=
  traverse_singleton (fun _ => true) p

theorem self_mem_walk (p : Place) : p ∈ p.walk := by
  rw [walk_eq]
  exact List.mem_cons_self

theorem mem_walk_iff {p q : Place} :
    q ∈ p.walk ↔ q = p ∨ ∃ c ∈ p.childrenByStart, q ∈ c.walk := by
  rw [walk_eq, List.mem_cons, List.mem_flatMap]

/-- What passes from a node to its parts holds of the nodes in all places of a tree. -/
theorem forall_mem_walk {P : Node → Prop} (parts : ∀ n, P n → ∀ c ∈ n.children, P c.2) (p : Place)
    (h : P p.node) : ∀ q ∈ p.walk, P q.node := by
  induction p using induction_childrenByStart with
  | step p ih =>
      intro q hq
      rcases mem_walk_iff.mp hq with rfl | ⟨c, hc, hq⟩
      · exact h
      · obtain ⟨r, hpart⟩ := part_of_mem_childrenByStart hc
        exact ih c hc (parts p.node h _ hpart) q hq

theorem childPlaces_eq_map (p : Place) (number : Nat) (children : List (Role × Node)) :
    childPlaces p.node p.above number children =
      (p.childrenFrom number children).map fun q => (q.node.start, within q.above q.node) := by
  induction children generalizing number with
  | nil => rw [childPlaces, childrenFrom, List.map_nil]
  | cons child more ih =>
      obtain ⟨r, c⟩ := child
      rw [childPlaces, childrenFrom, List.map_cons, ih]

theorem ownChildren_eq_map (p : Place) (number : Nat) (children : List (Role × Node)) :
    ownChildren p.node p.above number children =
      (p.childrenFrom number children).map fun q => (q.node.start, ownWithin q.above q.node) := by
  induction children generalizing number with
  | nil => rw [ownChildren, childrenFrom, List.map_nil]
  | cons child more ih =>
      obtain ⟨r, c⟩ := child
      rw [ownChildren, childrenFrom, List.map_cons, ih]

/-- Lists that go along with the children, sorted as the children are. -/
theorem flatMap_mergeSort_children (p : Place) (list : Place → List Place) :
    (((p.childrenFrom 0 p.node.children).map fun q => (q.node.start, list q)).mergeSort
      fun a b => decide (a.1 ≤ b.1)).flatMap (·.2) = p.childrenByStart.flatMap list := by
  rw [childrenByStart_eq_mergeSort, ← List.map_mergeSort (r := fun a b => decide (a.node.start ≤ b.node.start))
    (fun _ _ _ _ => rfl), List.flatMap_map]

theorem within_eq (p : Place) :
    within p.above p.node = p :: p.childrenByStart.flatMap fun c => within c.above c.node := by
  rw [← flatMap_mergeSort_children p fun c => within c.above c.node, ← childPlaces_eq_map]
  obtain ⟨⟨kind, span, children⟩, above⟩ := p
  rw [within]
  rfl

theorem ownWithin_eq (p : Place) :
    ownWithin p.above p.node =
      p :: if p.node.isFunction then []
        else p.childrenByStart.flatMap fun c => ownWithin c.above c.node := by
  rw [← flatMap_mergeSort_children p fun c => ownWithin c.above c.node, ← ownChildren_eq_map]
  obtain ⟨⟨kind, span, children⟩, above⟩ := p
  rw [ownWithin]
  split
  · rfl
  · rfl

/-- The places that come off the stack are those of the recursion, in its order. -/
theorem walk_eq_within (p : Place) : p.walk = within p.above p.node := by
  induction p using induction_childrenByStart with
  | step p ih => rw [walk_eq, within_eq, List.flatMap_congr ih]

theorem own_eq (f : Place) :
    f.own = match f.child? .body with
      | some b => ownWithin b.above b.node
      | none => [] := by
  have hown : ∀ b : Place,
      traverse (fun p => !p.node.isFunction) [b] = ownWithin b.above b.node := by
    intro b
    induction b using induction_childrenByStart with
    | step b ih =>
        rw [traverse_singleton, ownWithin_eq, List.flatMap_congr ih]
        cases b.node.isFunction <;> rfl
  rw [own]
  cases f.child? .body with
  | some b => exact hown b
  | none => rfl

/-! ### The order of the fields -/

mutual

/-- The places of a tree, a node before its children and these in the order of its fields. -/
def preorder (above : List Step) : Node → List Place
  | .mk kind span children =>
    let n := Node.mk kind span children
    ⟨n, above⟩ :: preorderBelow n above 0 children

/-- The places below the children from the given number on. -/
def preorderBelow (parent : Node) (above : List Step) (number : Nat) :
    List (Role × Node) → List Place
  | [] => []
  | (r, c) :: more =>
    preorder (⟨parent, r, number⟩ :: above) c ++ preorderBelow parent above (number + 1) more

end

mutual

/-- The places in source order are those in the order of the fields, in another order. -/
theorem within_perm (above : List Step) :
    ∀ n : Node, (within above n).Perm (preorder above n)
  | .mk kind span children => by
      rw [within, preorder]
      exact .cons _ (((List.mergeSort_perm _ _).flatMap_right _).trans
        (childPlaces_perm _ above 0 children))

theorem childPlaces_perm (parent : Node) (above : List Step) (number : Nat) :
    ∀ children : List (Role × Node),
      ((childPlaces parent above number children).flatMap (·.2)).Perm
        (preorderBelow parent above number children)
  | [] => by rw [childPlaces, preorderBelow, List.flatMap_nil]
  | (r, c) :: more => by
      rw [childPlaces, preorderBelow, List.flatMap_cons]
      exact (within_perm _ c).append (childPlaces_perm parent above (number + 1) more)

end

theorem walk_perm (p : Place) : p.walk.Perm (preorder p.above p.node) := by
  rw [walk_eq_within]
  exact within_perm p.above p.node

theorem mem_walk {p q : Place} : q ∈ p.walk ↔ q ∈ preorder p.above p.node :=
  (walk_perm p).mem_iff

end Place

end Readiness.Script

namespace Readiness

/-- The places of any script, whatever their order. -/
theorem Script.mem_places {s : Script} {p : Script.Place} :
    p ∈ s.places ↔ p ∈ Script.Place.preorder [] s.program :=
  Script.Place.mem_walk

end Readiness
