import Readiness.Script.Parse

/-!
# Places in a tree

A place is a node together with the steps that lead from it up to the root, so that its parent, its
ancestors and the role it plays are read off the place itself. The places of a script are listed in
source order: a node before its children, and children by where they start, those that start at the
same offset in the order of their parent's fields.
-/

namespace Readiness.Script

/-- One step up: the parent, the role that the child plays, and its number among the children. -/
structure Step where
  parent : Node
  role : Role
  number : Nat

/-- A node in its surroundings. -/
structure Place where
  node : Node
  /-- The steps up to the root, nearest first. -/
  above : List Step

mutual

/-- The number of nodes of a tree. -/
def Node.size : Node → Nat
  | .mk _ _ children => Node.sizes children + 1

/-- The number of nodes of the trees of children. -/
def Node.sizes : List (Role × Node) → Nat
  | [] => 0
  | (_, c) :: more => c.size + Node.sizes more

end

namespace Place

/-- The place of the root of a tree. -/
def root (n : Node) : Place := ⟨n, []⟩

/-- The place of the parent. -/
def parent? (p : Place) : Option Place :=
  match p.above with
  | [] => none
  | s :: more => some ⟨s.parent, more⟩

/-- The role that the node plays in its parent. -/
def role? (p : Place) : Option Role := p.above.head?.map (·.role)

/-- Whether the node plays the role in its parent. -/
def plays (p : Place) (r : Role) : Bool := p.role? == some r

/-- The places above the place, nearest first. -/
def ancestors (p : Place) : List Place := go p.above
where
  /-- The places that the steps lead to. -/
  go : List Step → List Place
    | [] => []
    | s :: more => ⟨s.parent, more⟩ :: go more

/-- The nearest function around the place. -/
def enclosingFunction? (p : Place) : Option Place := p.ancestors.find? (·.node.isFunction)

/-- What tells the place from all others of its tree: the numbers of the steps up to the root. -/
def address (p : Place) : List Nat := p.above.map (·.number)

/-- The kind of the place's node. -/
def kind (p : Place) : Kind := p.node.kind

/-- The places of children in the order of the fields, from the given number on. -/
def childrenFrom (p : Place) (number : Nat) : List (Role × Node) → List Place
  | [] => []
  | (r, c) :: more => ⟨c, ⟨p.node, r, number⟩ :: p.above⟩ :: childrenFrom p (number + 1) more

/-- A place put in front of the first one that does not start before it. -/
def insertByStart (p : Place) : List Place → List Place
  | [] => [p]
  | q :: more => if p.node.start ≤ q.node.start then p :: q :: more else q :: insertByStart p more

/-- Places by where they start; those that start at the same offset stay as they are. -/
def sortedByStart : List Place → List Place
  | [] => []
  | p :: more => insertByStart p (sortedByStart more)

theorem insertByStart_perm (p : Place) (ps : List Place) : (insertByStart p ps).Perm (p :: ps) := by
  induction ps with
  | nil => exact .refl _
  | cons q ps ih =>
      rw [insertByStart]
      split
      · exact .refl _
      · exact (ih.cons q).trans (.swap p q ps)

theorem sortedByStart_perm (ps : List Place) : (sortedByStart ps).Perm ps := by
  induction ps with
  | nil => exact .refl _
  | cons p ps ih => exact (insertByStart_perm p _).trans (ih.cons p)

/-- The places of the node's children in source order: by where they start, and those that start at
the same offset in the order of the fields. -/
def childrenByStart (p : Place) : List Place := sortedByStart (childrenFrom p 0 p.node.children)

/-- The stack with places put on top of it, the last one first: the first of them ends up
uppermost. -/
def pushed (stack ps : List Place) : List Place := ps.reverse.foldl (fun stack p => p :: stack) stack

theorem pushed_eq (stack ps : List Place) : pushed stack ps = ps ++ stack := by
  rw [pushed, List.foldl_reverse, List.foldr_cons_eq_append']

/-- The number of places at and below those of a list. -/
def sizes : List Place → Nat
  | [] => 0
  | p :: ps => p.node.size + sizes ps

theorem sizes_append (ps qs : List Place) : sizes (ps ++ qs) = sizes ps + sizes qs := by
  induction ps with
  | nil => rw [List.nil_append, sizes, Nat.zero_add]
  | cons p ps ih => rw [List.cons_append, sizes, sizes, ih, Nat.add_assoc]

theorem sizes_perm {ps qs : List Place} (h : ps.Perm qs) : sizes ps = sizes qs := by
  induction h with
  | nil => rfl
  | cons p _ ih => rw [sizes, sizes, ih]
  | swap p q ps => rw [sizes, sizes, sizes, sizes, Nat.add_left_comm]
  | trans _ _ ih ih' => rw [ih, ih']

theorem sizes_childrenFrom (p : Place) (number : Nat) (children : List (Role × Node)) :
    sizes (childrenFrom p number children) = Node.sizes children := by
  induction children generalizing number with
  | nil => rfl
  | cons child more ih => rw [childrenFrom, sizes, ih, Node.sizes]

theorem sizes_childrenByStart (p : Place) : sizes p.childrenByStart + 1 = p.node.size := by
  rw [childrenByStart, sizes_perm (sortedByStart_perm _), sizes_childrenFrom]
  obtain ⟨⟨kind, span, children⟩, above⟩ := p
  rw [Node.size]
  rfl

/-- The places that come off a stack: the uppermost place is taken off, and its children are put on
top of what is left, if the walk enters it. -/
def traverse (enters : Place → Bool) : List Place → List Place
  | [] => []
  | p :: stack =>
    p :: traverse enters (if enters p then pushed stack p.childrenByStart else stack)
termination_by stack => sizes stack
decreasing_by
  have hsize := sizes_childrenByStart p
  rw [sizes]
  split
  · rw [pushed_eq, sizes_append]
    omega
  · omega

/-- All places at or below the place, in source order. -/
def walk (p : Place) : List Place := traverse (fun _ => true) [p]

/-- The place of the first child that plays the role. -/
def child? (p : Place) (r : Role) : Option Place :=
  go p.node.children 0
where
  /-- Looks through the children from the given number on. -/
  go : List (Role × Node) → Nat → Option Place
    | [], _ => none
    | (s, c) :: more, i => if s = r then some ⟨c, ⟨p.node, s, i⟩ :: p.above⟩ else go more (i + 1)

/-- The places of the code that a function owns, in source order: its body, in which nested functions
are listed and not entered. -/
def own (f : Place) : List Place :=
  match f.child? .body with
  | some b => traverse (fun p => !p.node.isFunction) [b]
  | none => []

/-- The numbers of the places' parents in a list of places in source order: the last place before
that lies one level up. -/
def parentNumbers (ps : List Place) : List (Option Nat) :=
  go ps 0 #[]
where
  /-- `last` holds the number of the last place seen on each level. -/
  go : List Place → Nat → Array Nat → List (Option Nat)
    | [], _, _ => []
    | p :: more, i, last =>
      let level := p.above.length
      let parent := if level = 0 then none else last[level - 1]?
      parent :: go more (i + 1) ((last.take level).push i)

end Place

end Readiness.Script

namespace Readiness

/-- The places of a script in source order. -/
def Script.places (s : Script) : List Script.Place := (Script.Place.root s.program).walk

/-- The text that a node covers. -/
def Script.textOf (s : Script) (n : Script.Node) : Text := s.text.slice n.start n.stop

end Readiness
