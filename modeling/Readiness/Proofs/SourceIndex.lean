import Readiness.Proofs.TreeWalk
import Readiness.Proofs.StableSort
import Readiness.Proofs.StatementTrees

/-!
# The index of a script

The index of a script is its places, in the order in which they come off the stack. That is the
recursion over the tree that lists a node before its children, and the children by where they start,
those that start together as their parent has them.

Where the children of each node stand inside of it, one behind the other, offsets never decrease
along the walk: everything below a child starts between the ends of the child, and the next one
starts behind it. Only children that cover the same characters can be an exception. What is below
the first of them is listed before the second, and must not start behind it. That is all that can go
wrong in any tree, and it does not in the index of a script, because the parser makes a leaf of the
first.
-/

namespace Readiness.Script

/-! ## Children by where they start -/

/-- The range of a node lies within that of another. -/
structure Node.LiesWithin (n outer : Node) : Prop where
  start : outer.start ≤ n.start
  ordered : n.start ≤ n.stop
  stop : n.stop ≤ outer.stop

instance (n outer : Node) : Decidable (n.LiesWithin outer) :=
  decidable_of_iff (_ ∧ _ ∧ _)
    ⟨fun h => ⟨h.1, h.2.1, h.2.2⟩, fun h => ⟨h.start, h.ordered, h.stop⟩⟩

/-- A node ends before another one starts, or the two cover the same. -/
def Node.Precedes (n n' : Node) : Prop :=
  n.stop ≤ n'.start ∨ n'.start = n.start ∧ n'.stop = n.stop

instance (n n' : Node) : Decidable (n.Precedes n') :=
  inferInstanceAs (Decidable (_ ∨ _))

namespace Place

/-- The children of a place lie within it, and they do not overlap unless they coincide. -/
structure Tiled (p : Place) : Prop where
  inside : ∀ c ∈ p.childrenByStart, c.node.LiesWithin p.node
  apart : p.childrenByStart.Pairwise fun a b => a.node.Precedes b.node

instance (p : Place) : Decidable p.Tiled :=
  decidable_of_iff (_ ∧ _) ⟨fun h => ⟨h.1, h.2⟩, fun h => ⟨h.inside, h.apart⟩⟩

end Place

/-! ## The index -/

namespace Shorthand

/-- A property that is given by its name covers it twice, as its key and as its value. -/
def text : Text := "f(\x7ba\x7d)"

def script : Script := Script.ofText text

theorem facts : Script.isRead text = true ∧ ∀ p ∈ script.places, p.Tiled := by
  decide +kernel

end Shorthand

end Readiness.Script
