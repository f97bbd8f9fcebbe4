import Readiness.Edit.Basic

/-!
# How edits move lines

An edit that puts in more line feeds than it takes out moves every line below its end down, and one
that takes out more moves them up. Line numbers that were noted before the edits are brought up to
date with these shifts.
-/

namespace Readiness

/-- Lines below `afterLine` have moved by `delta`. -/
structure LineShift where
  afterLine : Nat
  delta : Int
deriving DecidableEq

/-- The number of line feeds in a text. -/
def lineFeeds (t : Text) : Nat := t.count (CodePoint.char '\n')

namespace LineShift

/-- How one edit of a text moves the lines below it, if it does. -/
def ofEdit? (t : Text) (e : Edit) : Option LineShift :=
  let delta : Int := lineFeeds e.replacement - (lineFeeds (t.slice e.start e.stop) : Int)
  if delta = 0 then none else some ⟨lineFeeds (t.take e.stop) + 1, delta⟩

/-- How the edits of a text move the lines below them, in the order of the edits. -/
def ofEdits (t : Text) (edits : List Edit) : List LineShift := edits.filterMap (ofEdit? t)

/-- Where a line has moved to. -/
def move (shifts : List LineShift) (line : Int) : Int :=
  let before := shifts.filter fun s => decide ((s.afterLine : Int) < line)
  line + (before.map (·.delta)).foldr (· + ·) 0

end LineShift

end Readiness
