import Readiness.Schema.Basic

/-!
# Validation

Of all failures of a value, one is told: the one nearest to the surface, of those the one last in
order of place. If that is a choice between schemas, the failure that lies deepest under it is told
in its stead, unless two are equally good.
-/

namespace Readiness.Schema

/-- The order of steps: fields by name, items by number. -/
def compareStep : PathStep → PathStep → Ordering
  | .field a, .field b => Text.compare a b
  | .item a, .item b => compare a b
  | .field _, .item _ => .gt
  | .item _, .field _ => .lt

/-- The order of places of one depth. -/
def comparePath : List PathStep → List PathStep → Ordering
  | [], [] => .eq
  | [], _ :: _ => .lt
  | _ :: _, [] => .gt
  | a :: more, b :: rest => (compareStep a b).then (comparePath more rest)

/-- The order of failures by relevance: the nearer to the surface the greater, then by place, then
a failure that is no choice, then one of a value of the wrong kind. -/
def compareFailing (a b : Failing) : Ordering :=
  (compare b.path.length a.path.length).then <|
    (comparePath a.path b.path).then <|
      (compare (!a.weak) (!b.weak)).then (compare (!a.kindFits) (!b.kindFits))

/-- The first of the greatest failures. -/
def greatest? : List Failing → Option Failing
  | [] => none
  | f :: more => some (more.foldl (fun best g => if compareFailing best g == .lt then g else best) f)

/-- The first of the least failures. -/
def least? : List Failing → Option Failing
  | [] => none
  | f :: more => some (more.foldl (fun best g => if compareFailing g best == .lt then g else best) f)

/-- The failure that is told for one: itself, or the least of its causes if only one is least. The
places of causes are those inside the value at fault. -/
def told : Nat → Failing → Failing
  | 0, f => f
  | levels + 1, f =>
    match least? f.causes with
    | none => f
    | some c =>
      if 1 < f.causes.countP (fun d => compareFailing d c == .eq) then f
      else
        let .mk p m w k cs := told levels c
        .mk (f.path ++ p) m w k cs

/-- How deep choices are looked into. -/
def choiceLevels : Nat := 16

/-- The failure of a value that is told, if it has one. -/
def check (s : Schema) (v : Json) : Option Failing :=
  (greatest? (s.failures v)).map (told choiceLevels)

end Readiness.Schema
