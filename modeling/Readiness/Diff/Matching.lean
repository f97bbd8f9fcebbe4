import Readiness.Text.Basic

/-!
# Matching two sequences

Two sequences are compared by their longest common run: the run of the old sequence that stands
earliest, and among those the one that stands earliest in the new sequence, is fixed, and what lies
before and behind it is compared the same way. In a long new sequence, items that make up more than
a hundredth of it start no run, though a run may grow over them.

Items are numbers here, equal items having equal numbers.
-/

namespace Readiness.Diff

/-- A common run: `size` items from `old` on in the old sequence, which are also the items from
`new` on in the new one. -/
structure Run where
  old : Nat
  new : Nat
  size : Nat
deriving DecidableEq, Inhabited

/-- The two sequences, and where the items stand in the new one. -/
structure Sides where
  old : Array Nat
  new : Array Nat
  /-- For each item, the offsets in the new sequence at which a run may start to grow. -/
  seeds : Array (List Nat)

/-- The offsets of each item in a sequence of items below `kinds`. -/
def offsets (kinds : Nat) (items : Array Nat) : Array (List Nat) :=
  (items.zipIdx.foldl (fun found (item, i) => found.modify item (i :: ·))
    (Array.replicate kinds [])).map List.reverse

/-- From how many items on a sequence is long. -/
def longFrom : Nat := 200

/-- How often an item may occur in a long sequence of the given length and still start a run. -/
def commonness (length : Nat) : Nat := length / 100 + 1

/-- The two sequences, of items below `kinds`, ready to be compared. -/
def Sides.of (kinds : Nat) (old new : Array Nat) : Sides :=
  let found := offsets kinds new
  let seeds :=
    if longFrom ≤ new.size then
      found.map fun l => if commonness new.size < l.length then [] else l
    else found
  ⟨old, new, seeds⟩

/-- The lengths of the runs that end at the given offsets, if the lengths of those that end one item
earlier in both sequences are `before`. Both lists are in increasing order of offset. -/
def grow : List Nat → List (Nat × Nat) → List (Nat × Nat)
  | [], _ => []
  | j :: more, [] => (j, 1) :: grow more []
  | j :: more, (i, k) :: before =>
    if i + 1 < j then grow (j :: more) before
    else if i + 1 = j then (j, k + 1) :: grow more before
    else (j, 1) :: grow more ((i, k) :: before)
termination_by js before => js.length + before.length

/-- The longer of the best run so far and the runs that end at offset `i` of the old sequence; the
earlier one wins a tie. -/
def better (i : Nat) (best : Run) (ends : List (Nat × Nat)) : Run :=
  ends.foldl (fun b (j, k) => if b.size < k then ⟨i + 1 - k, j + 1 - k, k⟩ else b) best

/-- The longest run that ends among the next `count` items of the old sequence from `i` on and lies
in the new sequence from `newLo` up to `newHi`, where runs that reach up to `i` have the lengths
`before`. -/
def longestFrom (s : Sides) (newLo newHi : Nat) : Nat → Nat → List (Nat × Nat) → Run → Run
  | 0, _, _, best => best
  | count + 1, i, before, best =>
    let js := ((s.seeds.getD (s.old.getD i 0) []).dropWhile (· < newLo)).takeWhile (· < newHi)
    let ends := grow js before
    longestFrom s newLo newHi count (i + 1) ends (better i best ends)

/-- The run grown towards the front over equal items, for at most `count` of them. -/
def growFront (s : Sides) (oldLo newLo : Nat) : Nat → Run → Run
  | 0, r => r
  | count + 1, r =>
    if oldLo < r.old ∧ newLo < r.new ∧ s.old.getD (r.old - 1) 0 = s.new.getD (r.new - 1) 0 then
      growFront s oldLo newLo count ⟨r.old - 1, r.new - 1, r.size + 1⟩
    else r

/-- The run grown towards the back over equal items, for at most `count` of them. -/
def growBack (s : Sides) (oldHi newHi : Nat) : Nat → Run → Run
  | 0, r => r
  | count + 1, r =>
    if r.old + r.size < oldHi ∧ r.new + r.size < newHi ∧
        s.old.getD (r.old + r.size) 0 = s.new.getD (r.new + r.size) 0 then
      growBack s oldHi newHi count ⟨r.old, r.new, r.size + 1⟩
    else r

/-- The longest run between the given offsets. -/
def longest (s : Sides) (oldLo oldHi newLo newHi : Nat) : Run :=
  let found := longestFrom s newLo newHi (oldHi - oldLo) oldLo [] ⟨oldLo, newLo, 0⟩
  growBack s oldHi newHi (oldHi - oldLo) (growFront s oldLo newLo (oldHi - oldLo) found)

/-- The runs between the given offsets, in order. Each level fixes at least one item of the old
sequence, so as many levels as it has items are enough. -/
def runsBetween (s : Sides) : Nat → Nat → Nat → Nat → Nat → List Run
  | 0, _, _, _, _ => []
  | levels + 1, oldLo, oldHi, newLo, newHi =>
    let r := longest s oldLo oldHi newLo newHi
    if r.size = 0 then []
    else
      (if oldLo < r.old ∧ newLo < r.new then runsBetween s levels oldLo r.old newLo r.new else [])
        ++ r ::
      (if r.old + r.size < oldHi ∧ r.new + r.size < newHi then
        runsBetween s levels (r.old + r.size) oldHi (r.new + r.size) newHi else [])

/-- The runs with neighbours that touch in both sequences made one. -/
def merged : List Run → List Run
  | [] => []
  | r :: more =>
    match merged more with
    | [] => [r]
    | q :: rest =>
      if r.old + r.size = q.old ∧ r.new + r.size = q.new then
        ⟨r.old, r.new, r.size + q.size⟩ :: rest
      else r :: q :: rest

/-- The common runs of two sequences, in order. -/
def Sides.runs (s : Sides) : List Run :=
  merged (runsBetween s (s.old.size + 1) 0 s.old.size 0 s.new.size)

end Readiness.Diff
