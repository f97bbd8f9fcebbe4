import Readiness.Diff.Matching
import Readiness.Text.Blank

/-!
# Unified diffs

The lines of two texts are matched, and what differs is shown in hunks with three lines of context
around it. A shown line that has no line feed at its end is followed by a note.
-/

namespace Readiness.Diff

/-- What became of a stretch of lines. -/
inductive Change where
  | kept
  | altered
deriving DecidableEq

/-- A stretch of the old lines, from `oldLo` up to `oldHi`, and the stretch of the new lines that
stands in its place. -/
structure Stretch where
  change : Change
  oldLo : Nat
  oldHi : Nat
  newLo : Nat
  newHi : Nat

/-- The stretches that the runs leave, from the given offsets on to the ends. -/
def stretchesFrom (old new oldEnd newEnd : Nat) : List Run → List Stretch
  | [] => if old < oldEnd ∨ new < newEnd then [⟨.altered, old, oldEnd, new, newEnd⟩] else []
  | r :: more =>
    (if old < r.old ∨ new < r.new then [⟨.altered, old, r.old, new, r.new⟩] else []) ++
      ⟨.kept, r.old, r.old + r.size, r.new, r.new + r.size⟩ ::
        stretchesFrom (r.old + r.size) (r.new + r.size) oldEnd newEnd more

/-- How many lines of context are shown around a change. -/
def contextLines : Nat := 3

/-- The last lines of a stretch, as many as are shown before a change. -/
def Stretch.lead (s : Stretch) : Stretch :=
  { s with oldLo := max s.oldLo (s.oldHi - contextLines)
           newLo := max s.newLo (s.newHi - contextLines) }

/-- The first lines of a stretch, as many as are shown behind a change. -/
def Stretch.trail (s : Stretch) : Stretch :=
  { s with oldHi := min s.oldHi (s.oldLo + contextLines)
           newHi := min s.newHi (s.newLo + contextLines) }

/-- The stretches with a kept one at the start cut down to its lead and one at the end cut down to
its trail. -/
def trimmed (l : List Stretch) : List Stretch :=
  cutEnd (cutStart l)
where
  /-- Cuts a kept stretch at the start. -/
  cutStart : List Stretch → List Stretch
    | [] => []
    | s :: more => (if s.change = .kept then s.lead else s) :: more
  /-- Cuts a kept stretch at the end. -/
  cutEnd : List Stretch → List Stretch
    | [] => []
    | [s] => [if s.change = .kept then s.trail else s]
    | s :: more => s :: cutEnd more

/-- The hunks of the stretches, where `group` holds those of the hunk at hand, last first: a kept
stretch that is too long to be shown whole ends one hunk and starts the next. -/
def hunksFrom (group : List Stretch) : List Stretch → List (List Stretch)
  | [] =>
    match group with
    | [] => []
    | [s] => if s.change = .kept then [] else [[s]]
    | _ => [group.reverse]
  | s :: more =>
    if s.change = .kept ∧ 2 * contextLines < s.oldHi - s.oldLo then
      (s.trail :: group).reverse :: hunksFrom [s.lead] more
    else hunksFrom (s :: group) more

/-- The range of lines of a hunk: where it starts, counted from one, and how many lines it has
unless it has one. An empty range starts at the line before it. -/
def rangeText (lo hi : Nat) : Text :=
  if hi = lo + 1 then toString (lo + 1)
  else if hi ≤ lo then toString lo ++ ",0"
  else toString (lo + 1) ++ "," ++ toString (hi - lo)

/-- A shown line with the note behind it if it lacks its line feed. -/
def shown (line : Text) : Text :=
  if line.getLast? = some '\n' then line
  else line ++ "\n\\ No newline at end of file\n"

/-- The lines from offset `lo` up to `hi`, each shown behind the mark. -/
def marked (mark : CodePoint) (lines : List Text) (lo hi : Nat) : Text :=
  ((lines.drop lo).take (hi - lo)).flatMap fun l => shown (mark :: l)

/-- One hunk. -/
def hunkText (old new : List Text) (hunk : List Stretch) : Text :=
  match hunk.head?, hunk.getLast? with
  | some a, some z =>
    "@@ -" ++ rangeText a.oldLo z.oldHi ++ " +" ++ rangeText a.newLo z.newHi ++
      " @@\n" ++
      hunk.flatMap fun s =>
        if s.change = .kept then marked ' ' old s.oldLo s.oldHi
        else marked '-' old s.oldLo s.oldHi ++ marked '+' new s.newLo s.newHi
  | _, _ => []

/-- The number of each line: the offset of its first equal among the distinct lines `seen`, which
grow by what is new. -/
def numbered (seen : Array Text) : List Text → List Nat × Array Text
  | [] => ([], seen)
  | l :: more =>
    match seen.findIdx? (· == l) with
    | some i => let (ns, all) := numbered seen more; (i :: ns, all)
    | none => let (ns, all) := numbered (seen.push l) more; (seen.size :: ns, all)

/-- The hunks of two lists of lines. -/
def hunks (old new : List Text) : List (List Stretch) :=
  let (oldItems, seen) := numbered #[] old
  let (newItems, seen) := numbered seen new
  let sides := Sides.of seen.size oldItems.toArray newItems.toArray
  hunksFrom [] (trimmed (stretchesFrom 0 0 old.length new.length sides.runs))

/-- The unified diff of two texts under the name of a file; nothing if no line differs. -/
def unified (file : Text) (before after : Text) : Text :=
  let old := before.linesWithEnds
  let new := after.linesWithEnds
  match hunks old new with
  | [] => []
  | hs =>
    "--- " ++ file ++ "\tbefore\n" ++
      "+++ " ++ file ++ "\tafter\n" ++ hs.flatMap (hunkText old new)

end Readiness.Diff
