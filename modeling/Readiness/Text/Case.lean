import Readiness.Text.Basic
import Readiness.Text.CaseTable

/-!
# Letter cases

Lower and upper case of texts in any script, and equality of letters up to case. Some capitals
become two characters; a capital sigma becomes the final small sigma at the end of a word.
-/

namespace Readiness.Text

namespace Case

/-- How many of the runs `lo, …, hi - 1`, and of those before, start at or below `x`, provided that
all runs before `lo` do and no run from `hi` on does. -/
def runsUpTo (runs : Array Run) (x lo hi : Nat) : Nat :=
  if lo < hi then
    let mid := (lo + hi) / 2
    if (runs[mid]?.map (·.first)).getD 0 ≤ x then runsUpTo runs x (mid + 1) hi
    else runsUpTo runs x lo mid
  else lo
termination_by hi - lo

/-- The other case of a character, if a run of the table holds it. -/
def lookup? (runs : Array Run) (c : CodePoint) : Option CodePoint :=
  let x := c.toNat
  (runs[runsUpTo runs x 0 runs.size - 1]?).bind fun r =>
    if r.first ≤ x ∧ x ≤ r.last ∧ (x - r.first) % r.step = 0 then
      some (.ofNat ((x : Int) + r.distance).toNat)
    else none

/-- Whether a capital sigma between the text `before`, in reverse, and the text `after` ends a
word: a letter comes before it and none after it. -/
def endsWord (before after : Text) : Bool :=
  let letterFirst (t : Text) : Bool :=
    match t.dropWhile caseIgnorable.contains with
    | [] => false
    | c :: _ => cased.contains c
  letterFirst before && !letterFirst after

/-- The lower case of a text whose earlier characters, in reverse, are `before`. -/
def lowerAfter (before : Text) : Text → Text
  | [] => []
  | c :: r =>
    let now : Text :=
      if c.toNat < 0x80 then [c.toLower]
      else if c == 'Σ' then [if endsWord before r then 'ς' else 'σ']
      else if c == 'İ' then ['i', .ofNat 0x307]
      else [(lookup? lowerRuns c).getD c]
    now ++ lowerAfter (c :: before) r

end Case

/-- The lower case of a text. -/
def lower (t : Text) : Text := Case.lowerAfter [] t

/-- The upper case of a character. -/
def upperChar (c : CodePoint) : Text :=
  if c.toNat < 0x80 then [c.toUpper]
  else
    match Case.upperExpansions.lookup c.toNat with
    | some cs => cs.map CodePoint.ofNat
    | none => [(Case.lookup? Case.upperRuns c).getD c]

/-- The upper case of a text. -/
def upper (t : Text) : Text := t.flatMap upperChar

/-- The small ASCII letter that a character equals up to case, or the character itself. Besides the
ASCII capitals, the dotted and the dotless i, the long s and the Kelvin sign count as letters. -/
def foldChar (c : CodePoint) : CodePoint :=
  if c.toNat < 0x80 then c.toLower
  else if c == 'İ' || c == 'ı' then 'i'
  else if c == 'ſ' then 's'
  else if c.toNat == 0x212A then 'k'
  else c

/-- The text with every character replaced by the small ASCII letter that it equals up to case. -/
def fold (t : Text) : Text := t.map foldChar

end Readiness.Text
