import Readiness.Text.Basic

/-!
# Globs

A glob is a row of parts: a star stands for any run of characters, a question mark for any one
character, a bracket for one character of a set, and every other character for itself. A star also
runs over slashes and line breaks.

A bracket reads as follows. An exclamation mark behind the bracket turns the set around, and a
closing bracket right behind either belongs to the set. A hyphen between two characters makes a
range; one at an end, or right behind a range, is a hyphen. A range that runs backwards is dropped
with both its ends. A bracket that is never closed stands for itself.
-/

namespace Readiness

/-- One part of a glob. -/
inductive GlobPart where
  /-- Any run of characters. -/
  | run
  /-- Any one character. -/
  | any
  /-- The character itself. -/
  | one (c : CodePoint)
  /-- A character in one of the ranges, or in none of them. -/
  | set (negated : Bool) (ranges : List (CodePoint × CodePoint))

/-- A glob. -/
abbrev Glob := List GlobPart

namespace Glob

/-- The pieces of the text inside a bracket between the hyphens that make ranges. A hyphen makes a
range if at least `lead` characters stand before it in its piece; the first piece needs one, or two
if it starts with an exclamation mark, and every other piece needs two. -/
def pieces (lead : Nat) : Text → List Text
  | [] => [[]]
  | c :: r =>
    if lead = 0 && c == '-' then [] :: pieces 2 r
    else
      match pieces (lead - 1) r with
      | [] => [[c]]
      | p :: more => (c :: p) :: more

/-- An empty last piece means that the hyphen before it makes no range: it joins the piece
before. -/
def keepLastHyphen : List Text → List Text
  | [p, []] => [p ++ "-"]
  | p :: more => p :: keepLastHyphen more
  | [] => []

/-- The pieces without the ranges that run backwards, which go with both their ends. -/
def dropBackward : List Text → List Text
  | [] => []
  | p :: more =>
    match dropBackward more with
    | [] => [p]
    | q :: rest =>
      match p.getLast?, q.head? with
      | some a, some b => if b < a then (p.dropLast ++ q.drop 1) :: rest else p :: q :: rest
      | _, _ => p :: q :: rest

/-- The ranges of the pieces: each character by itself, and from the end of each piece to the start
of the next. -/
def rangesOf : List Text → List (CodePoint × CodePoint)
  | [] => []
  | p :: more =>
    let own := p.map fun c => (c, c)
    match more with
    | [] => own
    | q :: _ =>
      let between := match p.getLast?, q.head? with
        | some a, some b => [(a, b)]
        | _, _ => [('-', '-')]
      own ++ between ++ rangesOf more

/-- The part for the text inside a bracket. -/
def bracket (inside : Text) : GlobPart :=
  let lead := if inside.head? = some '!' then 2 else 1
  match dropBackward (keepLastHyphen (pieces lead inside)) with
  | (.char '!' :: p) :: more =>
    if p.isEmpty && more.isEmpty then .any else .set true (rangesOf (p :: more))
  | ps => .set false (rangesOf ps)

/-- The text inside a bracket and the text behind it, if the bracket is closed. -/
def bracketed? (t : Text) : Option (Text × Text) :=
  let skip := if t.head? = some '!' then 1 else 0
  let skip := if (t.drop skip).head? = some ']' then skip + 1 else skip
  let tail := t.drop skip
  let inside := tail.takeWhile (· != CodePoint.char ']')
  match tail.drop inside.length with
  | [] => none
  | _ :: rest => some (t.take skip ++ inside, rest)

/-- The glob that a text writes. Each turn takes at least one character. -/
def ofTextWithin : Nat → Text → Glob
  | 0, _ => []
  | _, [] => []
  | n + 1, c :: r =>
    match c with
    | .char '*' => .run :: ofTextWithin n r
    | .char '?' => .any :: ofTextWithin n r
    | .char '[' =>
      match bracketed? r with
      | some (inside, rest) => bracket inside :: ofTextWithin n rest
      | none => .one '[' :: ofTextWithin n r
    | c => .one c :: ofTextWithin n r

/-- The glob that a text writes. -/
def ofText (t : Text) : Glob := ofTextWithin t.length t

end Glob

/-- Whether a part that stands for one character stands for this one. -/
def GlobPart.fits (c : CodePoint) : GlobPart → Bool
  | .run => false
  | .any => true
  | .one d => c == d
  | .set negated ranges => (ranges.any fun (a, b) => decide (a ≤ c) && decide (c ≤ b)) != negated

/-- Whether a glob stands for a whole text. -/
def Glob.accepts : Glob → Text → Bool
  | [], t => t.isEmpty
  | .run :: more, [] => Glob.accepts more []
  | .run :: more, c :: r => Glob.accepts more (c :: r) || Glob.accepts (.run :: more) r
  | _ :: _, [] => false
  | p :: more, c :: r => p.fits c && Glob.accepts more r
termination_by g t => g.length + t.length

end Readiness
