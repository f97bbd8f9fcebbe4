import Readiness.Script.Place

/-!
# Lines of a script

Lines end at a line feed, a carriage return, a carriage return with its line feed, and at the two
separators. They are numbered from one.
-/

namespace Readiness.Script

/-- The offsets behind the line breaks of a text whose first character has offset `i`. -/
def breakEnds : Nat → Text → List Nat
  | _, [] => []
  | i, .char '\r' :: .char '\n' :: r => (i + 2) :: breakEnds (i + 2) r
  | i, c :: r => if isLineBreak c then (i + 1) :: breakEnds (i + 1) r else breakEnds (i + 1) r

/-- The offsets where the lines of a text start. -/
def lineStarts (t : Text) : List Nat := 0 :: breakEnds 0 t

/-- The number of the line that holds an offset: how many lines start at or before it. -/
def lineOfOffset (t : Text) (offset : Nat) : Nat := (lineStarts t).countP (· ≤ offset)

/-- The lines of a text without their breaks. -/
def linesOf : Text → List Text
  | [] => [[]]
  | .char '\r' :: .char '\n' :: r => [] :: linesOf r
  | c :: r =>
    if isLineBreak c then [] :: linesOf r
    else
      match linesOf r with
      | [] => [[c]]
      | l :: more => (c :: l) :: more

/-- The text of a line without its break; nothing for a number that is no line's. -/
def lineText (t : Text) (line : Nat) : Text :=
  if line = 0 then [] else ((linesOf t)[line - 1]?).getD []

/-- The blanks that a line starts with. -/
def indentOfLine (t : Text) (line : Nat) : Text :=
  (lineText t line).takeWhile fun c => c == ' ' || c == '\t'

end Readiness.Script
