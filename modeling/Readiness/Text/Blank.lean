import Readiness.Text.Basic

/-!
# Blanks and line ends

Two classes of characters: those that count as blank when a text is trimmed, and those that end a
line when a text is cut into lines for a diff or a snippet.
-/

namespace Readiness

/-- The characters that count as blank. -/
def isBlank (c : CodePoint) : Bool :=
  let n := c.toNat
  (9 ≤ n && n ≤ 13) || (28 ≤ n && n ≤ 32) || n == 0x85 || n == 0xA0 || n == 0x1680 ||
    (0x2000 ≤ n && n ≤ 0x200A) || n == 0x2028 || n == 0x2029 || n == 0x202F || n == 0x205F ||
    n == 0x3000

/-- The characters that end a line. -/
def isLineEnd (c : CodePoint) : Bool :=
  let n := c.toNat
  (10 ≤ n && n ≤ 13) || (28 ≤ n && n ≤ 30) || n == 0x85 || n == 0x2028 || n == 0x2029

namespace Text

/-- The text without blanks at its ends. -/
def trim (t : Text) : Text := trimBy isBlank t

/-- The lines of a text, each with the characters that end it. A carriage return and its line feed
end one line; a last line that is empty is none. -/
def linesWithEnds : Text → List Text
  | [] => []
  | .char '\r' :: .char '\n' :: r => ['\r', '\n'] :: linesWithEnds r
  | c :: r =>
    if isLineEnd c then [c] :: linesWithEnds r
    else
      match linesWithEnds r with
      | [] => [[c]]
      | l :: more => (c :: l) :: more

/-- The lines of a text without the characters that end them. -/
def lines (t : Text) : List Text := (linesWithEnds t).map fun l => dropLineEnd l
where
  /-- A line without what ends it. -/
  dropLineEnd (l : Text) : Text := l.takeWhile (!isLineEnd ·)

end Text

end Readiness
