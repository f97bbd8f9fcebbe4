import Readiness.Script.Alphabet
import Readiness.Script.Complaint

/-!
# What stands between tokens

Gaps, line breaks and comments. Besides the two usual comments there are the two old markup
comments: `-->` comments out a line on which nothing but gaps and comments stands before it, and
`<!--` does so anywhere, though not in a module.

The skipper is one pass over the characters with a mode, so its recursion is on the text itself.
-/

namespace Readiness.Script

/-- What the skipper is inside of. -/
inductive Trivia where
  /-- Between tokens; the flag tells whether no token stands before on this line. -/
  | gap (fresh : Bool)
  /-- In a comment that ends with the line. -/
  | line
  /-- In a comment that ends with a mark; the flag is that of the gap around it. -/
  | block (fresh : Bool)

/-- The cursor at the first character that belongs to a token, and whether a block comment was left
open at the end of the script. `markup` admits the comment that starts with `<!--`. -/
def skipTrivia (markup : Bool) : Trivia → Text → Nat → Nat → Nat → Cursor × Bool
  | .gap _, [], i, l, s => (⟨[], i, l, s⟩, false)
  | .line, [], i, l, s => (⟨[], i, l, s⟩, false)
  | .block _, [], i, l, s => (⟨[], i, l, s⟩, true)
  | .gap _, .char '\r' :: .char '\n' :: r, i, l, _ => skipTrivia markup (.gap true) r (i + 2) (l + 1) (i + 2)
  | .line, .char '\r' :: .char '\n' :: r, i, l, _ => skipTrivia markup (.gap true) r (i + 2) (l + 1) (i + 2)
  | .block f, .char '\r' :: .char '\n' :: r, i, l, _ => skipTrivia markup (.block f) r (i + 2) (l + 1) (i + 2)
  | .gap _, .char '/' :: .char '/' :: r, i, l, s => skipTrivia markup .line r (i + 2) l s
  | .gap f, .char '/' :: .char '*' :: r, i, l, s => skipTrivia markup (.block f) r (i + 2) l s
  | .gap true, .char '-' :: .char '-' :: .char '>' :: r, i, l, s => skipTrivia markup .line r (i + 3) l s
  | .gap _, .char '<' :: .char '!' :: .char '-' :: .char '-' :: r, i, l, s =>
    if markup then skipTrivia markup .line r (i + 4) l s
    else (⟨'<' :: '!' :: '-' :: '-' :: r, i, l, s⟩, false)
  | .gap f, c :: r, i, l, s =>
    if isGap c then skipTrivia markup (.gap f) r (i + 1) l s
    else if isLineBreak c then skipTrivia markup (.gap true) r (i + 1) (l + 1) (i + 1)
    else (⟨c :: r, i, l, s⟩, false)
  | .line, c :: r, i, l, s =>
    if isLineBreak c then skipTrivia markup (.gap true) r (i + 1) (l + 1) (i + 1)
    else skipTrivia markup .line r (i + 1) l s
  | .block f, .char '*' :: .char '/' :: r, i, l, s => skipTrivia markup (.gap f) r (i + 2) l s
  | .block f, c :: r, i, l, s =>
    if isLineBreak c then skipTrivia markup (.block f) r (i + 1) (l + 1) (i + 1)
    else skipTrivia markup (.block f) r (i + 1) l s

/-- The cursor behind all trivia, with the problem of a block comment that is never closed. -/
def Cursor.skipTrivia (markup : Bool) (c : Cursor) : Cursor × List Problem :=
  let (c', unclosed) := Script.skipTrivia markup (.gap (c.index == 0)) c.rest c.index c.line c.lineStart
  (c', if unclosed then [c'.problem .illegalToken] else [])

end Readiness.Script
