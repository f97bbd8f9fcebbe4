import Readiness.Text.Basic

/-!
# A place in a YAML text

What is left to read, and where it starts. Lines end at a line feed, a carriage return with or
without a line feed behind it, a next line mark and the two separators. A byte order mark has no
width.
-/

namespace Readiness.Yaml

/-- The characters that end a line. -/
def isBreak (c : CodePoint) : Bool :=
  c == '\n' || c == '\r' || c.toNat == 0x85 || c.toNat == 0x2028 || c.toNat == 0x2029

/-- Whether a line ends here, or the text does. -/
def endsLine : Option CodePoint → Bool
  | none => true
  | some c => isBreak c

/-- Whether a blank, a tab or the end of a line stands here, or the text ends. -/
def isGap : Option CodePoint → Bool
  | none => true
  | some c => c == ' ' || c == '\t' || isBreak c

/-- Whether a blank or the end of a line stands here, or the text ends. -/
def isBlankOrEnd : Option CodePoint → Bool
  | none => true
  | some c => c == ' ' || isBreak c

/-- The letters, digits and signs that make up names. -/
def isNameChar (c : CodePoint) : Bool := c.isAlphanum || c == '-' || c == '_'

/-- What is left to read, with the number of characters before it, its line and its column. -/
structure Cursor where
  rest : Text
  index : Nat := 0
  line : Nat := 0
  column : Nat := 0

namespace Cursor

/-- The `n`-th of the characters that are left. -/
def peek (k : Cursor) (n : Nat) : Option CodePoint := k.rest[n]?

/-- The next character. -/
def head? (k : Cursor) : Option CodePoint := k.rest.head?

/-- Whether the next character is this one. -/
def sees (k : Cursor) (c : CodePoint) : Bool := k.head? == some c

/-- The place behind the next character. -/
def next (k : Cursor) : Cursor :=
  match k.rest with
  | [] => k
  | c :: r =>
    if isBreak c && !(c == '\r' && r.head? == some '\n') then ⟨r, k.index + 1, k.line + 1, 0⟩
    else if c.toNat == 0xFEFF then ⟨r, k.index + 1, k.line, k.column⟩
    else ⟨r, k.index + 1, k.line, k.column + 1⟩

/-- The place behind the next `n` characters. -/
def forward (k : Cursor) : Nat → Cursor
  | 0 => k
  | n + 1 => k.next.forward n

/-- The longest run of characters of a class, and the place behind it. -/
def span (k : Cursor) (p : CodePoint → Bool) : Text × Cursor :=
  let t := k.rest.takeWhile p
  (t, k.forward t.length)

/-- The place behind the blanks. -/
def skipBlanks (k : Cursor) : Cursor := (k.span (· == ' ')).2

/-- The place behind a comment, at the end of its line, if one starts here. -/
def skipComment (k : Cursor) : Cursor :=
  if k.sees '#' then (k.span (!isBreak ·)).2 else k

/-- The end of a line, as it counts in a text, and the place behind it; nothing if the line does
not end here. The separators keep their character, all others count as a line feed. -/
def lineBreak (k : Cursor) : Text × Cursor :=
  match k.rest with
  | .char '\r' :: .char '\n' :: _ => (['\n'], k.forward 2)
  | c :: _ =>
    if !isBreak c then ([], k)
    else if c.toNat == 0x2028 || c.toNat == 0x2029 then ([c], k.next)
    else (['\n'], k.next)
  | [] => ([], k)

/-- Whether three dashes, or three dots, stand here by themselves. -/
def seesMark (k : Cursor) (c : CodePoint) : Bool := k.rest.take 3 == [c, c, c] && isGap (k.peek 3)

/-- Whether a document starts or ends here. -/
def seesDocumentMark (k : Cursor) : Bool := k.seesMark '-' || k.seesMark '.'

/-- The place behind blanks, a comment and the end of the line; nothing if something else stands on
the line. -/
def restOfLine? (k : Cursor) : Option Cursor :=
  let k := k.skipBlanks.skipComment
  if endsLine k.head? then some k.lineBreak.2 else none

end Cursor

end Readiness.Yaml
