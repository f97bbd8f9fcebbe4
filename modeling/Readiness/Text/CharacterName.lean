import Readiness.Text.Basic
import Readiness.Text.CharacterName.Aliases
import Readiness.Text.CharacterName.Alphabets
import Readiness.Text.CharacterName.Historic
import Readiness.Text.CharacterName.Pictures
import Readiness.Text.CharacterName.Syllables
import Readiness.Text.CharacterName.Symbols

/-!
# Names of characters

The code point of a character that is called by its name in the Unicode character database. Names
are found in capital and small letters alike.

Most names stand in tables, in the order of their code points. A table is one long text that is cut
into lines anywhere. Each name is written as what it adds to the one before: a small letter tells
how many characters are dropped from the end of that one, `a` none and `z` twenty-five, and a point
that all are. Then come the characters that are added, where some frequent words are written as one
sign. A code point in parentheses before a name says that the name does not belong to the next code
point but to this one.

The names of ideographs end with their code points, and those of Korean syllables spell out the
letters of the syllable; these are read instead of looked up, and in capital letters only.
-/

namespace Readiness.CharacterName

/-- The signs for frequent words. -/
def signs : List (Char × String) := [
  ('$', " LETTER "), ('%', " WITH "), ('&', " FORM"), ('*', "RIGHT"), ('+', " AND "),
  (':', " ARROW"), (';', " SIGN"), ('<', " ABOVE"), ('=', " BELOW"), ('>', "LEFT"),
  ('@', "DOUBLE"), ('^', " TRIANGLE"), ('_', " SYMBOL"), ('|', " MARK"), ('~', "BLACK"),
  (',', "VERTICAL ")]

/-- A place in a table: the name that is being spelt, last character first, its code point and the
one after it. -/
structure Speller where
  name : List Char := []
  code : Nat := 0
  next : Nat := 0
  /-- The code point that is being read between parentheses. -/
  given : Option Nat := none
  /-- The code point of the name that is looked for, once it was met. -/
  found : Option Nat := none

namespace Speller

/-- The name being spelt is complete. -/
def complete (wanted : List Char) (s : Speller) : Speller :=
  if s.found.isNone && s.name == wanted then { s with found := some s.code } else s

/-- The next name starts with that much of the last one. -/
def start (rest : List Char) (s : Speller) : Speller :=
  { s with name := rest, code := s.next, next := s.next + 1 }

/-- The value of a hexadecimal digit. -/
def digit (c : Char) : Nat := if c.isDigit then c.toNat - 48 else c.toNat - 55

/-- Reads a character of a table, looking for a name, whose last character comes first. -/
def step (wanted : List Char) (s : Speller) (c : Char) : Speller :=
  match s.given with
  | some n =>
    if c == ')' then { s with next := n, given := none }
    else { s with given := some (n * 16 + digit c) }
  | none =>
    if c == '(' then { s.complete wanted with given := some 0 }
    else if c == '.' then (s.complete wanted).start []
    else if c.isLower then (s.complete wanted).start (s.name.drop (c.toNat - 'a'.toNat))
    else
      match signs.lookup c with
      | some word => { s with name := word.toList.reverse ++ s.name }
      | none => { s with name := c :: s.name }

end Speller

/-- The code point of a name in a table. -/
def inTable? (name : List Char) (table : List String) : Option Nat :=
  let wanted := name.reverse
  let last := table.foldl (fun s line => line.toList.foldl (Speller.step wanted) s) {}
  (last.complete wanted).found

/-- The tables. -/
def tables : List (List String) :=
  [alphabets, symbols, syllables, historic, pictures, aliases]

/-- The value of hexadecimal digits, which are capital letters where they are letters. -/
def codeOf? (digits : List Char) : Option Nat :=
  if digits.all fun c => c.isDigit || ('A' ≤ c && c ≤ 'F') then
    some (digits.foldl (fun n c => n * 16 + Speller.digit c) 0)
  else none

/-- Whether a code point lies in one of the ranges, ends included. -/
def isWithin (ranges : List (Nat × Nat)) (n : Nat) : Bool :=
  ranges.any fun (first, last) => first ≤ n && n ≤ last

/-- The unified ideographs. -/
def ideographs : List (Nat × Nat) := [
  (0x3400, 0x4DBF), (0x4E00, 0x9FFF), (0x20000, 0x2A6DF), (0x2A700, 0x2B738), (0x2B740, 0x2B81D),
  (0x2B820, 0x2CEA1), (0x2CEB0, 0x2EBE0), (0x30000, 0x3134A)]

/-- The other characters whose names end with their code points. -/
def numbered : List (String × List (Nat × Nat)) := [
  ("CJK COMPATIBILITY IDEOGRAPH-", [(0xF900, 0xFA6D), (0xFA70, 0xFAD9), (0x2F800, 0x2FA1D)]),
  ("KHITAN SMALL SCRIPT CHARACTER-", [(0x18B00, 0x18CD5)]),
  ("NUSHU CHARACTER-", [(0x1B170, 0x1B2FB)])]

/-- What stands behind the first part of a name. -/
def behind? (first : String) (name : List Char) : Option (List Char) :=
  if first.toList.isPrefixOf name then some (name.drop first.length) else none

/-- The unified ideograph with the given digits, of which there are four or five. -/
def ideograph? (digits : List Char) : Option Nat :=
  if digits.length = 4 ∨ digits.length = 5 then
    (codeOf? digits).filter (isWithin ideographs)
  else none

/-- The character with the given name among those whose names end with their code points. -/
def numbered? (name : List Char) : Option Nat :=
  numbered.findSome? fun (first, ranges) => do
    let digits ← behind? first name
    if digits.length ≤ 3 || digits.head? == some '0' then none
    else (codeOf? digits).filter (isWithin ranges)

/-- The second names of the variation selectors: `VS1` to `VS256`. -/
def selector? (name : List Char) : Option Nat := do
  let digits ← behind? "VS" name
  if digits.isEmpty || 3 < digits.length || digits.head? == some '0' || !digits.all Char.isDigit then
    none
  else
    let n := digits.foldl (fun n c => n * 10 + Speller.digit c) 0
    if n ≤ 16 then some (0xFE00 + n - 1)
    else if n ≤ 256 then some (0xE0100 + n - 17)
    else none

/-- The letters that can begin a Korean syllable, in order. -/
def initials : List String :=
  ["G", "GG", "N", "D", "DD", "R", "M", "B", "BB", "S", "SS", "", "J", "JJ", "C", "K", "T", "P", "H"]

/-- The vowels of Korean syllables, in order. -/
def vowels : List String :=
  ["A", "AE", "YA", "YAE", "EO", "E", "YEO", "YE", "O", "WA", "WAE", "OE", "YO", "U", "WEO", "WE",
    "WI", "YU", "EU", "YI", "I"]

/-- The letters that can end a Korean syllable, in order. -/
def finals : List String :=
  ["", "G", "GG", "GS", "N", "NJ", "NH", "D", "L", "LG", "LM", "LB", "LS", "LT", "LP", "LH", "M",
    "B", "BS", "S", "SS", "NG", "J", "C", "K", "T", "P", "H"]

/-- The number of the longest of the letters with which a text starts, and what follows it. -/
def longest? (letters : List String) (t : List Char) : Option (Nat × List Char) :=
  let fitting := letters.zipIdx.filter fun (l, _) => l.toList.isPrefixOf t
  let best := fitting.foldl (fun best x =>
    match best with
    | some b => if b.1.length < x.1.length then some x else some b
    | none => some x) (none : Option (String × Nat))
  best.map fun (l, i) => (i, t.drop l.length)

/-- The Korean syllable that is spelt out. -/
def syllable? (t : List Char) : Option Nat := do
  let (l, t) ← longest? initials t
  let (v, t) ← longest? vowels t
  let (f, t) ← longest? finals t
  if t.isEmpty then some (0xAC00 + (l * vowels.length + v) * finals.length + f) else none

/-- The code point of the character with the given name. -/
def find? (name : Text) : Option Nat :=
  let given := name.word.toList
  let capital := given.map Char.toUpper
  match behind? "HANGUL SYLLABLE " given, behind? "CJK UNIFIED IDEOGRAPH-" given with
  | some letters, _ => syllable? letters
  | none, some digits => ideograph? digits
  | none, none =>
    ((numbered? capital).orElse fun _ => selector? capital).orElse fun _ =>
      tables.findSome? (inTable? capital)

end Readiness.CharacterName
