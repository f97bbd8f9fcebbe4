import Readiness.Breakdown
import Readiness.Text.Quoted
import Readiness.Yaml.Cursor

/-!
# Scalars

How the text of a scalar is read: in single quotes, in double quotes, as a block or plainly. In the
flow styles a line break counts as a blank and an empty line as a line feed.

Every turn of a loop here takes at least one character, so as many turns as characters are left are
enough.
-/

namespace Readiness.Yaml

/-- What the character behind a backslash stands for. -/
def escaped? : CodePoint → Option Nat
  | .char '0' => some 0
  | .char 'a' => some 7
  | .char 'b' => some 8
  | .char 't' => some 9
  | .char '\t' => some 9
  | .char 'n' => some 10
  | .char 'v' => some 11
  | .char 'f' => some 12
  | .char 'r' => some 13
  | .char 'e' => some 27
  | .char ' ' => some 32
  | .char '"' => some 34
  | .char '\\' => some 92
  | .char '/' => some 47
  | .char 'N' => some 0x85
  | .char '_' => some 0xA0
  | .char 'L' => some 0x2028
  | .char 'P' => some 0x2029
  | _ => none

/-- How many hexadecimal digits follow the character behind a backslash. -/
def codeDigits? : CodePoint → Option Nat
  | .char 'x' => some 2
  | .char 'u' => some 4
  | .char 'U' => some 8
  | _ => none

/-- The value of a hexadecimal digit. -/
def hexDigit? (c : CodePoint) : Option Nat :=
  if c.isDigit then some (c.toNat - 48)
  else if 'a' ≤ c && c ≤ 'f' then some (c.toNat - 87)
  else if 'A' ≤ c && c ≤ 'F' then some (c.toNat - 55)
  else none

/-- The value of hexadecimal digits. -/
def hexValue? (t : Text) : Option Nat :=
  t.foldlM (fun n c => (hexDigit? c).map (n * 16 + ·)) 0

/-- Why a text cannot be read. -/
inductive Fault where
  /-- The text is not YAML. -/
  | malformed
  /-- The escape of a code that no character has. -/
  | noCharacter
  /-- The escape of a code that does not even fit a machine word. -/
  | hugeCode
  /-- A scalar in digits of a base that is none. -/
  | whole (base : Nat) (given : Text)
  /-- A whole number with more digits than are read. -/
  | longWhole (digits : Nat)
  /-- A scalar marked as a number, with nothing in it. -/
  | emptyNumber
  | float (given : Text)
  | truth (given : Text)
  /-- A date that the calendar does not have, in words. -/
  | date (words : Text)

/-- The words of a fault. -/
def Fault.message : Fault → Text
  | .malformed => "invalid YAML"
  | .noCharacter => Breakdown.noCodePoint.message
  | .hugeCode => Breakdown.hugeReference.message
  | .whole base given =>
    "invalid literal for int() with base " ++ toString base ++ ": " ++ (quoted given).take 200
  | .longWhole n => (Breakdown.longNumeral n).message
  | .emptyNumber => "string index out of range"
  | .float given => "could not convert string to float: " ++ quoted given
  | .truth given => quoted given
  | .date words => words

/-- The empty lines behind the end of a line in quotes, with the blanks at the start of the next
one skipped. -/
def quotedBreaks : Nat → Cursor → Text → Except Fault (Text × Cursor)
  | 0, _, _ => .error .malformed
  | n + 1, k, done =>
    if k.seesDocumentMark then .error .malformed
    else
      let k := (k.span fun c => c == ' ' || c == '\t').2
      match k.head? with
      | some c =>
        if isBreak c then
          let (b, k) := k.lineBreak
          quotedBreaks n k (done ++ b)
        else .ok (done, k)
      | none => .ok (done, k)

/-- What the end of a line in quotes and the empty lines behind it stand for. -/
def foldedBreak (first more : Text) : Text :=
  if first != "\n" then first ++ more else if more.isEmpty then " " else more

/-- Reads up to the closing quote; `done` holds, backwards, what was read. -/
def quotedText (double : Bool) : Nat → Cursor → Text → Except Fault (Text × Cursor)
  | 0, _, _ => .error .malformed
  | n + 1, k, done =>
    match k.head? with
    | none => .error .malformed
    | some c =>
      if c == ' ' || c == '\t' || isBreak c then
        let (blanks, k) := k.span fun c => c == ' ' || c == '\t'
        match k.head? with
        | none => .error .malformed
        | some d =>
          if isBreak d then
            let (b, k) := k.lineBreak
            match quotedBreaks (n + 1) k [] with
            | .error f => .error f
            | .ok (more, k) => quotedText double n k ((foldedBreak b more).reverse ++ done)
          else quotedText double n k (blanks.reverse ++ done)
      else if !double && c == '\'' then
        if k.peek 1 == some '\'' then quotedText double n (k.forward 2) ('\'' :: done)
        else .ok (done.reverse, k.next)
      else if double && c == '"' then .ok (done.reverse, k.next)
      else if double && c == '\\' then
        let k := k.next
        match k.head? with
        | none => .error .malformed
        | some e =>
          match escaped? e, codeDigits? e with
          | some code, _ => quotedText double n k.next (.ofNat code :: done)
          | none, some count =>
            let k := k.next
            let digits := k.rest.take count
            match if digits.length = count then hexValue? digits else none with
            | none => .error .malformed
            | some code =>
              if 0x7FFFFFFF < code then .error .hugeCode
              else if 0x10FFFF < code then .error .noCharacter
              else quotedText double n (k.forward count) (CodePoint.ofNat code :: done)
          | none, none =>
            if isBreak e then
              match quotedBreaks (n + 1) k.lineBreak.2 [] with
              | .error f => .error f
              | .ok (more, k) => quotedText double n k (more.reverse ++ done)
            else .error .malformed
      else quotedText double n k.next (c :: done)

/-- Reads a scalar in quotes from its opening quote on. -/
def quotedScalar (k : Cursor) : Except Fault (Text × Cursor) :=
  quotedText (k.sees '"') (k.rest.length + 1) k.next []

/-- Blanks inside or behind a plain scalar: what they stand for, whether they run over the end of
a line, and the place behind them. -/
structure PlainGap where
  text : Text
  crossed : Bool
  cursor : Cursor

/-- The empty lines and blanks behind the end of a line of a plain scalar; nothing if a document
starts or ends there. -/
def plainBreaks : Nat → Cursor → Text → Option Text × Cursor
  | 0, k, done => (some done, k)
  | n + 1, k, done =>
    match k.head? with
    | some c =>
      if c == ' ' then plainBreaks n k.next done
      else if isBreak c then
        let (b, k) := k.lineBreak
        if k.seesDocumentMark then (none, k) else plainBreaks n k (done ++ b)
      else (some done, k)
    | none => (some done, k)

/-- The blanks at a place of a plain scalar. -/
def plainGap (k : Cursor) : PlainGap :=
  let (blanks, k) := k.span (· == ' ')
  match k.head? with
  | some c =>
    if isBreak c then
      let (b, k) := k.lineBreak
      if k.seesDocumentMark then ⟨[], true, k⟩
      else
        match plainBreaks (k.rest.length + 1) k [] with
        | (none, k) => ⟨[], true, k⟩
        | (some more, k) => ⟨foldedBreak b more, true, k⟩
    else ⟨blanks, false, k⟩
  | none => ⟨blanks, false, k⟩

/-- Whether a plain scalar ends before this character, with that one behind it. -/
def endsPlain (inFlow : Bool) (c : CodePoint) (behind : Option CodePoint) : Bool :=
  isGap (some c) ||
  (c == ':' && (isGap behind || (inFlow && ((behind.map (",[]\x7b\x7d" : Text).contains).getD false)))) ||
  (inFlow && (",?[]\x7b\x7d" : Text).contains c)

/-- The length of the next word of a plain scalar. -/
def plainWord (inFlow : Bool) : Text → Nat
  | [] => 0
  | c :: r => if endsPlain inFlow c r.head? then 0 else plainWord inFlow r + 1

/-- Reads the words of a plain scalar. In a block, lines must be indented by `indent`. The result
also says whether the end of a line was passed behind the last word. -/
def plainWords (inFlow : Bool) (indent : Int) : Nat → Cursor → Text → Text → Bool →
    Text × Bool × Cursor
  | 0, k, done, _, crossed => (done, crossed, k)
  | n + 1, k, done, gap, crossed =>
    if k.sees '#' then (done, crossed, k)
    else
      let length := plainWord inFlow k.rest
      if length = 0 then (done, crossed, k)
      else
        let done := done ++ gap ++ k.rest.take length
        let g := plainGap (k.forward length)
        if g.text.isEmpty || g.cursor.sees '#' || (!inFlow && (g.cursor.column : Int) < indent) then
          (done, g.crossed, g.cursor)
        else plainWords inFlow indent n g.cursor done g.text g.crossed

/-- Reads a plain scalar. -/
def plainScalar (inFlow : Bool) (indent : Int) (k : Cursor) : Text × Bool × Cursor :=
  plainWords inFlow indent (k.rest.length + 1) k [] [] false

/-- What becomes of the line breaks at the end of a block. -/
inductive Chomp where
  | strip
  | clip
  | keep
deriving DecidableEq

/-- Reads the signs behind the bar of a block: what becomes of the last line breaks, and how deep
the block is indented. -/
def blockSigns (k : Cursor) : Except Fault (Chomp × Option Nat × Cursor) :=
  let chomp? (k : Cursor) : Option Chomp := match k.head? with
    | some (.char '+') => some .keep
    | some (.char '-') => some .strip
    | _ => none
  let depth? (k : Cursor) : Option Nat := match k.head? with
    | some c => if c.isDigit then some (c.toNat - 48) else none
    | none => none
  let (chomp, depth, k) := match chomp? k, depth? k with
    | some c, _ =>
      match depth? k.next with
      | some d => (c, some d, k.forward 2)
      | none => (c, none, k.next)
    | none, some d =>
      match chomp? k.next with
      | some c => (c, some d, k.forward 2)
      | none => (Chomp.clip, some d, k.next)
    | none, none => (Chomp.clip, none, k)
  if depth == some 0 || !isBlankOrEnd k.head? then .error .malformed else .ok (chomp, depth, k)

/-- The empty lines before the first line of a block, and the greatest number of blanks that one
of them, or the first line, starts with. -/
def blockStart : Nat → Cursor → Text → Nat → Text × Nat × Cursor
  | 0, k, done, deepest => (done, deepest, k)
  | n + 1, k, done, deepest =>
    match k.head? with
    | some c =>
      if c == ' ' then blockStart n k.next done (max deepest k.next.column)
      else if isBreak c then
        let (b, k) := k.lineBreak
        blockStart n k (done ++ b) deepest
      else (done, deepest, k)
    | none => (done, deepest, k)

/-- The blanks of the indentation of a block line, as far as they go. -/
def skipIndent (indent : Nat) (k : Cursor) : Cursor :=
  k.forward ((k.rest.take (indent - k.column)).takeWhile (· == CodePoint.char ' ')).length

/-- The empty lines between two lines of a block, with the indentation of the next one skipped. -/
def blockBreaks (indent : Nat) : Nat → Cursor → Text → Text × Cursor
  | 0, k, done => (done, k)
  | n + 1, k, done =>
    match k.head? with
    | some c =>
      if isBreak c then
        let (b, k) := k.lineBreak
        blockBreaks indent n (skipIndent indent k) (done ++ b)
      else (done, k)
    | none => (done, k)

/-- Reads the lines of a block: `breaks` stands before the next line. The result is the text, the
end of its last line, the empty lines behind it and the place behind those. -/
def blockLines (folded : Bool) (indent : Nat) : Nat → Cursor → Text → Text → Text →
    Text × Text × Text × Cursor
  | 0, k, done, ending, breaks => (done, ending, breaks, k)
  | n + 1, k, done, ending, breaks =>
    if k.column != indent || k.head?.isNone then (done, ending, breaks, k)
    else
      let startsBlank (k : Cursor) : Bool := k.sees ' ' || k.sees '\t'
      let deeper := startsBlank k
      let (line, k) := k.span (!isBreak ·)
      let done := done ++ breaks ++ line
      let (ending, k) := k.lineBreak
      let (breaks, k) := blockBreaks indent (k.rest.length + 1) (skipIndent indent k) []
      if k.column != indent || k.head?.isNone then (done, ending, breaks, k)
      else if folded && ending == "\n" && !deeper && !startsBlank k then
        blockLines folded indent n k (if breaks.isEmpty then done ++ " " else done) [] breaks
      else blockLines folded indent n k (done ++ ending) [] breaks

/-- Reads a block scalar from its bar on, inside a collection with the given indentation. -/
def blockScalar (indent : Int) (k : Cursor) : Except Fault (Text × Cursor) :=
  let folded := k.sees '>'
  match blockSigns k.next with
  | .error f => .error f
  | .ok (chomp, depth, k) =>
    match k.restOfLine? with
    | none => .error .malformed
    | some k =>
      let least := (max (indent + 1) 1).toNat
      let turns := k.rest.length + 1
      let (breaks, indent, k) := match depth with
        | none =>
          let (breaks, deepest, k) := blockStart turns k [] 0
          (breaks, max least deepest, k)
        | some d =>
          let indent := least + d - 1
          let (breaks, k) := blockBreaks indent turns (skipIndent indent k) []
          (breaks, indent, k)
      let (done, ending, breaks, k) := blockLines folded indent turns k [] [] breaks
      .ok (match chomp with
        | .strip => done
        | .clip => done ++ ending
        | .keep => done ++ ending ++ breaks, k)

end Readiness.Yaml
