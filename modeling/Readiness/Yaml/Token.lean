import Readiness.Text.Utf8
import Readiness.Yaml.Scalar

/-!
# Tokens

A text is cut into tokens first. Indentation becomes tokens of its own: a block starts where the
first item of it stands and ends where a line stands further left.

A mapping key is only known for one when its colon comes. So each place where a key may start is
kept as a candidate with its number among the tokens, and when the colon comes the token for the
key goes in there. A candidate must fit on one line of at most 1024 characters. Where a block needs
a key, a candidate that turns out to be none makes the text malformed.
-/

namespace Readiness.Yaml

/-- What a line that starts with a percent sign says about the document. -/
inductive Directive where
  | version (major : Nat)
  | handle (name : Text) (stands : Text)
  | other

/-- A token. -/
inductive Token where
  | directive (d : Directive)
  | documentStart
  | documentEnd
  | blockSequence
  | blockMapping
  | blockEnd
  | openList
  | closeList
  | openMap
  | closeMap
  | dash
  | comma
  | key
  | value
  | alias (name : Text)
  | anchor (name : Text)
  | tag (handle : Option Text) (suffix : Text)
  | scalar (plain : Bool) (text : Text)

/-- A place where a mapping key may start. -/
structure Candidate where
  /-- The number of the token that would be the key. -/
  number : Nat
  /-- Whether the block needs a key here. -/
  needed : Bool
  index : Nat
  line : Nat
  column : Nat

/-- How far the cutting into tokens has come. -/
structure Scan where
  cursor : Cursor
  tokens : Array Token := #[]
  /-- The column of the innermost block, or −1. -/
  indent : Int := -1
  /-- The columns of the blocks around it. -/
  outer : List Int := []
  /-- How many brackets are open. -/
  depth : Nat := 0
  /-- Whether a key may start here. -/
  keyAllowed : Bool := true
  /-- The candidates, at most one for each number of open brackets. -/
  candidates : List (Nat × Candidate) := []

namespace Scan

/-- One more token. -/
def push (s : Scan) (t : Token) : Scan := { s with tokens := s.tokens.push t }

/-- One more token, of so many characters. -/
def take (s : Scan) (n : Nat) (t : Token) : Scan :=
  { s with tokens := s.tokens.push t, cursor := s.cursor.forward n }

/-- Tokens put in before the token of the given number. -/
def splice (s : Scan) (number : Nat) (ts : List Token) : Scan :=
  let all := s.tokens.toList
  { s with tokens := (all.take number ++ ts ++ all.drop number).toArray }

/-- Drops the candidates that can be none any more. -/
def dropStale (s : Scan) : Except Fault Scan :=
  let isStale (c : Candidate) : Bool := c.line != s.cursor.line || 1024 < s.cursor.index - c.index
  if s.candidates.any fun (_, c) => isStale c && c.needed then .error .malformed
  else .ok { s with candidates := s.candidates.filter fun (_, c) => !isStale c }

/-- Drops the candidate between the brackets that are open here. -/
def dropCandidate (s : Scan) : Except Fault Scan :=
  match s.candidates.lookup s.depth with
  | none => .ok s
  | some c =>
    if c.needed then .error .malformed
    else .ok { s with candidates := s.candidates.filter (·.1 != s.depth) }

/-- Keeps this place as a candidate, if a key may start here. -/
def addCandidate (s : Scan) : Except Fault Scan :=
  if !s.keyAllowed then .ok s
  else do
    let s ← s.dropCandidate
    let k := s.cursor
    let c : Candidate := {
      number := s.tokens.size, needed := s.depth == 0 && s.indent == (k.column : Int),
      index := k.index, line := k.line, column := k.column }
    return { s with candidates := (s.depth, c) :: s.candidates }

/-- Ends the blocks that stand to the right of a column. Inside brackets nothing ends. -/
def endBlocks (s : Scan) (column : Int) : Scan :=
  if s.depth != 0 then s
  else go s.outer.length s
where
  /-- There are no more blocks to end than there are blocks around the innermost one. -/
  go : Nat → Scan → Scan
    | 0, s => s
    | n + 1, s =>
      match s.outer with
      | o :: more =>
        if column < s.indent then go n ({ s with indent := o, outer := more }.push .blockEnd) else s
      | [] => s

/-- Starts a block at a column, if it lies to the right of the innermost one; says whether it
did. -/
def startBlock (s : Scan) (column : Nat) : Bool × Scan :=
  if s.indent < (column : Int) then
    (true, { s with outer := s.indent :: s.outer, indent := column })
  else (false, s)

/-- Skips blanks, comments and line ends. Behind the end of a line of a block a key may start. -/
def skipGaps : Nat → Scan → Scan
  | 0, s => s
  | n + 1, s =>
    let k := s.cursor.skipBlanks.skipComment
    let (b, k) := k.lineBreak
    if b.isEmpty then { s with cursor := k }
    else skipGaps n { s with cursor := k, keyAllowed := s.keyAllowed || s.depth == 0 }

/-- The bytes of the percent escapes of a tag at a place, and the place behind them. -/
def tagBytes : Nat → Cursor → Option (List UInt8 × Cursor)
  | 0, _ => none
  | n + 1, k =>
    if k.sees '%' then
      let digits := k.next.rest.take 2
      match if digits.length = 2 then hexValue? digits else none with
      | none => none
      | some v => (tagBytes n (k.forward 3)).map fun (bytes, k) => (v.toUInt8 :: bytes, k)
    else some ([], k)

/-- The characters of a tag. -/
def isTagChar (c : CodePoint) : Bool := c.isAlphanum || ("-;/?:@&=+$,_.!~*'()[]%" : Text).contains c

/-- Reads the name of a tag; it has at least one character. -/
def tagName : Nat → Cursor → Text → Except Fault (Text × Cursor)
  | 0, _, _ => .error .malformed
  | n + 1, k, done =>
    match k.head? with
    | some (.char '%') =>
      match tagBytes (k.rest.length + 1) k with
      | none => .error .malformed
      | some (bytes, k) =>
        match Text.ofUtf8 bytes with
        | .error _ => .error .malformed
        | .ok t => tagName n k (done ++ t)
    | some c =>
      if isTagChar c then tagName n k.next (done ++ [c])
      else if done.isEmpty then .error .malformed else .ok (done, k)
    | none => if done.isEmpty then .error .malformed else .ok (done, k)

/-- Reads the handle of a tag: an exclamation mark, or a name between two. -/
def tagHandle (k : Cursor) : Except Fault (Text × Cursor) :=
  if !k.sees '!' then .error .malformed
  else if k.peek 1 == some ' ' then .ok ("!", k.next)
  else
    let (name, behind) := k.next.span isNameChar
    if behind.sees '!' then .ok ("!" ++ name ++ "!", behind.next)
    else .error .malformed

/-- Reads a tag. -/
def readTag (k : Cursor) : Except Fault (Token × Cursor) := do
  let turns := k.rest.length + 1
  let (t, k) ←
    if k.peek 1 == some '<' then do
      let (name, k) ← tagName turns (k.forward 2) []
      if !k.sees '>' then .error .malformed
      else .ok (Token.tag none name, k.next)
    else if isGap (k.peek 1) then .ok (Token.tag none "!", k.next)
    else do
      let word := k.next.rest.takeWhile fun (c : CodePoint) => !(c == ' ' || isBreak c)
      let (handle, k) ← if word.contains '!' then tagHandle k else .ok ("!", k.next)
      let (name, k) ← tagName turns k []
      .ok (Token.tag (some handle) name, k)
  if isBlankOrEnd k.head? then .ok (t, k) else .error .malformed

/-- Reads the name of an anchor behind its sign. -/
def readName (k : Cursor) : Except Fault (Text × Cursor) :=
  let (name, k) := k.next.span isNameChar
  let ends := isGap k.head? || ((k.head?.map ("?:,]\x7d%@\x60" : Text).contains).getD false)
  if name.isEmpty || !ends then .error .malformed else .ok (name, k)

/-- Reads a number of a version. -/
def readNumber (k : Cursor) : Except Fault (Nat × Cursor) :=
  let (ds, k) := k.span CodePoint.isDigit
  if ds.isEmpty then .error .malformed
  else .ok (ds.foldl (fun n c => n * 10 + (c.toNat - 48)) 0, k)

/-- Reads a line that starts with a percent sign. -/
def readDirective (k : Cursor) : Except Fault (Directive × Cursor) := do
  let (name, k) := k.next.span isNameChar
  if name.isEmpty || !isBlankOrEnd k.head? then throw .malformed
  let (d, k) ←
    if name == "YAML" then do
      let (major, k) ← readNumber k.skipBlanks
      if !k.sees '.' then throw .malformed
      let (_, k) ← readNumber k.next
      if !isBlankOrEnd k.head? then throw .malformed
      .ok (Directive.version major, k)
    else if name == "TAG" then do
      let (handle, k) ← tagHandle k.skipBlanks
      if !k.sees ' ' then throw .malformed
      let (stands, k) ← tagName (k.rest.length + 1) k.skipBlanks []
      if !isBlankOrEnd k.head? then throw .malformed
      .ok (Directive.handle handle stands, k)
    else .ok (Directive.other, (k.span (!isBreak ·)).2)
  match k.restOfLine? with
  | some k => .ok (d, k)
  | none => .error .malformed

/-- Whether a plain scalar starts here. -/
def seesPlain (s : Scan) : Bool :=
  match s.cursor.head? with
  | none => false
  | some c =>
    !(isGap (some c) || ("-?:,[]\x7b\x7d#&*!|>'\"%@\x60" : Text).contains c) ||
      (!isGap (s.cursor.peek 1) && (c == '-' || (s.depth == 0 && (c == '?' || c == ':'))))

/-- The token of a mark between documents. -/
def documentMark (s : Scan) (t : Token) : Except Fault Scan := do
  let s ← (s.endBlocks (-1)).dropCandidate
  return { s with keyAllowed := false }.take 3 t

/-- The token of an opening bracket, which may start a key. -/
def opening (s : Scan) (t : Token) : Except Fault Scan := do
  let s ← s.addCandidate
  return { s with depth := s.depth + 1, keyAllowed := true }.take 1 t

/-- The token of a closing bracket. -/
def closing (s : Scan) (t : Token) : Except Fault Scan := do
  let s ← s.dropCandidate
  return { s with depth := s.depth - 1, keyAllowed := false }.take 1 t

/-- The token of a dash. -/
def dash (s : Scan) : Except Fault Scan := do
  let s ←
    if s.depth != 0 then .ok s
    else if !s.keyAllowed then .error .malformed
    else
      let (started, s) := s.startBlock s.cursor.column
      .ok (if started then s.push .blockSequence else s)
  let s ← { s with keyAllowed := true }.dropCandidate
  return s.take 1 .dash

/-- The token of a question mark. -/
def question (s : Scan) : Except Fault Scan := do
  let s ←
    if s.depth != 0 then .ok s
    else if !s.keyAllowed then .error .malformed
    else
      let (started, s) := s.startBlock s.cursor.column
      .ok (if started then s.push .blockMapping else s)
  let s ← { s with keyAllowed := s.depth == 0 }.dropCandidate
  return s.take 1 .key

/-- The token of a colon, behind a candidate or behind a key that was marked as one. -/
def colon (s : Scan) : Except Fault Scan :=
  match s.candidates.lookup s.depth with
  | some c =>
    let s := { s with candidates := s.candidates.filter (·.1 != s.depth), keyAllowed := false }
    let (started, s) := if s.depth == 0 then s.startBlock c.column else (false, s)
    .ok ((s.splice c.number (if started then [.blockMapping, .key] else [.key])).take 1 .value)
  | none => do
    let s ←
      if s.depth != 0 then .ok s
      else if !s.keyAllowed then .error .malformed
      else
        let (started, s) := s.startBlock s.cursor.column
        .ok (if started then s.push .blockMapping else s)
    let s ← { s with keyAllowed := s.depth == 0 }.dropCandidate
    return s.take 1 .value

/-- A token that may start a key, read by a reader. -/
def mayStartKey (s : Scan) (read : Cursor → Except Fault (Token × Cursor)) : Except Fault Scan := do
  let s ← s.addCandidate
  let (t, cursor) ← read s.cursor
  return { s with keyAllowed := false, cursor }.push t

/-- The token of a plain scalar. -/
def plain (s : Scan) : Except Fault Scan := do
  let s ← s.addCandidate
  let (text, crossed, cursor) := plainScalar (s.depth != 0) (s.indent + 1) s.cursor
  return { s with keyAllowed := crossed, cursor }.push (.scalar true text)

/-- The token of a block scalar. -/
def block (s : Scan) : Except Fault Scan := do
  let s ← { s with keyAllowed := true }.dropCandidate
  let (text, cursor) ← blockScalar s.indent s.cursor
  return { s with cursor }.push (.scalar false text)

/-- Reads the next token. The result says whether the text has ended. -/
def step (s : Scan) : Except Fault (Bool × Scan) := do
  let s ← (skipGaps (s.cursor.rest.length + 1) s).dropStale
  let k := s.cursor
  let s := s.endBlocks k.column
  match k.head? with
  | none =>
    let s ← (s.endBlocks (-1)).dropCandidate
    return (true, s)
  | some c =>
    let inBlock := s.depth == 0
    let gapBehind := isGap (k.peek 1)
    let s ←
      if c == '%' && k.column == 0 then do
        let s ← (s.endBlocks (-1)).dropCandidate
        let (d, cursor) ← readDirective k
        .ok ({ s with keyAllowed := false, cursor }.push (.directive d))
      else if k.column == 0 && k.seesMark '-' then s.documentMark .documentStart
      else if k.column == 0 && k.seesMark '.' then s.documentMark .documentEnd
      else if c == '[' then s.opening .openList
      else if c == '{' then s.opening .openMap
      else if c == ']' then s.closing .closeList
      else if c == '}' then s.closing .closeMap
      else if c == ',' then do
        let s ← { s with keyAllowed := true }.dropCandidate
        .ok (s.take 1 .comma)
      else if c == '-' && gapBehind then s.dash
      else if c == '?' && (!inBlock || gapBehind) then s.question
      else if c == ':' && (!inBlock || gapBehind) then s.colon
      else if c == '*' then s.mayStartKey fun k => do
        let (name, k) ← readName k
        return (.alias name, k)
      else if c == '&' then s.mayStartKey fun k => do
        let (name, k) ← readName k
        return (.anchor name, k)
      else if c == '!' then s.mayStartKey readTag
      else if (c == '|' || c == '>') && inBlock then s.block
      else if c == '\'' || c == '"' then s.mayStartKey fun k => do
        let (text, k) ← quotedScalar k
        return (.scalar false text, k)
      else if s.seesPlain then s.plain
      else .error .malformed
    return (false, s)

/-- Reads tokens until the text ends. Each step takes at least one character. -/
def run : Nat → Scan → Except Fault (List Token)
  | 0, _ => .error .malformed
  | n + 1, s =>
    match s.step with
    | .error f => .error f
    | .ok (true, s) => .ok s.tokens.toList
    | .ok (false, s) => run n s

end Scan

/-- The characters that a text may hold. -/
def isPrintable (c : CodePoint) : Bool :=
  let n := c.toNat
  n == 9 || n == 10 || n == 13 || (0x20 ≤ n && n ≤ 0x7E) || n == 0x85 ||
    (0xA0 ≤ n && n ≤ 0xD7FF) || (0xE000 ≤ n && n ≤ 0xFFFD) || 0x10000 ≤ n

/-- The tokens of a text. A byte order mark at the start is skipped. -/
def Token.scan (t : Text) : Except Fault (List Token) :=
  if !t.all isPrintable then .error .malformed
  else
    let k : Cursor := ⟨t, 0, 0, 0⟩
    let k := if (t.head?.map (·.toNat)) == some 0xFEFF then k.next else k
    Scan.run (t.length + 1) { cursor := k }

end Readiness.Yaml
