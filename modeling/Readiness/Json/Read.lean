import Readiness.Json.Basic
import Readiness.Script.Escape

/-!
# Reading JSON

A document is one value with nothing but blanks around it. Of two fields with one key the last one
counts, at the place of the first. Besides the numbers of the standard the three names `NaN`,
`Infinity` and `-Infinity` are read. A string may not hold control characters.

A fault names what was expected and where: line, column and offset. A whole number may not have more
digits than are read, and arrays and objects may not stand deeper in each other than are followed.
-/

namespace Readiness.Json

/-- What can be wrong with a document. -/
inductive Fault where
  | byteOrderMark
  | value
  | propertyName
  | colon
  | comma
  | unterminated
  | control
  | badEscape
  | badCodeEscape
  | extra
  | longNumeral (digits : Nat)
  /-- An array or an object stands too deep in others. -/
  | nesting (array : Bool)
deriving DecidableEq

/-- The greatest number of arrays and objects that stand in each other. -/
def mostOpen : Nat := 985

/-- The words of a fault. -/
def Fault.message : Fault → Text
  | .byteOrderMark => "Unexpected UTF-8 BOM (decode using utf-8-sig)"
  | .value => "Expecting value"
  | .propertyName => "Expecting property name enclosed in double quotes"
  | .colon => "Expecting ':' delimiter"
  | .comma => "Expecting ',' delimiter"
  | .unterminated => "Unterminated string starting at"
  | .control => "Invalid control character at"
  | .badEscape => "Invalid \\escape"
  | .badCodeEscape => "Invalid \\uXXXX escape"
  | .extra => "Extra data"
  | .longNumeral n => (Breakdown.longNumeral n).message
  | .nesting array => (Breakdown.nesting array).message

/-- A fault and its offset. -/
structure ReadError where
  fault : Fault
  offset : Nat

/-- Whether a fault is told without its place: the document is well-formed up to there. -/
def Fault.isPlaceless : Fault → Bool
  | .longNumeral _ | .nesting _ => true
  | _ => false

/-- A fault in the text it was found in: its words, its line, its column and its offset. -/
def ReadError.message (e : ReadError) (t : Text) : Text :=
  let before := t.take e.offset
  let line := before.count (.char '\n') + 1
  let column := (before.reverse.takeWhile (· != CodePoint.char '\n')).length + 1
  if e.fault.isPlaceless then e.fault.message
  else
    e.fault.message ++ ": line " ++ toString line ++ " column " ++ toString column ++ " (char " ++
      toString e.offset ++ ")"

/-- The blanks between the parts of a document. -/
def isBlank (c : CodePoint) : Bool := c == ' ' || c == '\t' || c == '\n' || c == '\r'

/-- A text to be read and the offset of its start. -/
abbrev Rest := Text × Nat

/-- The rest behind its blanks. -/
def skipBlanks : Text → Nat → Rest
  | c :: r, i => if isBlank c then skipBlanks r (i + 1) else (c :: r, i)
  | [], i => ([], i)

/-- Four hexadecimal digits. -/
def code? (t : Text) : Option (Nat × Text) :=
  match Script.hexDigits 4 0 t with
  | (some v, _, r) => some (v, r)
  | _ => none

/-- The characters with an escape of one letter. -/
def escaped? : CodePoint → Option CodePoint
  | .char '"' => some '"'
  | .char '\\' => some '\\'
  | .char '/' => some '/'
  | .char 'b' => some '\x08'
  | .char 'f' => some '\x0c'
  | .char 'n' => some '\n'
  | .char 'r' => some '\r'
  | .char 't' => some '\t'
  | _ => none

/-- The low half that follows a high one as an escape, with the rest behind it. -/
def lowHalf? (t : Text) : Option (Nat × Text) :=
  match t with
  | .char '\\' :: .char 'u' :: r =>
    match code? r with
    | some (v, rest) => if 0xDC00 ≤ v ∧ v ≤ 0xDFFF ∧ !rest.isEmpty then some (v, rest) else none
    | none => none
  | _ => none

/-- Reads a string from behind its opening quote, whose offset is `start`. Each turn takes a
character, so as many turns as characters are enough. -/
def readString (start : Nat) : Nat → Text → Nat → Text → Except ReadError (Text × Rest)
  | 0, _, _, _ => .error ⟨.unterminated, start⟩
  | _, [], _, _ => .error ⟨.unterminated, start⟩
  | _ + 1, .char '"' :: r, i, acc => .ok (acc.reverse, r, i + 1)
  | _ + 1, [.char '\\'], _, _ => .error ⟨.unterminated, start⟩
  | n + 1, .char '\\' :: .char 'u' :: r, i, acc =>
    if (r.drop 4).isEmpty then .error ⟨.badCodeEscape, i + 1⟩
    else
      match code? r with
      | none => .error ⟨.badCodeEscape, i + 1⟩
      | some (v, rest) =>
        if 0xD800 ≤ v ∧ v ≤ 0xDBFF then
          match lowHalf? rest with
          | some (w, rest') =>
            let c := CodePoint.ofNat (0x10000 + (v - 0xD800) * 0x400 + (w - 0xDC00))
            readString start n rest' (i + 12) (c :: acc)
          | none => readString start n rest (i + 6) (CodePoint.ofNat v :: acc)
        else readString start n rest (i + 6) (CodePoint.ofNat v :: acc)
  | n + 1, .char '\\' :: e :: r, i, acc =>
    match escaped? e with
    | some c => readString start n r (i + 2) (c :: acc)
    | none => .error ⟨.badEscape, i⟩
  | n + 1, c :: r, i, acc =>
    if c.toNat < 0x20 then .error ⟨.control, i⟩ else readString start n r (i + 1) (c :: acc)

/-- The number that digits write. -/
def digitsValue (ds : Text) : Nat := ds.foldl (fun n c => n * 10 + (c.toNat - 48)) 0

/-- Reads a number, if one starts here. -/
def readNumber (t : Text) : Except Fault (Json × Nat) :=
  let (negative, t') : Bool × Text := match t with
    | .char '-' :: r => (true, r)
    | r => (false, r)
  let whole : Text := match t' with
    | .char '0' :: _ => ['0']
    | r => r.takeWhile CodePoint.isDigit
  if whole.isEmpty then .error .value
  else
    let r := t'.drop whole.length
    let fraction : Text := match r with
      | .char '.' :: r' => r'.takeWhile CodePoint.isDigit
      | _ => []
    let r := if fraction.isEmpty then r else r.drop (fraction.length + 1)
    let (exponent, used) : Option Int × Nat :=
      match r with
      | e :: r' =>
        if e == 'e' || e == 'E' then
          let (sign, r'', n) : Int × Text × Nat := match r' with
            | .char '+' :: q => (1, q, 2)
            | .char '-' :: q => (-1, q, 2)
            | q => (1, q, 1)
          let ds := r''.takeWhile CodePoint.isDigit
          if ds.isEmpty then (none, 0) else (some (sign * digitsValue ds), n + ds.length)
        else (none, 0)
      | [] => (none, 0)
    let length := (if negative then 1 else 0) + whole.length +
      (if fraction.isEmpty then 0 else fraction.length + 1) + used
    if fraction.isEmpty && exponent.isNone then
      if mostDigits < whole.length then .error (.longNumeral whole.length)
      else
        let n : Int := digitsValue whole
        .ok (.int (if negative then -n else n), length)
    else
      let x := Decimal.toFloat (digitsValue (whole ++ fraction))
        (exponent.getD 0 - (fraction.length : Int))
      .ok (.float (if negative then -x else x), length)

/-- The words that stand for values. -/
def words : List (Text × Json) :=
  [("null", .null), ("true", .bool true), ("false", .bool false),
   ("NaN", .float (0.0 / 0.0)), ("Infinity", .float (1.0 / 0.0)),
   ("-Infinity", .float (-1.0 / 0.0))]

mutual

/-- Reads a value in which `left` arrays and objects may yet stand in each other. Each call takes a
character or reads a value that does, so twice as many calls as characters are enough. -/
def readValue (left : Nat) : Nat → Text → Nat → Except ReadError (Json × Rest)
  | 0, _, i => .error ⟨.value, i⟩
  | n + 1, t, i =>
    match t with
    | .char '"' :: r => do
      let (s, rest) ← readString i (r.length + 1) r (i + 1) []
      return (.str s, rest)
    | .char '[' :: r =>
      if left == 0 then .error ⟨.nesting true, i⟩
      else
        match skipBlanks r (i + 1) with
        | (.char ']' :: r, j) => .ok (.arr [], r, j + 1)
        | (r, j) => readItems (left - 1) n r j []
    | .char '{' :: r =>
      if left == 0 then .error ⟨.nesting false, i⟩
      else
        match skipBlanks r (i + 1) with
        | (.char '}' :: r, j) => .ok (.obj [], r, j + 1)
        | (r, j) => readFields (left - 1) n r j []
    | t =>
      match words.find? fun w => w.1.isPrefixOf t with
      | some (w, v) => .ok (v, t.drop w.length, i + w.length)
      | none =>
        match readNumber t with
        | .ok (v, k) => .ok (v, t.drop k, i + k)
        | .error fault => .error ⟨fault, i⟩

/-- Reads the items of an array up to its end. -/
def readItems (left : Nat) : Nat → Text → Nat → List Json → Except ReadError (Json × Rest)
  | 0, _, i, _ => .error ⟨.value, i⟩
  | n + 1, t, i, acc => do
    let (v, r, j) ← readValue left n t i
    match skipBlanks r j with
    | (.char ']' :: r, j) => return (.arr (v :: acc).reverse, r, j + 1)
    | (.char ',' :: r, j) =>
      let (r, j) := skipBlanks r (j + 1)
      readItems left n r j (v :: acc)
    | (_, j) => throw ⟨.comma, j⟩

/-- Reads the fields of an object up to its end. -/
def readFields (left : Nat) : Nat → Text → Nat → List (Text × Json) → Except ReadError (Json × Rest)
  | 0, _, i, _ => .error ⟨.value, i⟩
  | n + 1, t, i, acc =>
    match t with
    | .char '"' :: r => do
      let (key, r, j) ← readString i (r.length + 1) r (i + 1) []
      match skipBlanks r j with
      | (.char ':' :: r, j) =>
        let (r, j) := skipBlanks r (j + 1)
        let (v, r, j) ← readValue left n r j
        let acc := setField acc key v
        match skipBlanks r j with
        | (.char '}' :: r, j) => return (.obj acc, r, j + 1)
        | (.char ',' :: r, j) =>
          let (r, j) := skipBlanks r (j + 1)
          readFields left n r j acc
        | (_, j) => throw ⟨.comma, j⟩
      | (_, j) => throw ⟨.colon, j⟩
    | _ => .error ⟨.propertyName, i⟩

end

/-- Reads a document. -/
def read (t : Text) : Except ReadError Json :=
  if t.head? == some '\ufeff' then .error ⟨.byteOrderMark, 0⟩
  else do
    let (r, i) := skipBlanks t 0
    let (v, r, j) ← readValue mostOpen (2 * t.length + 2) r i
    match skipBlanks r j with
    | ([], _) => return v
    | (_, j) => throw ⟨.extra, j⟩

end Readiness.Json
