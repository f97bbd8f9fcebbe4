import Readiness.Breakdown
import Readiness.Json.Basic

/-!
# Writing JSON

One printer for all documents. With an indentation every item and field stands on a line of its own;
without one everything stands on one line, with a blank behind commas and colons. Keys are sorted by
code points if the style says so. Characters beyond ASCII are written as they are, or as code point
escapes if the style says so.

A value is not written at all if a whole number in it has too many digits.
-/

namespace Readiness.Json

/-- How a document is written. -/
structure Style where
  /-- The number of blanks per level, or everything on one line. -/
  indent : Option Nat := some 2
  sorted : Bool := true
  asciiOnly : Bool := false

/-- Four hexadecimal digits. -/
def hex4 (n : Nat) : Text :=
  let ds := Text.ofChars (Nat.toDigits 16 n)
  List.replicate (4 - ds.length) (CodePoint.char '0') ++ ds

/-- The escape of a code point below `0x10000`. -/
def codeEscape (n : Nat) : Text := '\\' :: 'u' :: hex4 n

/-- A character inside a string. -/
def writeChar (asciiOnly : Bool) (c : CodePoint) : Text :=
  match c with
  | .char '"' => ['\\', '"']
  | .char '\\' => ['\\', '\\']
  | .char '\n' => ['\\', 'n']
  | .char '\r' => ['\\', 'r']
  | .char '\t' => ['\\', 't']
  | .char '\x08' => ['\\', 'b']
  | .char '\x0c' => ['\\', 'f']
  | c =>
    if c.toNat < 0x20 then codeEscape c.toNat
    else if asciiOnly && c.toNat > 0x7e then
      if c.toNat < 0x10000 then codeEscape c.toNat
      else
        let n := c.toNat - 0x10000
        codeEscape (0xD800 + n / 0x400) ++ codeEscape (0xDC00 + n % 0x400)
    else [c]

/-- A string in its quotes. -/
def writeString (asciiOnly : Bool) (s : Text) : Text :=
  "\"" ++ s.flatMap (writeChar asciiOnly) ++ "\""

/-- The fields in the order of their keys, if the style sorts. -/
def Style.order (st : Style) (fields : List (Text × α)) : List (Text × α) :=
  if st.sorted then fields.mergeSort fun a b => decide (a.1 ≤ b.1) else fields

/-- The line break before an item at the given level. -/
def Style.lineBreak (st : Style) (level : Nat) : Text :=
  match st.indent with
  | some n => '\n' :: List.replicate (n * level) ' '
  | none => []

/-- What stands between two items at the given level. -/
def Style.separator (st : Style) (level : Nat) : Text :=
  match st.indent with
  | some _ => ',' :: st.lineBreak level
  | none => [',', ' ']

mutual

/-- The text of a value at a level of nesting. -/
def Style.write (st : Style) (level : Nat) : Json → Text
  | .null => "null"
  | .bool true => "true"
  | .bool false => "false"
  | .int n => Decimal.intText n
  | .float x => Decimal.floatText x "Infinity" "NaN"
  | .str s => writeString st.asciiOnly s
  | .arr items =>
    match items with
    | [] => ['[', ']']
    | _ =>
      "[" ++ st.lineBreak (level + 1) ++
        Text.join (st.separator (level + 1)) (st.writeItems (level + 1) items) ++
        st.lineBreak level ++ "]"
  | .obj fields =>
    match fields with
    | [] => ['{', '}']
    | _ =>
      let written := st.writeFields (level + 1) fields
      "\x7b" ++ st.lineBreak (level + 1) ++
        Text.join (st.separator (level + 1)) ((st.order written).map (·.2)) ++
        st.lineBreak level ++ "\x7d"

/-- The texts of the items of an array. -/
def Style.writeItems (st : Style) (level : Nat) : List Json → List Text
  | [] => []
  | v :: more => st.write level v :: st.writeItems level more

/-- The keys of an object with the texts of their fields. -/
def Style.writeFields (st : Style) (level : Nat) : List (Text × Json) → List (Text × Text)
  | [] => []
  | (k, v) :: more =>
    (k, writeString st.asciiOnly k ++ ": " ++ st.write level v) :: st.writeFields level more

end

/-- The document of a value. -/
def render (st : Style) (v : Json) : Text := st.write 0 v

/-- The canonical document of a value, which ends its last line. -/
def canonical (indent : Option Nat) (sorted : Bool) (v : Json) : Text :=
  render { indent, sorted } v ++ "\n"

mutual

/-- The whole numbers in a value, at every depth. -/
def integers : Json → List Int
  | .int n => [n]
  | .arr items => itemIntegers items
  | .obj fields => fieldIntegers fields
  | .null | .bool _ | .float _ | .str _ => []

/-- The whole numbers in the items of an array. -/
def itemIntegers : List Json → List Int
  | [] => []
  | v :: more => integers v ++ itemIntegers more

/-- The whole numbers in the fields of an object. -/
def fieldIntegers : List (Text × Json) → List Int
  | [] => []
  | (_, v) :: more => integers v ++ fieldIntegers more

end

/-- Whether a whole number has more digits than numbers are written with. -/
def isLong (n : Int) : Bool := Nat.pow 10 mostDigits ≤ n.natAbs

/-- The canonical document of a value, if its numbers can be written. -/
def document (indent : Option Nat) (sorted : Bool) (v : Json) : Except Breakdown Text :=
  if v.integers.any isLong then .error .longNumber else .ok (canonical indent sorted v)

/-- The document of a value on one line, in ASCII. -/
def compact (v : Json) : Text :=
  render { indent := none, sorted := false, asciiOnly := true } v

end Readiness.Json
