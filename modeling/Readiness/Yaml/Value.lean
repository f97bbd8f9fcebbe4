import Readiness.Decimal.Shortest
import Readiness.Text.Pattern
import Readiness.Text.Whole
import Readiness.Yaml.Node

/-!
# Values

What the nodes of a document stand for. A plain scalar without a tag is looked at for what it is: a
truth value, a number, nothing at all, or a day. Whole numbers may be written in base 2, 8, 10, 16
and 60, and everything that is nothing else is a text.

A mapping key may stand for a merge: the pairs of another mapping come before the pairs of this
one. Of two pairs with one key the last one counts, at the place of the first.
-/

namespace Readiness.Yaml

/-- What a node stands for. -/
inductive Value where
  | null
  | bool (b : Bool)
  | whole (n : Int)
  | float (x : Float)
  | text (s : Text)
  /-- A day of the calendar. -/
  | day (year month day : Nat)
  /-- A time of a day, as it was written. -/
  | moment (written : Text)
  | bytes (written : Text)
  | sequence (items : List Value)
  | mapping (pairs : List (Value × Value))
  /-- A set, by its members. -/
  | set (members : List Value)

/-- The kinds of scalars, by the tags that name them. -/
inductive ScalarKind where
  | null
  | bool
  | int
  | float
  | binary
  | timestamp
  | str
  | merge
  | value
deriving DecidableEq

namespace ScalarKind

/-- A digit. -/
def digit : Pattern := .one CodePoint.isDigit

/-- A digit, then digits and underscores. -/
def digits : Pattern := .seq digit (.atLeast 0 fun c => c.isDigit || c == '_')

/-- A sign or nothing. -/
def sign : Pattern := .atMost 1 fun c => c == '+' || c == '-'

/-- Minutes or seconds behind a colon, at least once. -/
def sixties : Pattern :=
  let part := Pattern.chain [.text ":", .atMost 1 fun c => '0' ≤ c && c ≤ '5', digit]
  .seq part (.many part)

/-- Truth values. -/
def bools : Pattern := .words [
  "yes", "Yes", "YES", "no", "No", "NO", "true", "True", "TRUE", "false", "False", "FALSE",
  "on", "On", "ON", "off", "Off", "OFF"]

/-- Numbers with a point. -/
def floats : Pattern :=
  let exponent := Pattern.optional <| .chain [
    .one fun c => c == 'e' || c == 'E', .one fun c => c == '+' || c == '-', .atLeast 1 CodePoint.isDigit]
  let fraction := Pattern.atLeast 0 fun c => c.isDigit || c == '_'
  .choice [
    .chain [sign, digits, .text ".", fraction, exponent],
    .chain [.text ".", digits, exponent],
    .chain [sign, digits, sixties, .text ".", fraction],
    .chain [sign, .words [".inf", ".Inf", ".INF"]],
    .words [".nan", ".NaN", ".NAN"]]

/-- Whole numbers. -/
def ints : Pattern :=
  let inBase (p : CodePoint → Bool) := Pattern.atLeast 1 fun c => p c || c == '_'
  let decimal := Pattern.seq (.one fun c => '1' ≤ c && c ≤ '9') (.atLeast 0 fun c => c.isDigit || c == '_')
  .seq sign <| .choice [
    .seq (.text "0b") (inBase fun c => c == '0' || c == '1'),
    .seq (.text "0") (inBase fun c => '0' ≤ c && c ≤ '7'),
    .text "0",
    decimal,
    .seq (.text "0x") (inBase fun c => (hexDigit? c).isSome),
    .seq decimal sixties]

/-- Days and times. -/
def timestamps : Pattern :=
  let one := digit
  let two := Pattern.seq digit digit
  let oneOrTwo := Pattern.seq one (.atMost 1 CodePoint.isDigit)
  let year := Pattern.exactly 4 CodePoint.isDigit
  let blank (c : CodePoint) : Bool := c == ' ' || c == '\t'
  let zone := Pattern.seq (.atLeast 0 blank) <| .either (.text "Z") <| .chain [
    .one fun c => c == '+' || c == '-', oneOrTwo, .optional (.seq (.text ":") two)]
  .either (.chain [year, .text "-", two, .text "-", two]) <| .chain [
    year, .text "-", oneOrTwo, .text "-", oneOrTwo,
    .either (.one fun c => c == 'T' || c == 't') (.atLeast 1 blank), oneOrTwo,
    .text ":", two, .text ":", two, .optional (.seq (.text ".") (.atLeast 0 CodePoint.isDigit)),
    .optional zone]

/-- The kind of a plain scalar without a tag. -/
def ofPlain (t : Text) : ScalarKind :=
  if bools.fillsText t then .bool
  else if floats.fillsText t then .float
  else if ints.fillsText t then .int
  else if t == "<<" then .merge
  else if t.isEmpty || ["~", "null", "Null", "NULL"].contains t.word then .null
  else if timestamps.fillsText t then .timestamp
  else if t == "=" then .value
  else .str

/-- What stands before the names of the tags of the language itself. -/
def common : Text := "tag:yaml.org,2002:"

/-- The kind that a tag names. -/
def ofTag? (tag : Text) : Option ScalarKind :=
  [(common ++ "null", ScalarKind.null), (common ++ "bool", .bool), (common ++ "int", .int),
    (common ++ "float", .float), (common ++ "binary", .binary),
    (common ++ "timestamp", .timestamp), (common ++ "str", .str), (common ++ "merge", .merge),
    (common ++ "value", .value)].lookup tag

/-- The kind of a scalar with the given tag, if it has one. -/
def of? (tag : Option Text) (plain : Bool) (t : Text) : Option ScalarKind :=
  match tag with
  | none => some (if plain then ofPlain t else .str)
  | some [.char '!'] => some (ofPlain t)
  | some tag => ofTag? tag

end ScalarKind

/-- The sign of a number and the number without it. -/
def signed : Text → Except Fault (Int × Text)
  | [] => .error .emptyNumber
  | .char '-' :: r => .ok (-1, r)
  | .char '+' :: r => .ok (1, r)
  | r => .ok (1, r)

/-- The natural number that digits write in a base. -/
def inBase (base : Nat) (t : Text) : Except Fault Int :=
  let n? := t.foldlM (fun n c => do
    let d ← hexDigit? c
    if d < base then some (n * base + d) else none) 0
  match n? with
  | some n => if t.isEmpty then .error (.whole base "") else .ok (n : Int)
  | none => .error (.whole base t)

/-- The whole number that a text writes in base 10. -/
def inTen (t : Text) : Except Fault Int :=
  match t.whole with
  | .ok n => .ok n
  | .error (.tooLong n) => .error (.longWhole n)
  | .error .malformed => .error (.whole 10 t)

/-- The whole number that a scalar writes. -/
def wholeOf (t : Text) : Except Fault Int := do
  let (sign, t) ← signed (t.filter (· != '_'))
  let n ← match t with
    | [] => .error .emptyNumber
    | [.char '0'] => .ok 0
    | .char '0' :: .char 'b' :: r => inBase 2 r
    | .char '0' :: .char 'x' :: r => inBase 16 r
    | .char '0' :: r => inBase 8 ('0' :: r)
    | t =>
      if t.contains ':' then
        (Text.splitBy (· == ':') t).foldlM (fun n part => do return n * 60 + (← inTen part)) 0
      else inTen t
  return sign * n

/-- The double that digits with a point and an exponent write. -/
def decimalOf (t : Text) : Except Fault Float :=
  let bad : Except Fault Float := .error (.float t)
  let first := t.takeWhile CodePoint.isDigit
  let r := t.drop first.length
  let (second, r) : Text × Text := match r with
    | .char '.' :: r' =>
      let f := r'.takeWhile CodePoint.isDigit
      (f, r'.drop f.length)
    | _ => ([], r)
  let value (ds : Text) : Nat := ds.foldl (fun n c => n * 10 + (c.toNat - 48)) 0
  let finish (exponent : Int) : Except Fault Float :=
    if first.isEmpty && second.isEmpty then bad
    else .ok (Decimal.toFloat (value (first ++ second)) (exponent - (second.length : Int)))
  match r with
  | [] => finish 0
  | e :: r' =>
    if e != 'e' then bad
    else
      let (sign, ds) : Int × Text := match r' with
        | .char '+' :: q => (1, q)
        | .char '-' :: q => (-1, q)
        | q => (1, q)
      if ds.isEmpty || !ds.all CodePoint.isDigit then bad else finish (sign * (value ds : Int))

/-- The double that a scalar writes. -/
def floatOf (t : Text) : Except Fault Float := do
  let (sign, t) ← signed (Text.lower (t.filter (· != '_')))
  let x ←
    if t == ".inf" then .ok (1.0 / 0.0)
    else if t == ".nan" then .ok (0.0 / 0.0)
    else if t.contains ':' then
      (Text.splitBy (· == ':') t).foldlM (fun x part => do return x * 60.0 + (← decimalOf part)) 0.0
    else decimalOf t
  return if sign < 0 then -x else x

/-- The truth value of a word. -/
def truthOf (t : Text) : Except Fault Bool :=
  let w := Text.lower t
  if ["yes", "true", "on"].contains w.word then .ok true
  else if ["no", "false", "off"].contains w.word then .ok false
  else .error (.truth w)

/-- How many days a month has. -/
def daysIn (year month : Nat) : Nat :=
  if month == 2 then
    if (year % 4 == 0 && year % 100 != 0) || year % 400 == 0 then 29 else 28
  else if [4, 6, 9, 11].contains month then 30 else 31

/-- The day or the time that a scalar writes. -/
def dateOf (t : Text) : Except Fault Value :=
  let numbers := (Text.splitBy (!CodePoint.isDigit ·) t).filter (!List.isEmpty ·)
  let numbers := numbers.map fun ds => ds.foldl (fun n c => n * 10 + (c.toNat - 48)) 0
  match numbers with
  | year :: month :: day :: more =>
    if year == 0 then .error (.date "year 0 is out of range")
    else if month == 0 || 12 < month then .error (.date "month must be in 1..12")
    else if day == 0 || daysIn year month < day then
      .error (.date "day is out of range for month")
    else
      match more with
      | hour :: minute :: second :: _ =>
        if 23 < hour then .error (.date "hour must be in 0..23")
        else if 59 < minute then .error (.date "minute must be in 0..59")
        else if 59 < second then .error (.date "second must be in 0..59")
        else .ok (.moment t)
      | _ => .ok (.day year month day)
  | _ => .error .malformed

/-- What a scalar of a kind stands for. -/
def scalarValue (kind : Option ScalarKind) (t : Text) : Except Fault Value :=
  match kind with
  | some .null => .ok .null
  | some .bool => do return .bool (← truthOf t)
  | some .int => do return .whole (← wholeOf t)
  | some .float => do return .float (← floatOf t)
  | some .binary => .ok (.bytes t)
  | some .timestamp => dateOf t
  | some .str => .ok (.text t)
  | _ => .error .malformed

namespace Value

/-- The number of a number or a truth value. -/
def number? : Value → Option Float
  | .bool b => some (if b then 1 else 0)
  | .whole n => some (Float.ofInt n)
  | .float x => some x
  | _ => none

/-- Whether two keys are one key. Numbers and truth values are compared as numbers. -/
def sameKey : Value → Value → Bool
  | .null, .null => true
  | .text a, .text b => a == b
  | .day a b c, .day x y z => a == x && b == y && c == z
  | .moment a, .moment b => a == b
  | .bytes a, .bytes b => a == b
  | a, b =>
    match a.number?, b.number? with
    | some x, some y => x == y
    | _, _ => false

/-- Pairs after one more: a key that is there keeps its place and takes the new value. -/
def setPair (pairs : List (Value × Value)) (key value : Value) : List (Value × Value) :=
  match pairs with
  | [] => [(key, value)]
  | (k, v) :: more => if k.sameKey key then (k, value) :: more else (k, v) :: setPair more key value

/-- Pairs with each key once. -/
def once (pairs : List (Value × Value)) : List (Value × Value) :=
  pairs.foldl (fun done (k, v) => setPair done k v) []

/-- What a key stands for. An equals sign by itself is a text, and collections are no keys. -/
def ofKey : Node → Except Fault Value
  | .scalar tag plain t =>
    let kind := ScalarKind.of? tag plain t
    if kind == some .value then .ok (.text t) else scalarValue kind t
  | _ => .error .malformed

/-- Whether a key stands for a merge. -/
def isMerge : Node → Bool
  | .scalar tag plain t => ScalarKind.of? tag plain t == some .merge
  | _ => false

mutual

/-- What a node stands for. -/
def ofNode : Node → Except Fault Value
  | .scalar tag plain t => scalarValue (ScalarKind.of? tag plain t) t
  | .sequence tag items =>
    if tag.isNone || tag == some "!" || tag == some (ScalarKind.common ++ "seq") then do
      return .sequence (← ofNodes items)
    else if tag == some (ScalarKind.common ++ "omap") ||
        tag == some (ScalarKind.common ++ "pairs") then do
      return .sequence (← ofSinglePairs items)
    else .error .malformed
  | .mapping tag pairs => do
    let (merged, own) ← ofPairs pairs
    if tag.isNone || tag == some "!" || tag == some (ScalarKind.common ++ "map") then
      .ok (.mapping (once (merged ++ own)))
    else if tag == some (ScalarKind.common ++ "set") then
      .ok (.set ((once (merged ++ own)).map (·.1)))
    else .error .malformed
  | .ring .sequence => .ok (.sequence [])
  | .ring .mapping => .ok (.mapping [])

/-- What the items of a sequence stand for. -/
def ofNodes : List Node → Except Fault (List Value)
  | [] => .ok []
  | x :: more => do return (← ofNode x) :: (← ofNodes more)

/-- What a sequence of mappings of one pair each stands for. -/
def ofSinglePairs : List Node → Except Fault (List Value)
  | [] => .ok []
  | .mapping _ [(k, v)] :: more => do
    return .mapping [(← ofNode k, ← ofNode v)] :: (← ofSinglePairs more)
  | _ => .error .malformed

/-- What the pairs of a mapping stand for: those that are merged in, and its own. -/
def ofPairs : List (Node × Node) →
    Except Fault (List (Value × Value) × List (Value × Value))
  | [] => .ok ([], [])
  | (k, v) :: more => do
    if isMerge k then
      let pairs ← mergedPairs v
      let (merged, own) ← ofPairs more
      .ok (pairs ++ merged, own)
    else
      let key ← ofKey k
      let value ← ofNode v
      let (merged, own) ← ofPairs more
      .ok (merged, (key, value) :: own)

/-- The pairs that a merge brings in: those of a mapping, or of several, where the first counts
most. -/
def mergedPairs : Node → Except Fault (List (Value × Value))
  | .mapping _ pairs => do
    let (merged, own) ← ofPairs pairs
    return merged ++ own
  | .sequence _ items => mergedItems items
  | _ => .error .malformed

/-- The pairs of several mappings, the last one first. -/
def mergedItems : List Node → Except Fault (List (Value × Value))
  | [] => .ok []
  | .mapping _ pairs :: more => do
    let (merged, own) ← ofPairs pairs
    return (← mergedItems more) ++ merged ++ own
  | _ => .error .malformed

end

/-- The value of the only document of a text; nothing if the text holds none. -/
def read (t : Text) : Except Fault Value := do
  match ← Node.ofTokens (← Token.scan t) with
  | some x => ofNode x
  | none => .ok .null

end Value

end Readiness.Yaml
