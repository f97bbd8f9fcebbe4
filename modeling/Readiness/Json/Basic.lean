import Readiness.Decimal.Numeral
import Readiness.Text.Utf8

/-!
# JSON values

Objects keep the order of their keys. Whole numbers are unbounded and differ from doubles, which are
the numbers written with a point or an exponent.
-/

namespace Readiness

/-- A JSON value. -/
inductive Json where
  | null
  | bool (b : Bool)
  | int (n : Int)
  | float (x : Float)
  | str (s : Text)
  | arr (items : List Json)
  | obj (fields : List (Text × Json))
deriving Inhabited

namespace Json

/-- The value of a key; nothing for what is no object or lacks the key. -/
def get? (j : Json) (key : Text) : Option Json :=
  match j with
  | .obj fields => fields.lookup key
  | _ => none

/-- The text of a string value. -/
def str? : Json → Option Text
  | .str s => some s
  | _ => none

/-- The number of a whole number. -/
def int? : Json → Option Int
  | .int n => some n
  | _ => none

/-- The items of an array. -/
def arr? : Json → Option (List Json)
  | .arr items => some items
  | _ => none

/-- The fields of an object. -/
def obj? : Json → Option (List (Text × Json))
  | .obj fields => some fields
  | _ => none

/-- Whether the value is `null`. -/
def isNull : Json → Bool
  | .null => true
  | _ => false

/-- Whether a value counts as true: it is neither absent, false, zero nor empty. -/
def isTrue : Json → Bool
  | .null => false
  | .bool b => b
  | .int n => n != 0
  | .float x => x != 0
  | .str s => !s.isEmpty
  | .arr items => !items.isEmpty
  | .obj fields => !fields.isEmpty

/-- The fields of an object after one more: a key that is there keeps its place and takes the new
value. -/
def setField (fields : List (Text × Json)) (key : Text) (value : Json) : List (Text × Json) :=
  match fields with
  | [] => [(key, value)]
  | (k, v) :: more => if k = key then (k, value) :: more else (k, v) :: setField more key value

/-- A string, or `null` where there is none. -/
def ofOption (s : Option Text) : Json := (s.map Json.str).getD .null

/-- The field of a string under a key, or no field where there is none. -/
def stringField (key : Text) (s : Option Text) : List (Text × Json) :=
  match s with
  | some s => [(key, .str s)]
  | none => []

/-- A list of strings. -/
def strings (l : List Text) : Json := .arr (l.map .str)

/-- A natural number. -/
def nat (n : Nat) : Json := .int n

mutual

/-- Whether all strings and keys in a value can be encoded. -/
def isEncodable : Json → Bool
  | .str s => !s.any CodePoint.isSurrogate
  | .arr items => areItemsEncodable items
  | .obj fields => areFieldsEncodable fields
  | _ => true

/-- Whether all strings in the items can be encoded. -/
def areItemsEncodable : List Json → Bool
  | [] => true
  | v :: more => isEncodable v && areItemsEncodable more

/-- Whether all strings and keys in the fields can be encoded. -/
def areFieldsEncodable : List (Text × Json) → Bool
  | [] => true
  | (k, v) :: more => !k.any CodePoint.isSurrogate && isEncodable v && areFieldsEncodable more

end

mutual

/-- Equality of values as documents: objects are equal if they hold the same fields in any order,
and a whole number equals the double of the same value. -/
def same : Json → Json → Bool
  | .null, .null => true
  | .bool a, .bool b => a == b
  | .int a, .int b => a == b
  | .float a, .float b => a == b
  | .int a, .float b => Float.ofInt a == b
  | .float a, .int b => a == Float.ofInt b
  | .str a, .str b => a == b
  | .arr a, .arr b => sameItems a b
  | .obj a, .obj b => a.length == b.length && sameFields a b
  | _, _ => false

/-- Equality item by item. -/
def sameItems : List Json → List Json → Bool
  | [], [] => true
  | a :: more, b :: rest => same a b && sameItems more rest
  | _, _ => false

/-- Whether every field on the left stands on the right too. -/
def sameFields : List (Text × Json) → List (Text × Json) → Bool
  | [], _ => true
  | (k, v) :: more, other =>
    (match other.lookup k with
      | some w => same v w
      | none => false) && sameFields more other

end

end Json

end Readiness
