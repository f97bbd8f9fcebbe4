import Readiness.Json.Basic
import Readiness.Text.Quoted

/-!
# Values in messages

How messages show a value of a document: strings in single quotes where they can be, `None` for
null, `True` and `False` for booleans.
-/

namespace Readiness.Json

mutual

/-- A value as messages show it. -/
def shown : Json → Text
  | .null => "None"
  | .bool true => "True"
  | .bool false => "False"
  | .int n => Decimal.intText n
  | .float x => Decimal.floatText x "inf" "nan"
  | .str s => quoted s
  | .arr items => "[" ++ Text.join ", " (shownItems items) ++ "]"
  | .obj fields => "\x7b" ++ Text.join ", " (shownFields fields) ++ "\x7d"

/-- Items as messages show them. -/
def shownItems : List Json → List Text
  | [] => []
  | v :: more => shown v :: shownItems more

/-- Fields as messages show them. -/
def shownFields : List (Text × Json) → List Text
  | [] => []
  | (k, v) :: more => (quoted k ++ ": " ++ shown v) :: shownFields more

end

end Readiness.Json
