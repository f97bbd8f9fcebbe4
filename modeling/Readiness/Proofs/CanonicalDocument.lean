import Mathlib.Data.List.Forall2
import Mathlib.Data.List.Nodup
import Readiness.Json.Read
import Readiness.Json.Write
import Readiness.Proofs.PatchReading
import Readiness.Proofs.TextOrder

/-!
# One document for each value

The canonical document of a value sorts the fields of every object, so it says nothing about
their order. About all else it says everything: read from the left, it shows at each place which
value starts there and where that value ends (`write_append_iff`). From the parts of an array or an
object this goes to the whole (`inside_append_iff`), because what stands behind a part begins with
a sign that no value goes on with.

A whole number with too many digits is not written, and then there is no document. Which numbers a
value has does not depend on the order of fields either, so of two values that are equal up to that
order both have a document or neither.

Doubles are left out. A whole number is written differently from the double that equals it, and
the digits that a double is written with are not a matter of how documents are laid out.
-/

namespace Readiness.Json

/-- Two values are equal up to the order of fields, at every depth: arrays agree item by item,
objects have the same keys and agree key by key. -/
inductive Alike : Json → Json → Prop
  | null : Alike .null .null
  | bool (b : Bool) : Alike (.bool b) (.bool b)
  | int (n : Int) : Alike (.int n) (.int n)
  | str (s : Text) : Alike (.str s) (.str s)
  | arr {items others : List Json} (alike : List.Forall₂ Alike items others) :
    Alike (.arr items) (.arr others)
  | obj {fields others : List (Text × Json)}
    (keys : (fields.map (·.1)).Perm (others.map (·.1)))
    (alike : ∀ k v w, (k, v) ∈ fields → (k, w) ∈ others → Alike v w) :
    Alike (.obj fields) (.obj others)

namespace Alike

end Alike

/-- What follows a value does not go on with digits, so that a number ends where it should. -/
def Stops (r : Text) : Prop := ∀ c ∈ r.head?, c.isDigit = false

/-! ## Strings -/

namespace Style

variable {st : Style} {level : Nat}

/-- The parts of an array or an object, as they stand between its brackets. -/
def inside (st : Style) (level : Nat) : List Text → Text
  | [] => []
  | t :: more => st.lineBreak (level + 1) ++
      (t ++ more.flatMap (st.separator (level + 1) ++ ·)) ++ st.lineBreak level

/-- What follows the parts of an array or an object goes on with neither digits nor a comma. -/
def Ends (r : Text) : Prop := Stops r ∧ ∀ c ∈ r.head?, c ≠ ','

variable {α : Type} {R : α → α → Prop} {f : α → Text} {as bs : List α} {r s : Text}

end Style

/-! ## Values -/

/-- The kind of a value, as the first character of a text: a zero for numbers, a `t` for truth
values. -/
def sign : Json → CodePoint
  | .null => 'n'
  | .bool _ => 't'
  | .int _ | .float _ => '0'
  | .str _ => '"'
  | .arr _ => '['
  | .obj _ => '\x7b'

variable {st : Style}

end Readiness.Json
