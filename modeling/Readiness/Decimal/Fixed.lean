import Readiness.Decimal.Shortest
import Readiness.Text.Basic

/-!
# Fixed places

Doubles written with a fixed number of decimal places. The exact value is rounded to the nearest
number with that many places, and a tie goes to the even neighbour.
-/

namespace Readiness.Decimal

/-- The whole number nearest to `num / den`; a tie goes to the even neighbour. -/
def roundDiv (num den : Nat) : Nat :=
  let q := num / den
  let r := num % den
  if 2 * r < den then q
  else if den < 2 * r then q + 1
  else if q % 2 = 0 then q else q + 1

/-- A finite double with `places` decimal places. A zero has no sign. -/
def fixedText (places : Nat) (x : Float) : Text :=
  let (num, den) := (magnitude x).fraction
  let units := roundDiv (num * Nat.pow 10 places) den
  let ds := Text.ofChars (Nat.toDigits 10 units)
  let ds := List.replicate (places + 1 - ds.length) (CodePoint.char '0') ++ ds
  let whole := ds.take (ds.length - places)
  let sign := if isNegative x && units != 0 then "-" else ""
  sign ++ whole ++ "." ++ ds.drop (ds.length - places)

end Readiness.Decimal
