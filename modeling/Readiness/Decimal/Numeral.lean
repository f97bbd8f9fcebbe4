import Readiness.Breakdown
import Readiness.Decimal.Shortest

/-!
# Numerals

How numbers are written. Whole numbers are unbounded. Doubles are written with their shortest
digits: positionally while the decimal point stands at most 16 digits to the right and fewer than
four zeros follow it, otherwise with a signed exponent of at least two digits; a positional double
always shows a point.
-/

namespace Readiness.Decimal

/-- The decimal text of a natural number. -/
def natText (n : Nat) : Text := Text.ofChars (Nat.toDigits 10 n)

/-- The decimal text of an integer. -/
def intText (n : Int) : Text :=
  if n < 0 then "-" ++ natText n.natAbs else natText n.natAbs

/-- The text of the positive number with the given shortest digits. -/
def Digits.text (d : Digits) : Text :=
  let ds := Text.ofChars (Nat.toDigits 10 d.digits)
  let n := ds.length
  let point : Int := (n : Int) + d.exponent
  let zeros (k : Int) : Text := List.replicate k.toNat '0'
  if point > 16 ∨ point ≤ -4 then
    let e := point - 1
    let mag := natText e.natAbs
    let mag := if mag.length < 2 then "0" ++ mag else mag
    let sign := if e < 0 then "e-" else "e+"
    match ds with
    | [] => []
    | [c] => c :: sign ++ mag
    | c :: more => c :: "." ++ more ++ sign ++ mag
  else if point ≤ 0 then "0." ++ zeros (-point) ++ ds
  else if point ≥ n then ds ++ zeros (point - n) ++ ".0"
  else ds.take point.toNat ++ "." ++ ds.drop point.toNat

/-- The text of a double; infinities and the undefined value are spelled by the caller. -/
def floatText (x : Float) (infinity undefinedText : Text) : Text :=
  if x.isNaN then undefinedText
  else
    let sign := if isNegative x then "-" else ""
    if x.isInf then sign ++ infinity
    else
      let d := shortest x
      if d.digits = 0 then sign ++ "0.0" else sign ++ d.text

/-- A number as a script or a document holds it: whole, or a double that is not. -/
inductive Numeral where
  | whole (n : Nat)
  | double (x : Float)
deriving Inhabited

/-- The numeral of a double that is not negative: whole if it is. -/
def Numeral.ofFloat (x : Float) : Numeral :=
  if x.isInf || x.isNaN then .double x
  else
    match (magnitude x).whole? with
    | some n => .whole n
    | none => .double x

/-- Whether a numeral has more digits than are written. -/
def Numeral.isLong : Numeral → Bool
  | .whole n => Nat.pow 10 mostDigits ≤ n
  | .double _ => false

/-- The text of a numeral. -/
def Numeral.text : Numeral → Text
  | .whole n => natText n
  | .double x => floatText x "inf" "nan"

end Readiness.Decimal
