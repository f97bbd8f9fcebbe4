/-!
# Shortest decimals

The fewest decimal digits that read back as a given double, found by exact arithmetic on natural
numbers. A finite double is `m · 2 ^ q`; the reals that round to it form an interval around it
whose ends belong to it exactly when `m` is even. For one digit, two digits, and so on, the two
neighbours of the value on the grid of that many digits are tried, and the first grid on which a
neighbour lies in the interval gives the digits; of two hits the nearer one is taken.
-/

namespace Readiness.Decimal

/-- The number `mantissa · 2 ^ exponent`. -/
structure Dyadic where
  mantissa : Nat
  exponent : Int

/-- The number `digits · 10 ^ exponent`. -/
structure Digits where
  digits : Nat
  exponent : Int
deriving DecidableEq, Repr

/-- The magnitude of a finite double. -/
def magnitude (x : Float) : Dyadic :=
  let bits := x.toBits.toNat
  let biased : Nat := bits / Nat.pow 2 52 % 2048
  let fraction : Nat := bits % Nat.pow 2 52
  if biased = 0 then ⟨fraction, -1074⟩ else ⟨fraction + Nat.pow 2 52, (biased : Int) - 1075⟩

/-- Whether the sign bit of a double is set, which it also is for the negative zero. -/
def isNegative (x : Float) : Bool := x.toBits.toNat / Nat.pow 2 63 == 1

/-- The value of a dyadic as a fraction of natural numbers. -/
def Dyadic.fraction (d : Dyadic) : Nat × Nat :=
  (d.mantissa * Nat.pow 2 d.exponent.toNat, Nat.pow 2 (-d.exponent).toNat)

/-- The whole number that a dyadic is, if it is one. -/
def Dyadic.whole? (d : Dyadic) : Option Nat :=
  let (num, den) := d.fraction
  if num % den = 0 then some (num / den) else none

/-- The least number of halvings of the unit by ten after which `num / den` reaches one, looked
for in `fuel` steps. -/
def leadingZeros (num den : Nat) : Nat → Nat
  | 0 => 0
  | fuel + 1 => if num * 10 ≥ den then 0 else leadingZeros (num * 10) den fuel + 1

/-- The least `k` with `num / den < 10 ^ k`, for a positive fraction above `10 ^ (-400)`. -/
def decimalPoint (num den : Nat) : Int :=
  if num ≥ den then ((Nat.toDigits 10 (num / den)).length : Int)
  else -((leadingZeros num den 400 : Nat) : Int)

/-- Whether `c · 10 ^ j` rounds to the double with the given magnitude. The interval reaches half a
unit of the mantissa to both sides, below a power of two only a quarter. -/
def Dyadic.holds (d : Dyadic) (c : Nat) (j : Int) : Bool :=
  let below := if d.mantissa = Nat.pow 2 52 ∧ d.exponent > -1074 then 1 else 2
  let scale := Nat.pow 2 d.exponent.toNat
  let den := 4 * Nat.pow 2 (-d.exponent).toNat
  let low := (4 * d.mantissa - below) * scale
  let high := (4 * d.mantissa + 2) * scale
  let num := c * Nat.pow 10 j.toNat * den
  let span := Nat.pow 10 (-j).toNat
  if d.mantissa % 2 = 0 then low * span ≤ num && num ≤ high * span
  else low * span < num && num < high * span

/-- The neighbour of the value on the grid `10 ^ j` that reads back, the nearer one if both do. -/
def Dyadic.neighbour? (d : Dyadic) (j : Int) : Option Nat :=
  let (num, den) := d.fraction
  let num := num * Nat.pow 10 (-j).toNat
  let den := den * Nat.pow 10 j.toNat
  let below := num / den
  let rest := num % den
  let nearer := if 2 * rest < den ∨ (2 * rest = den ∧ below % 2 = 0) then below else below + 1
  let other := if nearer = below then below + 1 else below
  if d.holds nearer j then some nearer
  else if d.holds other j then some other
  else none

/-- The digits without the zeros at their end. -/
def Digits.trim (d : Digits) : Nat → Digits
  | 0 => d
  | fuel + 1 =>
    if d.digits ≠ 0 ∧ d.digits % 10 = 0 then
      Digits.trim ⟨d.digits / 10, d.exponent + 1⟩ fuel
    else d

/-- The digits of the first grid of `n`, `n + 1`, … digits with a neighbour that reads back. -/
def Dyadic.firstHit (d : Dyadic) (point : Int) (n : Nat) : Nat → Digits
  | 0 => ⟨0, 0⟩
  | fuel + 1 =>
    let j := point - (n : Int)
    match d.neighbour? j with
    | some c => Digits.trim ⟨c, j⟩ 20
    | none => d.firstHit point (n + 1) fuel

/-- The shortest digits of a finite double's magnitude; zero has the digit `0`. -/
def shortest (x : Float) : Digits :=
  let d := magnitude x
  if d.mantissa = 0 then ⟨0, 0⟩
  else
    let (num, den) := d.fraction
    d.firstHit (decimalPoint num den) 1 18

/-- The double nearest to `mantissa · 10 ^ exponent`. Exponents far outside the range of doubles are
settled before any power is computed. -/
def toFloat (mantissa : Nat) (exponent : Int) : Float :=
  let size : Int := ((Nat.toDigits 10 mantissa).length : Int) + exponent
  if mantissa = 0 then 0.0
  else if size > 400 then 1.0 / 0.0
  else if size < -400 then 0.0
  else if exponent ≥ 0 then Float.ofScientific (mantissa * Nat.pow 10 exponent.toNat) false 0
  else Float.ofScientific mantissa true (-exponent).toNat

end Readiness.Decimal
