import Readiness.Breakdown
import Readiness.Text.Blank
import Readiness.Text.Quoted

/-!
# Whole numbers in settings

A whole number as people write it into a setting: blanks around it are ignored, a sign may stand
before it, single underscores may stand between its digits, and the digits may be those of any
script.
-/

namespace Readiness

/-- The digits zero of all scripts; the other nine follow each of them. -/
def zeroDigits : List Nat := [
  0x30, 0x660, 0x6f0, 0x7c0, 0x966, 0x9e6, 0xa66, 0xae6, 0xb66, 0xbe6, 0xc66, 0xce6, 0xd66, 0xde6,
  0xe50, 0xed0, 0xf20, 0x1040, 0x1090, 0x17e0, 0x1810, 0x1946, 0x19d0, 0x1a80, 0x1a90, 0x1b50,
  0x1bb0, 0x1c40, 0x1c50, 0xa620, 0xa8d0, 0xa900, 0xa9d0, 0xa9f0, 0xaa50, 0xabf0, 0xff10, 0x104a0,
  0x10d30, 0x11066, 0x110f0, 0x11136, 0x111d0, 0x112f0, 0x11450, 0x114d0, 0x11650, 0x116c0,
  0x11730, 0x118e0, 0x11950, 0x11c50, 0x11d50, 0x11da0, 0x16a60, 0x16ac0, 0x16b50, 0x1d7ce,
  0x1d7d8, 0x1d7e2, 0x1d7ec, 0x1d7f6, 0x1e140, 0x1e2f0, 0x1e950, 0x1fbf0]

/-- The value of a digit of any script. -/
def digitValue? (c : CodePoint) : Option Nat :=
  (zeroDigits.find? fun z => z ≤ c.toNat && c.toNat < z + 10).map (c.toNat - ·)

/-- Why a text is no whole number. -/
inductive WholeFault where
  | malformed
  /-- More digits than are read. -/
  | tooLong (digits : Nat)

/-- The words for a text that is no whole number; of a long text only the start is shown. -/
def WholeFault.message (given : Text) : WholeFault → Text
  | .malformed => "invalid literal for int() with base 10: " ++ (quoted given).take 200
  | .tooLong n => (Breakdown.longNumeral n).message

namespace Text

/-- The blanks that may stand around a whole number: the control characters that separate records
are none. -/
def isNumberBlank (c : CodePoint) : Bool := isBlank c && !(28 ≤ c.toNat && c.toNat ≤ 31)

/-- The values of digits with single underscores between them. -/
def digitValues? : Text → Option (List Nat)
  | [] => none
  | [c] => (digitValue? c).map ([·])
  | c :: .char '_' :: r => do return (← digitValue? c) :: (← digitValues? r)
  | c :: r => do return (← digitValue? c) :: (← digitValues? r)

/-- The natural number with the given digits. -/
def ofDigitValues (ds : List Nat) : Nat := ds.foldl (fun n d => n * 10 + d) 0

/-- The whole number that a text writes. -/
def whole (t : Text) : Except WholeFault Int :=
  let unsigned (sign : Int) (t : Text) : Except WholeFault Int :=
    match digitValues? t with
    | none => .error .malformed
    | some ds =>
      if mostDigits < ds.length then .error (.tooLong ds.length)
      else .ok (sign * ofDigitValues ds)
  match trimBy isNumberBlank t with
  | .char '-' :: r => unsigned (-1) r
  | .char '+' :: r => unsigned 1 r
  | r => unsigned 1 r

end Text

end Readiness
