/-!
# Code points

A text is made of code points. Nearly all of them are characters; the rest are surrogates, which an
escape in a script or a document can name although they are no characters and have no UTF-8 form.
-/

namespace Readiness

/-- A code point: a character, or one of the surrogates, counted from the first. -/
inductive CodePoint where
  | char (c : Char)
  | surrogate (n : Fin 2048)
deriving DecidableEq, Inhabited

instance : Coe Char CodePoint := ⟨.char⟩

namespace CodePoint

/-- The number of a code point. -/
def toNat : CodePoint → Nat
  | .char c => c.toNat
  | .surrogate n => 0xD800 + n.val

/-- The code point of a number. A number beyond the last code point has none and gives the first. -/
def ofNat (n : Nat) : CodePoint :=
  if h : 0xD800 ≤ n ∧ n < 0xE000 then .surrogate ⟨n - 0xD800, by omega⟩ else .char (Char.ofNat n)

/-- Whether a code point is no character. -/
def isSurrogate : CodePoint → Bool
  | .char _ => false
  | .surrogate _ => true

/-- Whether a code point is a decimal digit of ASCII. -/
def isDigit : CodePoint → Bool
  | .char c => c.isDigit
  | .surrogate _ => false

/-- Whether a code point is a letter of ASCII. -/
def isAlpha : CodePoint → Bool
  | .char c => c.isAlpha
  | .surrogate _ => false

/-- Whether a code point is a letter or decimal digit of ASCII. -/
def isAlphanum (c : CodePoint) : Bool := c.isAlpha || c.isDigit

/-- The small letter of an ASCII capital; any other code point stays. -/
def toLower : CodePoint → CodePoint
  | .char c => .char c.toLower
  | c => c

/-- The capital of a small ASCII letter; any other code point stays. -/
def toUpper : CodePoint → CodePoint
  | .char c => .char c.toUpper
  | c => c

/-- Code points come in the order of their numbers. -/
instance : LT CodePoint := ⟨fun a b => a.toNat < b.toNat⟩

instance : LE CodePoint := ⟨fun a b => a.toNat ≤ b.toNat⟩

instance (a b : CodePoint) : Decidable (a < b) := inferInstanceAs (Decidable (a.toNat < b.toNat))

instance (a b : CodePoint) : Decidable (a ≤ b) := inferInstanceAs (Decidable (a.toNat ≤ b.toNat))

/-- Surrogates and characters have different numbers, so the number tells the code point. -/
theorem ofNat_toNat (c : CodePoint) : ofNat c.toNat = c := by
  cases c with
  | char c =>
    have valid := c.valid
    simp only [UInt32.isValidChar, Nat.isValidChar] at valid
    have outside : ¬ (0xD800 ≤ c.toNat ∧ c.toNat < 0xE000) := by
      simp only [Char.toNat]
      omega
    simp [toNat, ofNat, outside]
  | surrogate n =>
    have inside : 0xD800 ≤ 0xD800 + n.val ∧ 0xD800 + n.val < 0xE000 := by omega
    simp [toNat, ofNat, inside]

end CodePoint

end Readiness
