import Readiness.Text.Utf8

/-!
# Breakdowns

Most of what is wrong with an input has an answer: a script that does not parse is an issue, a
repair that fails is an entry in the ledger. A breakdown is what has none. It ends the computation
that meets it, and the caller hears of it in its own words.
-/

namespace Readiness

/-- Why a computation could not go on. -/
inductive Breakdown where
  /-- A text with surrogates has to be encoded. -/
  | unencodable (fault : EncodingFault)
  /-- A whole number has too many digits to be written. -/
  | longNumber
  /-- A numeral has too many digits to be read. -/
  | longNumeral (digits : Nat)
  /-- A character reference lies beyond the last code point. -/
  | noCodePoint
  /-- A character reference does not even fit a machine word. -/
  | hugeReference
  /-- A piece from inside a template stands where an expression starts. -/
  | strayTemplatePiece
  /-- An offset lies beyond the end of a text. -/
  | beyondText
  /-- A quoted string of a query is closed by no text, because another run of values follows. -/
  | valuesForText
  /-- An array or an object of a document stands too deep in others. -/
  | nesting (array : Bool)
  /-- An issue was made anew with parts that no issue has, in the words of that fault. -/
  | badIssue (fault : Text)

/-- The greatest number of digits in which numbers are read and written. -/
def mostDigits : Nat := 4300

/-- The words of a breakdown. -/
def Breakdown.message : Breakdown → Text
  | .unencodable f => f.message
  | .longNumber =>
    "Exceeds the limit (" ++ toString mostDigits ++ " digits) for integer string conversion; " ++
      "use sys.set_int_max_str_digits() to increase the limit"
  | .longNumeral n =>
    "Exceeds the limit (" ++ toString mostDigits ++ " digits) for integer string conversion: " ++
      "value has " ++ toString n ++ " digits; " ++
      "use sys.set_int_max_str_digits() to increase the limit"
  | .noCodePoint => "chr() arg not in range(0x110000)"
  | .hugeReference => "Python int too large to convert to C int"
  | .strayTemplatePiece => "Template literal must start with a template head"
  | .beyondText => "string index out of range"
  | .valuesForText => "'list' object has no attribute 'find'"
  | .nesting array =>
    "maximum recursion depth exceeded while decoding a JSON " ++
      (if array then "array" else "object") ++ " from a unicode string"
  | .badIssue fault => fault

/-- Whether what broke down is a value that an input gives, rather than a step of the program. -/
def Breakdown.isBadValue : Breakdown → Bool
  | .unencodable _ | .longNumber | .longNumeral _ | .noCodePoint | .badIssue _ => true
  | .hugeReference | .strayTemplatePiece | .beyondText | .valuesForText | .nesting _ =>
    false

end Readiness
