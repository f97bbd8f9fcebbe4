import Readiness.Text.Basic

/-!
# UTF-8

Texts as bytes and bytes as texts. A text that holds surrogates has no bytes; the fault names the
first run of them. Bytes that write no text are named by their positions, with what is wrong: a byte
that starts nothing, a byte that does not go on as it should, or an end that comes too early.
-/

namespace Readiness

/-! ## Writing -/

/-- Why a text has no UTF-8 form: the first run of surrogates, by its first and last offset. -/
structure EncodingFault where
  code : Nat
  first : Nat
  last : Nat

/-- The first run of surrogates in a text whose first code point has offset `i`. -/
def Text.encodingFaultFrom : Nat → Text → Option EncodingFault
  | _, [] => none
  | i, .char _ :: r => Text.encodingFaultFrom (i + 1) r
  | i, .surrogate n :: r =>
    some ⟨(CodePoint.surrogate n).toNat, i, i + (r.takeWhile CodePoint.isSurrogate).length⟩

/-- The first run of surrogates in a text, if there is one. -/
def Text.encodingFault? (t : Text) : Option EncodingFault := Text.encodingFaultFrom 0 t

/-- The report of a text that cannot be encoded. -/
def EncodingFault.message (f : EncodingFault) : Text :=
  if f.first = f.last then
    "'utf-8' codec can't encode character '\\u" ++ Text.ofChars (Nat.toDigits 16 f.code) ++
      "' in position " ++ toString f.first ++ ": surrogates not allowed"
  else
    "'utf-8' codec can't encode characters in position " ++ toString f.first ++ "-" ++
      toString f.last ++ ": surrogates not allowed"

/-- The UTF-8 bytes of one code point. A surrogate has none. -/
def utf8Bytes : CodePoint → List UInt8
  | .char c => String.utf8EncodeChar c
  | .surrogate _ => []

/-- The UTF-8 bytes of a text. -/
def Text.utf8 (t : Text) : List UInt8 := t.flatMap utf8Bytes

/-! ## Reading -/

/-- What can be wrong with bytes. -/
inductive DecodingReason where
  | badStart
  | badContinuation
  | earlyEnd

/-- The words of a reason. -/
def DecodingReason.text : DecodingReason → Text
  | .badStart => "invalid start byte"
  | .badContinuation => "invalid continuation byte"
  | .earlyEnd => "unexpected end of data"

/-- Bytes that cannot be read: the first of them, its position, how many they are, and why. -/
structure DecodingFault where
  byte : UInt8
  position : Nat
  count : Nat
  reason : DecodingReason

/-- Two hexadecimal digits of a byte. -/
def hexByte (b : UInt8) : Text :=
  let ds := Text.ofChars (Nat.toDigits 16 b.toNat)
  List.replicate (2 - ds.length) (CodePoint.char '0') ++ ds

/-- The words of a fault. -/
def DecodingFault.message (f : DecodingFault) : Text :=
  let which : Text :=
    if f.count = 1 then "byte 0x" ++ hexByte f.byte ++ " in position " ++ toString f.position
    else "bytes in position " ++ toString f.position ++ "-" ++ toString (f.position + f.count - 1)
  "'utf-8' codec can't decode " ++ which ++ ": " ++ f.reason.text

namespace Utf8

/-- Whether a byte goes on with a character. -/
def isContinuation (b : UInt8) : Bool := 0x80 ≤ b && b < 0xC0

/-- How many bytes follow the first byte of a character, and the range of the first of those. The
ranges leave out long forms, surrogates and what lies beyond the last code point. -/
def lead? (b : UInt8) : Option (Nat × UInt8 × UInt8) :=
  if b < 0x80 then some (0, 0x80, 0xBF)
  else if b < 0xC2 then none
  else if b < 0xE0 then some (1, 0x80, 0xBF)
  else if b == 0xE0 then some (2, 0xA0, 0xBF)
  else if b == 0xED then some (2, 0x80, 0x9F)
  else if b < 0xF0 then some (2, 0x80, 0xBF)
  else if b == 0xF0 then some (3, 0x90, 0xBF)
  else if b < 0xF4 then some (3, 0x80, 0xBF)
  else if b == 0xF4 then some (3, 0x80, 0x8F)
  else none

/-- The code that the first byte of a character with `n` more bytes begins. -/
def leadCode (b : UInt8) : Nat → Nat
  | 0 => b.toNat
  | 1 => b.toNat % 32
  | 2 => b.toNat % 16
  | _ => b.toNat % 8

/-- Reads the last `n` bytes of a character: `have?` holds how many of its bytes were read and
`lo`, `hi` the range of the next one. The result is the code and what follows, or the number of
bytes at fault and why. -/
def readTail (code : Nat) (seen : Nat) (lo hi : UInt8) :
    Nat → List UInt8 → Except (Nat × DecodingReason) (Nat × List UInt8)
  | 0, rest => .ok (code, rest)
  | _ + 1, [] => .error (seen, .earlyEnd)
  | n + 1, b :: rest =>
    if lo ≤ b && b ≤ hi then readTail (code * 64 + b.toNat % 64) (seen + 1) 0x80 0xBF n rest
    else .error (seen, .badContinuation)

/-- Reads the characters of bytes whose first byte has the given position. Each turn takes at least
one byte. -/
def decodeWithin : Nat → Nat → List UInt8 → Text → Except DecodingFault Text
  | 0, _, _, done => .ok done.reverse
  | _, _, [], done => .ok done.reverse
  | fuel + 1, position, b :: rest, done =>
    match lead? b with
    | none => .error ⟨b, position, 1, .badStart⟩
    | some (n, lo, hi) =>
      match readTail (leadCode b n) 1 lo hi n rest with
      | .error (count, reason) => .error ⟨b, position, count, reason⟩
      | .ok (code, rest) => decodeWithin fuel (position + n + 1) rest (.char (Char.ofNat code) :: done)

end Utf8

/-- The text that bytes write. -/
def Text.ofUtf8 (bytes : List UInt8) : Except DecodingFault Text :=
  Utf8.decodeWithin bytes.length 0 bytes []

/-- A text with a line feed at the end of each line: a carriage return, with or without a line feed
behind it, becomes one line feed. -/
def Text.withLineFeeds : Text → Text
  | [] => []
  | .char '\r' :: .char '\n' :: r => '\n' :: withLineFeeds r
  | .char '\r' :: r => '\n' :: withLineFeeds r
  | c :: r => c :: withLineFeeds r

end Readiness
