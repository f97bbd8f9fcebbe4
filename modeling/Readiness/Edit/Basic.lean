import Readiness.Text.Basic

/-!
# Edits

An edit replaces a range of a text. A list of edits is applied at once: the ranges refer to the
text as it was before any of them, everything outside the ranges is kept, and edits whose ranges
overlap or reach past the end of the text are refused. The edits are made from the last one to the
first, so that each finds its range where it was.
-/

namespace Readiness

/-- Replaces the characters from offset `start` up to offset `stop`. -/
structure Edit where
  start : Nat
  stop : Nat
  replacement : Text
  /-- A range does not end before it starts. -/
  ordered : start ≤ stop

namespace Edit

/-- A range that no edit can have. -/
structure BadRange where
  start : Int
  stop : Int
deriving DecidableEq

/-- The words for a range that no edit can have. -/
def BadRange.message (r : BadRange) : Text :=
  "invalid edit range [" ++ toString r.start ++ ", " ++ toString r.stop ++ ")"

/-- The edit of a range, if it is one. -/
def ofRange (start stop : Int) (replacement : Text) : Except BadRange Edit :=
  if h : 0 ≤ start ∧ start ≤ stop then
    .ok ⟨start.toNat, stop.toNat, replacement, Int.toNat_le_toNat h.2⟩
  else .error ⟨start, stop⟩

/-- The edit that puts a text in at an offset. -/
def insert (offset : Nat) (replacement : Text) : Edit := ⟨offset, offset, replacement, Nat.le_refl _⟩

/-- Whether `a` comes before `b`, or shares its range: by start, then by end. -/
def comesFirst (a b : Edit) : Bool :=
  decide (a.start < b.start ∨ a.start = b.start ∧ a.stop ≤ b.stop)

/-- The edits in the order of their ranges; edits of one range keep their order. -/
def sorted (edits : List Edit) : List Edit := edits.mergeSort comesFirst

/-- Why a list of edits cannot be applied. -/
inductive Refusal where
  /-- The second edit starts before the first one ends. -/
  | overlap (first second : Nat × Nat)
  /-- The last edit reaches past the end of the text. -/
  | pastEnd
deriving DecidableEq

/-- The words for a refusal. -/
def Refusal.message : Refusal → Text
  | .overlap (a, b) (c, d) =>
    "overlapping edits at offsets " ++ toString a ++ "-" ++ toString b ++ " and " ++
      toString c ++ "-" ++ toString d
  | .pastEnd => "edit extends past end of text"

/-- The first pair of neighbours in a sorted list that overlap. -/
def overlap? : List Edit → Option Refusal
  | a :: b :: more =>
    if b.start < a.stop then some (.overlap (a.start, a.stop) (b.start, b.stop))
    else overlap? (b :: more)
  | _ => none

/-- What is wrong with a sorted list of edits of a text of the given length. -/
def refusal? (length : Nat) (edits : List Edit) : Option Refusal :=
  match overlap? edits with
  | some r => some r
  | none =>
    match edits.getLast? with
    | some e => if length < e.stop then some .pastEnd else none
    | none => none

/-- The text with one edit made in it. -/
def replaceIn (e : Edit) (t : Text) : Text := t.take e.start ++ e.replacement ++ t.drop e.stop

/-- The text with all the edits made. -/
def apply (t : Text) (edits : List Edit) : Except Refusal Text :=
  let es := sorted edits
  match refusal? t.length es with
  | some r => .error r
  | none => .ok (es.foldr replaceIn t)

end Edit

end Readiness
