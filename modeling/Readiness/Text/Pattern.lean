import Readiness.Text.Case

/-!
# Patterns

Shapes that a piece of text can have. A pattern is read from the front of a text and may be read in
several ways; each way leaves a rest. What matters is only whether there is a way, so the order of
the rests means nothing.
-/

namespace Readiness

/-- A shape of text. -/
inductive Pattern where
  /-- Nothing at all. -/
  | nothing
  /-- The characters of a word. -/
  | word (w : Text)
  /-- One character of a class. -/
  | one (p : CodePoint → Bool)
  /-- At least `n` characters of a class. -/
  | atLeast (n : Nat) (p : CodePoint → Bool)
  /-- At most `n` characters of a class. -/
  | atMost (n : Nat) (p : CodePoint → Bool)
  /-- Exactly `n` characters of a class. -/
  | exactly (n : Nat) (p : CodePoint → Bool)
  /-- One pattern behind another. -/
  | seq (a b : Pattern)
  /-- One of two patterns. -/
  | either (a b : Pattern)
  /-- Any number of times the pattern. -/
  | many (a : Pattern)
  /-- The end of the text, or a line feed that ends it. -/
  | atEnd

namespace Pattern

/-- The rests after up to `n` more characters of a class. -/
def stretch (p : CodePoint → Bool) : Nat → Text → List Text
  | 0, t => [t]
  | _, [] => [[]]
  | n + 1, c :: r => (c :: r) :: (if p c then stretch p n r else [])

/-- The rest after exactly `n` characters of a class, if the text starts with them. -/
def after? (p : CodePoint → Bool) : Nat → Text → Option Text
  | 0, t => some t
  | _, [] => none
  | n + 1, c :: r => if p c then after? p n r else none

/-- The rests after reading with `f` any number of times, but at most `n` times. A reading that
takes nothing is not repeated. -/
def repeated (f : Text → List Text) : Nat → Text → List Text
  | 0, t => [t]
  | n + 1, t => t :: ((f t).filter fun r => r.length < t.length).flatMap (repeated f n)

/-- The rests that the ways to read the pattern from the front of a text leave. -/
def rests : Pattern → Text → List Text
  | nothing, t => [t]
  | word w, t => if w.isPrefixOf t then [t.drop w.length] else []
  | one p, t => (after? p 1 t).toList
  | atLeast n p, t =>
    match after? p n t with
    | some r => stretch p r.length r
    | none => []
  | atMost n p, t => stretch p n t
  | exactly n p, t => (after? p n t).toList
  | seq a b, t => (rests a t).flatMap (rests b)
  | either a b, t => rests a t ++ rests b t
  | many a, t => repeated (rests a) t.length t
  | atEnd, t => if t = [] ∨ t = ("\n" : Text) then [t] else []

/-- Whether the text starts with the pattern. -/
def startsText (a : Pattern) (t : Text) : Bool := !(a.rests t).isEmpty

/-- Whether the pattern reads the whole text. -/
def fillsText (a : Pattern) (t : Text) : Bool := (a.rests t).any List.isEmpty

/-- Whether the pattern occurs somewhere in the text. -/
def occursIn (a : Pattern) : Text → Bool
  | [] => a.startsText []
  | c :: r => a.startsText (c :: r) || a.occursIn r

/-- The patterns one behind the other. -/
def chain : List Pattern → Pattern
  | [] => nothing
  | [a] => a
  | a :: more => seq a (chain more)

/-- One of the patterns; of none, nothing matches. -/
def choice : List Pattern → Pattern
  | [] => one fun _ => false
  | [a] => a
  | a :: more => either a (choice more)

/-- The pattern or nothing. -/
def optional (a : Pattern) : Pattern := either a nothing

/-- The characters of a word. -/
def text (w : Text) : Pattern := word w

/-- One of the given words. -/
def words (ws : List Text) : Pattern := choice (ws.map text)

end Pattern

namespace Text

/-- Whether one of the words occurs in the text. -/
def mentions (ws : List Text) (t : Text) : Bool := ws.any fun w => occursIn w t

/-- Whether one of the words occurs in the text, in letters of any case. -/
def mentionsAnyCase (ws : List Text) (t : Text) : Bool := mentions ws (fold t)

end Text

end Readiness
