import Readiness.Text.CodePoint

/-!
# Text

Source code, names and messages are lists of code points. Every offset, length and column of the
library counts code points, so a cut is `take` and `drop` and a splice is `++`, and facts about texts
are facts about lists.

A word that the library itself writes is a string literal, which stands for the list of its
characters.
-/

namespace Readiness

/-- A text: names, messages and source code alike. -/
abbrev Text := List CodePoint

/-- The text that a string writes. -/
def Text.ofString (s : String) : Text := s.toList.map .char

instance : Coe String Text := ⟨Text.ofString⟩

/-- The text of characters. -/
def Text.ofChars (cs : List Char) : Text := cs.map .char

/-- The texts that strings write. -/
def Text.ofStrings (l : List String) : List Text := l.map Text.ofString

namespace Text

/-- A string is read off its list of characters, without a look at its encoding. -/
theorem ofString_ofList (cs : List Char) : ofString (String.ofList cs) = cs.map .char := by
  rw [ofString, String.toList_ofList]

/-- The string of a text, to tell the words of a language apart. A surrogate, which no word has, is
shown by the replacement character, which none has either. -/
def word (t : Text) : String := String.ofList (t.map shown)
where
  /-- The character that shows a code point. -/
  shown : CodePoint → Char
    | .char c => c
    | .surrogate _ => '\uFFFD'

/-- The code points from offset `start` up to, and not including, offset `stop`. -/
def slice (t : Text) (start stop : Nat) : Text :=
  (t.drop start).take (stop - start)

/-- The order of texts: by the first code point in which they differ, the shorter one first. -/
def compare : Text → Text → Ordering
  | [], [] => .eq
  | [], _ :: _ => .lt
  | _ :: _, [] => .gt
  | a :: r, b :: s => (Ord.compare a.toNat b.toNat).then (compare r s)

/-- The offset of the first occurrence of `w` in `t`, if there is one. -/
def indexOf? (w : Text) : Text → Option Nat
  | [] => if w.isEmpty then some 0 else none
  | c :: r => if w.isPrefixOf (c :: r) then some 0 else (indexOf? w r).map (· + 1)

/-- Whether `w` occurs somewhere in `t`. -/
def occursIn (w t : Text) : Bool := (indexOf? w t).isSome

/-- The offset of the last occurrence of `w` in `t`, if there is one. -/
def lastIndexOf? (w : Text) : Text → Option Nat
  | [] => if w.isEmpty then some 0 else none
  | c :: r =>
    match lastIndexOf? w r with
    | some i => some (i + 1)
    | none => if w.isPrefixOf (c :: r) then some 0 else none

/-- The pieces of a text between the code points that satisfy `p`; there is always at least one. -/
def splitBy (p : CodePoint → Bool) : Text → List Text
  | [] => [[]]
  | c :: r =>
    match splitBy p r with
    | [] => [[c]]
    | piece :: more => if p c then [] :: piece :: more else (c :: piece) :: more

/-- The pieces of a text between the line feeds. -/
def splitLineFeeds (t : Text) : List Text := splitBy (· == '\n') t

/-- The text without the longest run of code points from its end that satisfy `p`. -/
def dropEndWhile (p : CodePoint → Bool) (t : Text) : Text :=
  (t.reverse.dropWhile p).reverse

/-- The text without the runs at both ends of code points that satisfy `p`. -/
def trimBy (p : CodePoint → Bool) (t : Text) : Text :=
  dropEndWhile p (t.dropWhile p)

/-- The pieces joined with `sep` between them. -/
def join (sep : Text) : List Text → Text
  | [] => []
  | [t] => t
  | t :: more => t ++ sep ++ join sep more

/-- Every occurrence of `w`, from the left and without overlap, replaced by `new`. An empty `w`
is found nowhere. -/
def replaceAll (w new : Text) (t : Text) : Text :=
  go t.length t
where
  /-- Each turn takes at least one code point, so as many turns as code points are enough. -/
  go : Nat → Text → Text
    | 0, t => t
    | _, [] => []
    | n + 1, c :: r =>
      if w.isEmpty then c :: r
      else if w.isPrefixOf (c :: r) then new ++ go n ((c :: r).drop w.length)
      else c :: go n r

end Text

end Readiness
