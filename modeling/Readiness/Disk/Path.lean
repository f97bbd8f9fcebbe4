import Readiness.Text.Basic

/-!
# Paths

A path starts at the top, or wherever the reader stands, and goes on by names. Empty names and
single dots say nothing and are dropped; double dots are kept, because what they mean depends on
links.
-/

namespace Readiness

/-- Where a path starts. -/
inductive Anchor where
  /-- Wherever the reader stands. -/
  | here
  | top
  /-- The top, written with two slashes, which are kept. -/
  | doubleTop
deriving DecidableEq

/-- A path. -/
structure Path where
  anchor : Anchor
  names : List Text
deriving DecidableEq

namespace Path

/-- The anchor of a written path. -/
def anchorOf : Text → Anchor
  | .char '/' :: .char '/' :: .char '/' :: _ => .top
  | .char '/' :: .char '/' :: _ => .doubleTop
  | .char '/' :: _ => .top
  | _ => .here

/-- The path that a text writes. -/
def ofText (t : Text) : Path where
  anchor := anchorOf t
  names := (Text.splitBy (· == '/') t) |>.filter fun n => n != "" && n != "."

/-- The written form of a path. -/
def text (p : Path) : Text :=
  let names := Text.join "/" p.names
  match p.anchor with
  | .here => if p.names.isEmpty then "." else names
  | .top => "/" ++ names
  | .doubleTop => "//" ++ names

/-- A path behind another one; a path that starts at the top stands by itself. -/
def append (p q : Path) : Path :=
  match q.anchor with
  | .here => { p with names := p.names ++ q.names }
  | _ => q

instance : Append Path := ⟨append⟩

/-- The path of a name in a folder. -/
def child (p : Path) (name : Text) : Path := { p with names := p.names ++ [name] }

/-- The path of the folder that holds what a path names. -/
def parent (p : Path) : Path := { p with names := p.names.dropLast }

/-- The last name of a path. -/
def name (p : Path) : Text := p.names.getLast?.getD ""

/-- The end of a name from its last dot. A dot at the start or at the end of the name makes none. -/
def suffixOf (name : Text) : Text :=
  match Text.lastIndexOf? "." name with
  | some i => if 0 < i && i + 1 < name.length then name.drop i else ""
  | none => ""

/-- The end of the last name from its last dot. -/
def suffix (p : Path) : Text := suffixOf p.name

/-- Order of lists of names: name by name, the shorter list first. -/
def namesLe : List Text → List Text → Bool
  | [], _ => true
  | _ :: _, [] => false
  | a :: as, b :: bs => if a = b then namesLe as bs else decide (a < b)

end Path

end Readiness
