import Readiness.Script.Parser.Statement
import Readiness.Text.Quoted

/-!
# Parsing a script

A text is tried as a module first, which is strict and may import and export, and as a classic
script second. If neither reading accepts it, the one that got further into the text tells why.
-/

namespace Readiness

namespace Script

/-- The state of the parser before the first token of a text has been read. -/
def State.initial (t : Text) : State :=
  let c := Cursor.start t
  { cursor := c, start := c, last := c.marker, ahead := Token.between .eof "" c c,
    turns := t.length + 3 }

/-- Parses a whole script. The first token is read before the text counts as a module. -/
def Parser.program (isModule : Bool) : Parser Node := production do
  discard Parser.next
  modify fun s => { s with last := s.cursor.marker }
  if isModule then Parser.modifyContext fun c => { c with strict := true, isModule := true }
  let g := Parser.rules mostOpen
  let m ← Parser.mark
  let opening ← Parser.directives g
  let rest ← Parser.collect (return !(← Parser.seesEnd)) g.listItem
  Parser.node m (.program isModule) (Parser.many .body (opening ++ rest))

/-- The tree of a text in one reading with the problems noted, or why there is none. -/
def parseAs (isModule : Bool) (t : Text) :
    Except Breakdown (Except Failure (Node × List Problem)) :=
  match (Parser.program isModule).run (State.initial t) with
  | .ok n s => .ok (.ok (n, s.noted.reverse))
  | .error (.failure f) _ => .ok (.error f)
  | .error (.breakdown b) _ => .error b

/-- How far a failed parse got. -/
def Failure.reach : Failure → Nat
  | .problem p => p.index
  | .tooDeep => 0

/-- The words of a failure. -/
def Failure.message : Failure → Text
  | .problem p => p.message
  | .tooDeep => "Maximum nesting depth exceeded"

/-- The line of a failure, zero if it has none. -/
def Failure.line : Failure → Nat
  | .problem p => p.line
  | .tooDeep => 0

/-- The column of a failure, counted from one. -/
def Failure.column? : Failure → Option Int
  | .problem p => some p.column
  | .tooDeep => none

/-- A problem that was noted, as it is listed. -/
def Problem.listing (p : Problem) : Text :=
  "\x7b'message': " ++ quoted ("Error: " ++ p.message) ++ ", 'index': " ++ toString p.index ++
    ", 'lineNumber': " ++ toString p.line ++ ", 'column': " ++ toString p.column ++ "\x7d"

end Script

/-- A text that was parsed. -/
structure Script where
  text : Text
  program : Script.Node
  isModule : Bool
  /-- The problems that were noted and lived with. -/
  problems : List Script.Problem

/-- Parses a text: the script or why there is none. A breakdown in either reading is one of the
whole. -/
def Script.parse (t : Text) : Except Breakdown (Except Script.Failure Script) := do
  match ← Script.parseAs true t with
  | .ok (n, ps) => return .ok ⟨t, n, true, ps⟩
  | .error e =>
    match ← Script.parseAs false t with
    | .ok (n, ps) => return .ok ⟨t, n, false, ps⟩
    | .error e' => return .error (if e.reach < e'.reach then e' else e)

end Readiness
