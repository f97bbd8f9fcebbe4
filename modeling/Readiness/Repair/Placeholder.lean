import Readiness.Breakdown
import Readiness.Script.Requote

/-!
# Placeholders

The text of a query that is built from values is a list of pieces: literal text, and runs of
expressions. Each run gives way to a placeholder in the query and becomes one parameter. Where a
placeholder would stand inside a quoted string of the query, the quotes are taken off, and what
stood with the run inside them moves into the parameter.
-/

namespace Readiness.Query

/-- A piece of a query: text, or the source texts of expressions that stand side by side. -/
inductive Piece where
  | text (t : Text)
  | values (sources : List Text)
deriving DecidableEq

/-- The pieces with one more piece of text behind them; the list holds the last piece first. -/
def Piece.addText (t : Text) : List Piece → List Piece
  | .text u :: more => .text (u ++ t) :: more
  | pieces => .text t :: pieces

/-- The pieces with one more expression behind them; the list holds the last piece first. -/
def Piece.addValue (source : Text) : List Piece → List Piece
  | .values l :: more => .values (l ++ [source]) :: more
  | pieces => .values [source] :: pieces

/-- The quote of a string of the query that is still open at the end of the text: the first of the
two quotes that occurs an odd number of times when doubled ones are left out. -/
def openQuote? (sql : Text) : Option CodePoint :=
  ([.char '\'', .char '"'] : Text).find? fun q => (Text.replaceAll [q, q] [] sql).count q % 2 == 1

/-- The parameter for a run of expressions and the text around it. A single expression stands for
itself, anything else becomes a template. -/
def parameter (run : List Text) (front back : Text) : Text :=
  match run, front, back with
  | [source], [], [] => source
  | _, _, _ =>
    let interpolated : List Text := run.map fun source => "$\x7b" ++ source ++ "\x7d"
    "`" ++ Script.requoteInside '`' front ++ interpolated.flatten ++
      Script.requoteInside '`' back ++ "`"

/-- The text with a run of at least two blanks at its end, or before the line feed at its end, made
one. -/
def shortenEnd (t : Text) : Text :=
  match t.reverse with
  | .char '\n' :: r => shortened r ['\n']
  | r => shortened r []
where
  /-- Shortens the run at the front of a reversed text and puts `tail` back. -/
  shortened (r tail : Text) : Text :=
    let isGap (c : CodePoint) : Bool := c == ' ' || c == '\t'
    if 2 ≤ (r.takeWhile isGap).length then (r.dropWhile isGap).reverse ++ " " ++ tail
    else r.reverse ++ tail

/-- A query with placeholders and its parameters. -/
structure Parameterized where
  sql : Text
  params : List Text
deriving DecidableEq

/-- What a run of expressions does to the query so far and how much of the next text it uses up:
the query without an open quoted string, the text of that string before and behind the run, and the
number of characters used up. -/
def unquoted (sql : Text) (next : List Piece) : Except Breakdown (Text × Text × Text × Nat) := do
  match openQuote? sql with
  | none => return (sql, [], [], 0)
  | some q =>
    let next ← nextText next
    match Text.indexOf? [q] next, Text.lastIndexOf? [q] sql with
    | some close, some head =>
      return (sql.take head, sql.drop (head + 1), next.take close, close + 1)
    | _, _ => return (sql, [], [], 0)
where
  /-- The text of the piece that comes next, in which a quoted string may be closed. Another run of
  expressions has none. -/
  nextText : List Piece → Except Breakdown Text
    | .text t :: _ => .ok t
    | .values _ :: _ => .error .valuesForText
    | [] => .ok []

/-- The query and parameters of the pieces, behind the query `sql` so far with its parameters, the
last one first. The first `skip` characters of the next text are used up. -/
def assembleFrom (sql : Text) (params : List Text) (skip : Nat) :
    List Piece → Except Breakdown Parameterized
  | [] => .ok ⟨sql, params.reverse⟩
  | .text t :: more => assembleFrom (sql ++ t.drop skip) params 0 more
  | .values run :: more => do
    let (sql, front, back, used) ← unquoted sql more
    assembleFrom (shortenEnd sql ++ "?") (parameter run front back :: params) used more

/-- The query and parameters of the pieces. -/
def assemble (pieces : List Piece) : Except Breakdown Parameterized := assembleFrom [] [] 0 pieces

end Readiness.Query
