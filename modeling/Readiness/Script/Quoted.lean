import Readiness.Script.Escape

/-!
# Strings and templates

What quoted literals denote. Reading goes character by character from behind the opening delimiter
and ends behind the closing one; a line break ends a string unless a backslash stands before it,
and is a line feed in a template.
-/

namespace Readiness.Script

/-- The cursor with `rest` left to read, `n` characters further on the same line. -/
def Cursor.move (c : Cursor) (rest : Text) (n : Nat) : Cursor :=
  { c with rest := rest, index := c.index + n }

/-- The characters that have an escape of one letter. -/
def letterEscape? : CodePoint → Option CodePoint
  | .char 'n' => some '\n'
  | .char 'r' => some '\r'
  | .char 't' => some '\t'
  | .char 'b' => some '\x08'
  | .char 'f' => some '\x0c'
  | .char 'v' => some '\x0b'
  | _ => none

/-- The text behind a line break whose first character is `b`: a carriage return takes a line feed
with it. The number counts the characters of the break. -/
def afterBreak (b : CodePoint) : Text → Text × Nat
  | .char '\n' :: r => if b == '\r' then (r, 2) else ('\n' :: r, 1)
  | r => (r, 1)

theorem afterBreak_length (b : CodePoint) (t : Text) : (afterBreak b t).1.length ≤ t.length := by
  unfold afterBreak
  split
  · split <;> simp
  · simp

/-- A string literal that was read: what it denotes, whether it uses an octal escape, the problems
noted on the way, and the cursor behind it. -/
structure StringBody where
  value : Text
  octal : Bool
  problems : List Problem
  after : Cursor

/-- Reads the rest of a string, which stands at the cursor `c`. The opening quote has the offset
`start`, and `acc` holds what has been read, last character first. -/
def stringFrom (quote : CodePoint) (start : Nat) (t : Text) (c : Cursor) (acc : Text) (octal : Bool)
    (problems : List Problem) : Except Problem StringBody :=
  let unclosed : Problem := Cursor.problem { c with index := start } .illegalToken
  match t with
  | [] => .error unclosed
  | x :: r =>
    if x == quote then .ok ⟨acc.reverse, octal, problems.reverse, c.move r 1⟩
    else if x == '\\' then
      match r with
      | [] => .error unclosed
      | e :: r' =>
        if isLineBreak e then
          stringFrom quote start (afterBreak e r').1 (c.newLine (afterBreak e r').1 ((afterBreak e r').2 + 1)) acc octal
            problems
        else if e == 'u' then
          match r' with
          | .char '{' :: r'' =>
            match hb : bracedEscape r'' with
            | .char d k rest => stringFrom quote start rest (c.move rest (k + 3)) (d :: acc) octal problems
            | .bad k => .error ((c.move [] (k + 3)).problem .illegalToken)
          | r' =>
            match hf : fixedEscape 4 r' with
            | .char d k rest => stringFrom quote start rest (c.move rest (k + 2)) (d :: acc) octal problems
            | .bad k => .error ((c.move [] (k + 2)).problem .illegalToken)
        else if e == 'x' then
          match hx : fixedEscape 2 r' with
          | .char d k rest => stringFrom quote start rest (c.move rest (k + 2)) (d :: acc) octal problems
          | .bad k => .error ((c.move [] (k + 2)).problem .badHexEscape)
        else
          match letterEscape? e with
          | some d => stringFrom quote start r' (c.move r' 2) (d :: acc) octal problems
          | none =>
            if e == '8' || e == '9' then
              stringFrom quote start r' (c.move r' 2) (e :: acc) octal
                ((c.move [] 2).problem .illegalToken :: problems)
            else if isOctalDigit e then
              let o := octalEscape e r'
              stringFrom quote start (octalEscape e r').2.2.2 (c.move (octalEscape e r').2.2.2 (o.2.2.1 + 2))
                (CodePoint.ofNat o.1 :: acc) (o.2.1 || octal) problems
            else stringFrom quote start r' (c.move r' 2) (e :: acc) octal problems
    else if isLineBreak x then .error unclosed
    else stringFrom quote start r (c.move r 1) (x :: acc) octal problems
termination_by t.length
decreasing_by
  all_goals simp only [List.length_cons]
  · have := afterBreak_length e r'; omega
  · have := bracedEscape_length hb; omega
  · have := fixedEscape_length hf; omega
  · have := fixedEscape_length hx; omega
  · omega
  · omega
  · have := octalEscape_length e r'; omega
  · omega
  · omega

/-- Reads a string from behind its opening quote, whose offset is `start`. -/
def stringBody (quote : CodePoint) (start : Nat) (c : Cursor) (acc : Text) (octal : Bool)
    (problems : List Problem) : Except Problem StringBody :=
  stringFrom quote start c.rest c acc octal problems

/-- A piece of a template that was read: what it denotes, whether it closes the template, and the
cursor behind its delimiter. -/
structure TemplateBody where
  cooked : Text
  tail : Bool
  after : Cursor

/-- Reads the rest of a piece of a template, which stands at the cursor `c`, up to a backquote or an
opening interpolation. A `\u` escape that is none denotes the letter. -/
def templateFrom (t : Text) (c : Cursor) (acc : Text) : Except Problem TemplateBody :=
  match t with
  | [] => .error (c.problem .illegalToken)
  | .char '`' :: r => .ok ⟨acc.reverse, true, c.move r 1⟩
  | .char '$' :: .char '{' :: r => .ok ⟨acc.reverse, false, c.move r 2⟩
  | .char '\\' :: r =>
    match r with
    | [] => .error ((c.move [] 2).problem .illegalToken)
    | e :: r' =>
      if isLineBreak e then
        templateFrom (afterBreak e r').1 (c.newLine (afterBreak e r').1 ((afterBreak e r').2 + 1)) acc
      else if e == 'u' then
        match r' with
        | .char '{' :: r'' =>
          match hb : bracedEscape r'' with
          | .char d k rest => templateFrom rest (c.move rest (k + 3)) (d :: acc)
          | .bad k => .error ((c.move [] (k + 3)).problem .illegalToken)
        | r' =>
          match hf : fixedEscape 4 r' with
          | .char d k rest => templateFrom rest (c.move rest (k + 2)) (d :: acc)
          | .bad _ => templateFrom r' (c.move r' 2) ('u' :: acc)
      else if e == 'x' then
        match hx : fixedEscape 2 r' with
        | .char d k rest => templateFrom rest (c.move rest (k + 2)) (d :: acc)
        | .bad k => .error ((c.move [] (k + 2)).problem .badHexEscape)
      else
        match letterEscape? e with
        | some d => templateFrom r' (c.move r' 2) (d :: acc)
        | none =>
          if e == '0' && !(r'.head?.map CodePoint.isDigit).getD false then
            templateFrom r' (c.move r' 2) ('\x00' :: acc)
          else if isOctalDigit e then .error ((c.move [] 2).problem .templateOctal)
          else templateFrom r' (c.move r' 2) (e :: acc)
  | x :: r =>
    if isLineBreak x then
      templateFrom (afterBreak x r).1 (c.newLine (afterBreak x r).1 (afterBreak x r).2) ('\n' :: acc)
    else templateFrom r (c.move r 1) (x :: acc)
termination_by t.length
decreasing_by
  all_goals simp only [List.length_cons]
  · have := afterBreak_length e r'; omega
  · have := bracedEscape_length hb; omega
  · have := fixedEscape_length hf; omega
  · omega
  · have := fixedEscape_length hx; omega
  · omega
  · omega
  · omega
  · have := afterBreak_length x r; omega
  · omega

/-- Reads a piece of a template from behind its opening delimiter. -/
def templateBody (c : Cursor) (acc : Text) : Except Problem TemplateBody :=
  templateFrom c.rest c acc

end Readiness.Script
