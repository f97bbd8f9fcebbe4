import Readiness.Breakdown
import Readiness.Script.Lexer
import Readiness.Script.Node
import Readiness.Script.Trivia

/-!
# The state of the parser

The parser reads one token ahead. It notes problems it can live with and goes on; any other problem
ends the parse. Whether an expression read so far could still turn out to be the target of an
assignment, or the parameters of an arrow function, is kept in the context and settled once the
next token tells.
-/

namespace Readiness.Script

/-- Why a parse ended without a tree. -/
inductive Failure where
  | problem (p : Problem)
  /-- The script is nested deeper than the parser goes. -/
  | tooDeep
deriving Inhabited

/-- What stops the parser: a failure, or a breakdown. -/
inductive Stop where
  | failure (f : Failure)
  | breakdown (b : Breakdown)

/-- A place that a node starts or ends at. -/
structure Marker where
  index : Nat
  line : Nat
  column : Int
deriving Inhabited

/-- The place of a cursor. -/
def Cursor.marker (c : Cursor) : Marker := ⟨c.index, c.line, c.column⟩

/-- What surrounds the place that is being parsed. -/
structure Context where
  isModule : Bool := false
  strict : Bool := false
  allowAwait : Bool := false
  allowIn : Bool := true
  allowStrictDirective : Bool := true
  allowYield : Bool := true
  inFunctionBody : Bool := false
  inIteration : Bool := false
  inSwitch : Bool := false
  /-- Whether what was just read can be assigned to. -/
  isTarget : Bool := false
  /-- Whether what was just read can be a pattern that binds names. -/
  isBinding : Bool := false
  /-- A default value in an object literal, which only a pattern may have. -/
  strayDefault : Option Token := none
  labels : List Text := []
deriving Inhabited

/-- The state of the parser. -/
structure State where
  /-- Behind the token read ahead. -/
  cursor : Cursor
  braces : List Brace := []
  /-- Where the token read ahead starts. -/
  start : Cursor
  /-- Where the last token taken ends. -/
  last : Marker
  ahead : Token
  /-- Whether a line break stands before the token read ahead. -/
  lineBreak : Bool := false
  /-- The problems noted, last first. -/
  noted : List Problem := []
  context : Context := {}
  /-- How many productions are open. -/
  depth : Nat := 0
  /-- More turns than any loop of the parser takes: each takes a token. -/
  turns : Nat
deriving Inhabited

/-- How many productions of the grammar may be open at once. A script that opens more is nested too
deep. -/
def mostOpen : Nat := 985

/-- Steps of the parser. -/
abbrev Parser := EStateM Stop State

namespace Parser

/-! ## Problems -/

/-- Notes a problem. -/
def note (p : Problem) : Parser Unit := modify fun s => { s with noted := p :: s.noted }

/-- Ends the parse with a problem. -/
def fail (p : Problem) : Parser α := throw (.failure (.problem p))

/-- Ends the parse of a script that is nested too deep. -/
def failTooDeep : Parser α := throw (.failure .tooDeep)

/-- Ends the parse with a breakdown. -/
def breakDown (b : Breakdown) : Parser α := throw (.breakdown b)

/-- The problem of a token: at its start, with the column counted from the line on which the last
token taken ends. The value of the token is written down whatever the complaint is, and a number
with too many digits cannot be. -/
def tokenProblem (t : Token) (k : Complaint) : Parser Problem := do
  if t.kind == .numeric && t.number.isLong then breakDown .longNumber
  let last := (← get).last
  return ⟨t.start, t.line, (t.start : Int) - ((last.index : Int) - last.column) + 1, k⟩

/-- The problem of whatever comes after the last token taken. -/
def lastProblem (k : Complaint) : Parser Problem := do
  let last := (← get).last
  return ⟨last.index, last.line, last.column + 1, k⟩

/-- Ends the parse at a token that cannot stand where it does. -/
def unexpected (t : Token) : Parser α := do
  fail (← tokenProblem t (t.complaint (← get).context.strict))

/-- Notes a token that should not stand where it does. -/
def noteUnexpected (t : Token) : Parser Unit := do
  note (← tokenProblem t (t.complaint (← get).context.strict))

/-- Notes a complaint about a token. -/
def noteToken (t : Token) (k : Complaint) : Parser Unit := do note (← tokenProblem t k)

/-- Ends the parse with a complaint behind the last token taken. -/
def failHere (k : Complaint) : Parser α := do fail (← lastProblem k)

/-- Notes a complaint behind the last token taken, on the line the lexer has reached. -/
def noteHere (k : Complaint) : Parser Unit := do
  let s ← get
  note ⟨s.last.index, s.cursor.line, s.last.column + 1, k⟩

/-! ## Tokens -/

/-- Takes the outcome of a lexer. -/
def lexed (r : Except Problem Lexeme) : Parser Token := do
  match r with
  | .error p => fail p
  | .ok l =>
    modify fun s =>
      { s with cursor := l.after, braces := l.braces, noted := l.problems.reverse ++ s.noted }
    return l.token

/-- Passes what stands between tokens. -/
def skipTrivia : Parser Unit := modify fun s =>
  let (cursor, problems) := s.cursor.skipTrivia !s.context.isModule
  { s with cursor, noted := problems ++ s.noted }

/-- Takes the token read ahead and reads the next one. -/
def next : Parser Token := do
  let taken := (← get).ahead
  modify fun s => { s with last := s.cursor.marker }
  skipTrivia
  modify fun s => if s.cursor.index != s.start.index then { s with start := s.cursor } else s
  let s ← get
  let token ← lexed (lex s.cursor s.braces)
  let reserved := s.context.strict && token.kind == .identifier && Token.isStrictReserved token.value
  let token := if reserved then { token with kind := .keyword } else token
  modify fun s => { s with ahead := token, lineBreak := taken.line != token.line }
  return taken

/-- Reads a regular expression where the token ahead starts. -/
def nextRegExp : Parser Token := do
  modify fun s => { s with cursor := { s.cursor with rest := s.start.rest, index := s.start.index } }
  skipTrivia
  let s ← get
  let token ← lexed (lexRegExp s.cursor s.braces)
  modify fun s => { s with ahead := token }
  let _ ← next
  return token

/-- The token that follows the one ahead. Only the place is restored afterwards: braces opened and
problems noted by the look stay. -/
def peek : Parser Token := do
  let c := (← get).cursor
  skipTrivia
  let s ← get
  let token ← lexed (lex s.cursor s.braces)
  modify fun s => { s with cursor := c }
  return token

/-- The token read ahead. -/
def ahead : Parser Token := return (← get).ahead

/-- Whether the token ahead is the punctuator. -/
def sees (v : Text) : Parser Bool := return (← get).ahead.isPunct v

/-- Whether the token ahead is the keyword. -/
def seesWord (v : Text) : Parser Bool := return (← get).ahead.isWord v

/-- Whether the token ahead is the identifier. -/
def seesName (v : Text) : Parser Bool := return (← get).ahead.isName v

/-- Whether the script ends here. -/
def seesEnd : Parser Bool := return (← get).ahead.kind == .eof

/-- Takes the punctuator, which must come next. -/
def expect (v : Text) : Parser Unit := do
  let t ← next
  if !t.isPunct v then unexpected t

/-- Takes the keyword, which must come next. -/
def expectWord (v : Text) : Parser Unit := do
  let t ← next
  if !t.isWord v then unexpected t

/-- Takes the comma between list items; a semicolon in its place, or its absence, is noted. -/
def expectComma : Parser Unit := do
  let t ← ahead
  if t.isPunct "," then discard next
  else if t.isPunct ";" then
    discard next
    noteUnexpected t
  else noteToken t (.unexpectedToken t.value)

/-- Ends a statement: a semicolon, a line break, a closing brace or the end of the script. -/
def endStatement : Parser Unit := do
  if ← sees ";" then discard next
  else
    let s ← get
    if !s.lineBreak then
      if s.ahead.kind != .eof && !s.ahead.isPunct "\x7d" then unexpected s.ahead
      modify fun s => { s with last := s.start.marker }

/-! ## Nodes -/

/-- Where the token ahead starts. -/
def mark : Parser Marker := return (← get).start.marker

/-- Where a token starts, as far as the token knows: one that spans lines only knows where its last
line starts, so the column of its start is counted from `lineStart`. -/
def markOf (t : Token) (lineStart : Nat := 0) : Marker :=
  let column := (t.start : Int) - t.lineStart
  if column < 0 then ⟨t.start, t.line - 1, column + lineStart⟩ else ⟨t.start, t.line, column⟩

/-- The node from `m` to the end of the last token taken. -/
def node (m : Marker) (kind : Kind) (children : List (Role × Node) := []) : Parser Node := do
  let last := (← get).last
  return .mk kind ⟨m.index, last.index, m.line, some m.column, last.line⟩ children

/-- A node that covers nothing of its own. -/
def bare (kind : Kind) (children : List (Role × Node)) : Node := .mk kind default children

/-- A part that may be absent, as children. -/
def optional (r : Role) (n : Option Node) : List (Role × Node) :=
  match n with
  | some n => [(r, n)]
  | none => []

/-- Several parts of one role, as children. -/
def many (r : Role) (ns : List Node) : List (Role × Node) := ns.map fun n => (r, n)

/-! ## Context -/

/-- The context. -/
def context : Parser Context := return (← get).context

/-- Changes the context. -/
def modifyContext (f : Context → Context) : Parser Unit :=
  modify fun s => { s with context := f s.context }

/-- Says that what was read is neither a target nor a pattern. -/
def notTarget : Parser Unit := modifyContext fun c => { c with isTarget := false, isBinding := false }

/-- Parses a production, which is open until it ends. -/
def production (p : Parser α) : Parser α := do
  let depth := (← get).depth
  if mostOpen ≤ depth then failTooDeep
  modify fun s => { s with depth := depth + 1 }
  let r ← p
  modify fun s => { s with depth }
  return r

/-- Parses a part on which the surroundings do not depend: a default value left in it cannot become
part of a pattern any more. -/
def isolate (p : Parser α) : Parser α := production do
  let c ← context
  modifyContext fun c => { c with isBinding := true, isTarget := true, strayDefault := none }
  let r ← p
  match (← context).strayDefault with
  | some t => unexpected t
  | none => pure ()
  modifyContext fun c' => { c' with
    isBinding := c.isBinding, isTarget := c.isTarget, strayDefault := c.strayDefault }
  return r

/-- Parses a part that the surroundings go along with: they can be a target or a pattern only if the
part can. -/
def inherit (p : Parser α) : Parser α := production do
  let c ← context
  modifyContext fun c => { c with isBinding := true, isTarget := true, strayDefault := none }
  let r ← p
  modifyContext fun c' => { c' with
    isBinding := c'.isBinding && c.isBinding
    isTarget := c'.isTarget && c.isTarget
    strayDefault := c.strayDefault.or c'.strayDefault }
  return r

/-! ## Loops -/

/-- One turn of a loop: go on with a state, or end with a result. -/
inductive Turn (σ β : Type) where
  | again (s : σ)
  | done (b : β)

/-- Takes turns, at most `n` of them. -/
def turns (step : σ → Parser (Turn σ β)) : Nat → σ → Parser β
  | 0, _ => failTooDeep
  | n + 1, s => do
    match ← step s with
    | .again s => turns step n s
    | .done b => return b

/-- Takes turns until one ends the loop. -/
def loop (s : σ) (step : σ → Parser (Turn σ β)) : Parser β := do turns step (← get).turns s

/-- Collects what `item` parses while `more` holds. -/
def collect (more : Parser Bool) (item : Parser α) : Parser (List α) :=
  loop #[] fun (acc : Array α) => do
    if ← more then return .again (acc.push (← item)) else return .done acc.toList

end Parser

end Readiness.Script
