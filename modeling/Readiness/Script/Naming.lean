import Readiness.Breakdown
import Readiness.Script.LineTable

/-!
# Names of parts

The names that can be read off a tree without running it: of properties and keys, of what is called,
and of a chain of property reads such as `process.env.KEY`.
-/

namespace Readiness.Script

namespace Node

/-- The name of the property that a member expression reads, `b` in `a.b` and in `a['b']`. -/
def propertyName? (n : Node) : Option Text :=
  match n.kind, n.field? .memberProperty with
  | .member false, some p => p.identifier?
  | .member true, some p => p.string?
  | _, _ => none

/-- The text of a literal that serves as a key. A number with too many digits has none. -/
def literalKey? (l : Literal) : Except Breakdown (Option Text) :=
  match l with
  | .string v => .ok (some v)
  | .number v => if v.isLong then .error .longNumber else .ok (some v.text)
  | .boolean true => .ok (some "True")
  | .boolean false => .ok (some "False")
  | .null => .ok none
  | .regExp shown => .ok shown

/-- The key of a property or a class member, where it can be read off. -/
def keyName? (n : Node) : Except Breakdown (Option Text) :=
  let computed := match n.kind with
    | .property c => c
    | .methodDefinition c => c
    | _ => false
  match (n.field? .key).map kind with
  | some (.identifier name) => .ok (if computed then none else some name)
  | some (.literal l) => literalKey? l
  | _ => .ok none

/-- The arguments of a call. -/
def arguments (n : Node) : List Node := n.fields .argument

/-- The name of what is called: an identifier's, or the property's of a member expression. -/
def calleeName? (n : Node) : Option Text :=
  match n.field? .callee with
  | some c =>
    match c.kind with
    | .identifier name => some name
    | .member _ => c.propertyName?
    | _ => none
  | none => none

/-- Whether the node is a member expression. -/
def isMember (n : Node) : Bool :=
  match n.kind with
  | .member _ => true
  | _ => false

/-- Whether the node calls a method of the given name. -/
def isMethodCall (n : Node) (name : Text) : Bool :=
  n.isCall &&
    match n.field? .callee with
    | some c => c.isMember && c.propertyName? == some name
    | none => false

/-- Whether the node is the identifier of the given name. -/
def isNamed (n : Node) (name : Text) : Bool := n.identifier? == some name

/-- Whether the node calls or constructs. -/
def isInvocation (n : Node) : Bool :=
  match n.kind with
  | .call | .construct => true
  | _ => false

mutual

/-- The innermost object of a chain of member reads and calls, `a` in `a.b().c`. -/
def chainRoot : Node → Node
  | .mk kind span children =>
    match kind with
    | .member _ => (rootUnder .memberObject children).getD (.mk kind span children)
    | .call => (rootUnder .callee children).getD (.mk kind span children)
    | _ => .mk kind span children

/-- The innermost object of the first child that plays the role. -/
def rootUnder (r : Role) : List (Role × Node) → Option Node
  | [] => none
  | (s, c) :: more => if s = r then some (chainRoot c) else rootUnder r more

end

mutual

/-- The dotted path of a chain of property reads, `process.env.KEY`. -/
def path? : Node → Option Text
  | .mk kind span children =>
    match kind with
    | .identifier name => some name
    | .metaProperty =>
      let part (r : Role) : Text :=
        ((children.lookup r).bind Node.identifier?).getD ""
      some (part .metaName ++ "." ++ part .memberProperty)
    | .member _ =>
      match propertyName? (.mk kind span children), pathUnder children with
      | some name, some p => some (p ++ "." ++ name)
      | _, _ => none
    | _ => none

/-- The path of the object among the children. -/
def pathUnder : List (Role × Node) → Option Text
  | [] => none
  | (s, c) :: more => if s = .memberObject then path? c else pathUnder more

end

/-- Whether the node reads the environment as a whole. -/
def isEnvironment (n : Node) : Bool :=
  n.path? == some "process.env" || n.path? == some "import.meta.env"

end Node

/-- The text pieces of a template between its interpolations, as they are written: each runs up to
the last opening mark before the next interpolated expression, and the next one starts behind the
first closing brace after it. -/
def templateChunks (t : Text) (n : Node) : List Text :=
  go (n.start + 1) (n.fields .expression)
where
  /-- The pieces from an offset on. -/
  go (from_ : Nat) : List Node → List Text
    | [] => [t.slice from_ (n.stop - 1)]
    | e :: more =>
      let chunk :=
        match Text.lastIndexOf? ['$', '{'] (t.slice from_ e.start) with
        | some i => t.slice from_ (from_ + i)
        | none => t.slice from_ e.start
      let next :=
        match Text.indexOf? ['}'] (t.slice e.stop n.stop) with
        | some i => e.stop + i + 1
        | none => e.stop
      chunk :: go next more

/-- The characters that may stand between a parenthesis and what it encloses. -/
def isLooseBlank (c : CodePoint) : Bool := c == ' ' || c == '\t' || c == '\r' || c == '\n'

/-- What is left of the text before an expression, nearest character first, and of the text behind
it, when the pairs of parentheses around the expression are taken off. -/
def peelParens (before after : Text) : Text × Text :=
  match _ : before.dropWhile isLooseBlank, after.dropWhile isLooseBlank with
  | .char '(' :: b, .char ')' :: a => peelParens b a
  | _, _ => (before, after)
termination_by before.length
decreasing_by
  have peeled : before.dropWhile isLooseBlank = .char '(' :: b := ‹_›
  have fewer := (List.dropWhile_suffix (l := before) isLooseBlank).length_le
  rw [peeled, List.length_cons] at fewer
  exact fewer

/-- The range from `start` up to `stop` widened over the pairs of parentheses around it, never
beyond the range from `lo` up to `hi`. -/
def widenOverParens (t : Text) (lo hi start stop : Nat) : Nat × Nat :=
  let before := (t.slice lo start).reverse
  let after := t.slice stop hi
  let (b, a) := peelParens before after
  (start - (before.length - b.length), stop + (after.length - a.length))

/-- The range widened over the parentheses around it, for offsets that may be any whole numbers.
A negative offset counts from the end of the text. To look where there is no character on either
count is a breakdown. -/
def widenAnywhere (t : Text) (lo hi start stop : Int) : Except Breakdown (Int × Int) :=
  let n : Int := t.length
  -- In the text written twice, the offsets that count from the end come first.
  let twice := t ++ t
  let place (i : Int) : Nat := (i + n).toNat
  let high := place (min hi n)
  let (b, e) := widenOverParens twice (place lo) high (place start) (place stop)
  let isOut :=
    (lo < start && n < start) || (stop < hi && stop < -n) ||
    (lo < start && lo < -n && (twice.slice (place lo) b).all isLooseBlank) ||
    (stop < hi && n < hi && (twice.slice e high).all isLooseBlank)
  if isOut then .error .beyondText
  else .ok (start - ((place start : Int) - b), stop + (e - (place stop : Int)))

/-- The place nearest to a line among the candidates: one that starts on the line at the column,
else the first that starts on the line, else the first of those closest to the line and at most
one line away. -/
def nearest? (candidates : List Place) (line : Nat) (column : Option Int) : Option Place :=
  let exact := candidates.filter (·.node.line == line)
  let atColumn := column.bind fun c => exact.find? (·.node.column == some c)
  match atColumn, exact with
  | some p, _ => some p
  | none, p :: _ => some p
  | none, [] =>
    candidates.find? fun p => p.node.line == line + 1 || p.node.line + 1 == line

end Readiness.Script
