import Readiness.Script.Naming

/-!
# Destinations of values

Where a value goes: which variable, property, parameter or attribute receives it, and under what
name. A choice between values is looked through, so that the fallback in
`const key = process.env.KEY || 'abc'` goes to `key`.
-/

namespace Readiness.Script

/-- How a value is received. -/
inductive Receiver where
  | declarator
  | property
  | assignment
  | argument
  | attribute
  | other
deriving DecidableEq, Inhabited

/-- The word for a way to receive a value. -/
def Receiver.name : Receiver → Text
  | .declarator => "declarator"
  | .property => "property"
  | .assignment => "assignment"
  | .argument => "argument"
  | .attribute => "jsx"
  | .other => "other"

/-- Where a value goes: under what name, how, and the place that receives it. -/
structure Destination where
  name : Option Text
  receiver : Receiver
  holder : Option Place

namespace Place

/-- The steps above the outermost choice that a value is one of the alternatives of. -/
def aboveChoices : List Step → List Step
  | [] => []
  | s :: more =>
    match s.parent.kind with
    | .logical _ => aboveChoices more
    | .conditional => if s.role = .test then s :: more else aboveChoices more
    | _ => s :: more

/-- The name of a markup attribute. -/
def attributeName? (n : Node) : Option Text :=
  match (n.field? .nameOf).map Node.kind with
  | some (.tagIdentifier name) => some name
  | _ => none

/-- The name of what an assignment assigns to. -/
def targetName? (n : Node) : Option Text :=
  match n.field? .left with
  | some l =>
    match l.kind with
    | .identifier name => some name
    | .member _ => l.propertyName?
    | _ => none
  | none => none

/-- The name of what a function is assigned to, with the path that leads to it. -/
def assignedName? (n : Node) : Option Text :=
  match n.field? .left with
  | some l =>
    match l.kind with
    | .identifier name => some name
    | .member _ => l.path?.or l.propertyName?
    | _ => none
  | none => none

/-- Where the value of a place goes. -/
def destination (p : Place) : Except Breakdown Destination :=
  match aboveChoices p.above with
  | [] => .ok ⟨none, .other, none⟩
  | s :: more =>
    let holder : Place := ⟨s.parent, more⟩
    match s.parent.kind, s.role with
    | .variableDeclarator, .init =>
      .ok ⟨(s.parent.field? .id).bind Node.identifier?, .declarator, some holder⟩
    | .property _, .value => do return ⟨← s.parent.keyName?, .property, some holder⟩
    | .assignment _, .right => .ok ⟨targetName? s.parent, .assignment, some holder⟩
    | .call, .argument => .ok ⟨s.parent.calleeName?, .argument, some holder⟩
    | .construct, .argument => .ok ⟨s.parent.calleeName?, .argument, some holder⟩
    | .tagAttribute, _ => .ok ⟨attributeName? s.parent, .attribute, some holder⟩
    | .tagContainer, _ =>
      match more with
      | g :: rest =>
        match g.parent.kind with
        | .tagAttribute => .ok ⟨attributeName? g.parent, .property, some ⟨g.parent, rest⟩⟩
        | _ => .ok ⟨none, .other, some holder⟩
      | [] => .ok ⟨none, .other, some holder⟩
    | _, _ => .ok ⟨none, .other, some holder⟩

/-- The name of a function: its own, or that of the variable, key or target it is given to. -/
def functionName? (f : Place) : Except Breakdown (Option Text) :=
  match (f.node.field? .id).bind Node.identifier? with
  | some name => .ok (some name)
  | none =>
    match f.above with
    | [] => .ok none
    | s :: _ =>
      match s.parent.kind with
      | .variableDeclarator => .ok ((s.parent.field? .id).bind Node.identifier?)
      | .property _ | .methodDefinition _ => s.parent.keyName?
      | .assignment _ => .ok (assignedName? s.parent)
      | _ => .ok none

/-- The calls made on the result of a call, innermost first, with the names of the methods: from
the `then` call of `p.then(a).catch(b)`, the `catch` call. -/
def chainAbove (p : Place) : List (Option Text × Place) := go p.above
where
  /-- Takes two steps at a time: to the member expression, and to the call of it. -/
  go : List Step → List (Option Text × Place)
    | m :: c :: more =>
      if m.parent.isMember && m.role == .memberObject && c.parent.isCall && c.role == .callee then
        (m.parent.propertyName?, ⟨c.parent, more⟩) :: go more
      else []
    | _ => []

/-- The last call of the chain of calls that starts at a call. -/
def chainTop (p : Place) : Place := (p.chainAbove.getLast?.map (·.2)).getD p

/-- The statement behind the place in its block or script. -/
def nextStatement? (p : Place) : Option Node :=
  match p.above with
  | [] => none
  | s :: _ =>
    match s.parent.kind with
    | .program _ | .block => (s.parent.children[s.number + 1]?).map (·.2)
    | _ => none

end Place

end Readiness.Script
