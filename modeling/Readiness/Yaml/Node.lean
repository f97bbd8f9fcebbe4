import Readiness.Yaml.Token

/-!
# Nodes

The tokens of a document as a tree. An anchor names a node and an alias stands for the node that its
anchor named before. An alias inside the node that it names would make a ring, and such a place only
says what it stands in.

Every call either takes a token or hands the same tokens to a call for a smaller part of the
grammar, and no call hands on more than four times before a token is taken. So four turns for each
token, and a few more, are enough.
-/

namespace Readiness.Yaml

/-- The kinds of nodes that hold others. -/
inductive CollectionKind where
  | sequence
  | mapping
deriving DecidableEq

/-- A node of a document, with the tag that it is marked with. -/
inductive Node where
  | scalar (tag : Option Text) (plain : Bool) (text : Text)
  | sequence (tag : Option Text) (items : List Node)
  | mapping (tag : Option Text) (pairs : List (Node × Node))
  /-- The node around this place. -/
  | ring (kind : CollectionKind)

namespace Node

/-- A scalar with nothing in it. -/
def empty : Node := .scalar none true []

/-- What an anchor names: a node, or a node that has not ended yet. -/
inductive Named where
  | node (n : Node)
  | around (kind : CollectionKind)

/-- What is left to read, and the anchors so far. -/
structure Parsing where
  tokens : List Token
  anchors : List (Text × Named) := []
  /-- What the handles of tags stand for. -/
  handles : List (Text × Text)

/-- A node and what is left to read behind it. -/
abbrev Parsed := Except Fault (Node × Parsing)

namespace Parsing

/-- What is left behind the next token. -/
def next (p : Parsing) : Parsing := { p with tokens := p.tokens.drop 1 }

/-- Names a node, unless the name is taken. -/
def name? (p : Parsing) (anchor : Option Text) (n : Named) : Except Fault Parsing :=
  match anchor with
  | none => .ok p
  | some a => .ok { p with anchors := (a, n) :: p.anchors }

/-- The full tag of a handle and a suffix. -/
def fullTag (p : Parsing) (handle : Option Text) (suffix : Text) : Except Fault Text :=
  match handle with
  | none => .ok suffix
  | some h =>
    match p.handles.lookup h with
    | some stands => .ok (stands ++ suffix)
    | none => .error .malformed

/-- The anchor and the tag before a node, in either order, each at most once. -/
def properties (p : Parsing) : Except Fault (Option Text × Option Text × Parsing) :=
  match p.tokens with
  | .anchor a :: .tag h s :: _ => do return (some a, some (← p.fullTag h s), p.next.next)
  | .anchor a :: _ => .ok (some a, none, p.next)
  | .tag h s :: .anchor a :: _ => do return (some a, some (← p.fullTag h s), p.next.next)
  | .tag h s :: _ => do return (none, some (← p.fullTag h s), p.next)
  | _ => .ok (none, none, p)

end Parsing

/-- Whether an empty node stands before this token in a block mapping. -/
def endsPart : Option Token → Bool
  | some .key => true
  | some .value => true
  | some .blockEnd => true
  | _ => false

/-- Whether an empty item stands before this token in a block sequence. -/
def endsItem : Option Token → Bool
  | some .dash => true
  | some .blockEnd => true
  | _ => false

/-- Whether an empty node stands before this token between brackets. -/
def endsFlowPart (close : Token → Bool) : Option Token → Bool
  | some .comma => true
  | some t => close t
  | none => false

/-- Whether this is the bracket behind a list. -/
def closesList : Token → Bool
  | .closeList => true
  | _ => false

/-- Whether this is the bracket behind a mapping. -/
def closesMap : Token → Bool
  | .closeMap => true
  | _ => false

/-- One more item before those that follow. -/
def consItem (x : Node) (rest : Parsed) : Parsed :=
  match rest with
  | .ok (.sequence tag items, p) => .ok (.sequence tag (x :: items), p)
  | other => other

/-- One more pair before those that follow. -/
def consPair (x y : Node) (rest : Parsed) : Parsed :=
  match rest with
  | .ok (.mapping tag pairs, p) => .ok (.mapping tag ((x, y) :: pairs), p)
  | other => other

mutual

/-- Reads a node. Blocks may start only where `block` says so, and a sequence without indentation
of its own only where `flush` says so. -/
def read (block flush : Bool) : Nat → Parsing → Parsed
  | 0, _ => .error .malformed
  | n + 1, p =>
    match p.tokens with
    | .alias a :: _ =>
      match p.anchors.lookup a with
      | some (.node x) => .ok (x, p.next)
      | some (.around kind) => .ok (.ring kind, p.next)
      | none => .error .malformed
    | _ =>
      match p.properties with
      | .error f => .error f
      | .ok (anchor, tag, p) =>
        let taken := match anchor with
          | some a => (p.anchors.lookup a).isSome
          | none => false
        let dashHere := match p.tokens with
          | .dash :: _ => true
          | _ => false
        if taken then .error .malformed
        else if flush && dashHere then collection anchor .sequence (flushItems n) tag p
        else
          match p.tokens with
          | .scalar plain text :: _ => named anchor (.scalar tag plain text) p.next
          | .openList :: _ => collection anchor .sequence (listItems n true) tag p.next
          | .openMap :: _ => collection anchor .mapping (mapPairs n true) tag p.next
          | .blockSequence :: _ =>
            if block then collection anchor .sequence (blockItems n) tag p.next
            else unmarked anchor tag p
          | .blockMapping :: _ =>
            if block then collection anchor .mapping (blockPairs n) tag p.next
            else unmarked anchor tag p
          | _ => unmarked anchor tag p
where
  /-- A node that has been read, under its name. -/
  named (anchor : Option Text) (x : Node) (p : Parsing) : Parsed := do
    return (x, ← p.name? anchor (.node x))
  /-- A node that is only marked, with nothing in it. -/
  unmarked (anchor tag : Option Text) (p : Parsing) : Parsed :=
    if anchor.isNone && tag.isNone then .error .malformed
    else named anchor (.scalar tag true []) p
  /-- A node that holds others: while they are read, its name stands for the node around them. -/
  collection (anchor : Option Text) (kind : CollectionKind) (inside : Parsing → Parsed)
      (tag : Option Text) (p : Parsing) : Parsed := do
    let p ← p.name? anchor (.around kind)
    let (x, p) ← inside p
    let x := match x with
      | .sequence _ items => .sequence tag items
      | .mapping _ pairs => .mapping tag pairs
      | other => other
    named anchor x p

/-- Reads the items of a block sequence. -/
def blockItems : Nat → Parsing → Parsed
  | 0, _ => .error .malformed
  | n + 1, p =>
    match p.tokens with
    | .dash :: _ =>
      let p := p.next
      if endsItem p.tokens.head? then consItem .empty (blockItems n p)
      else
        match read true false n p with
        | .error f => .error f
        | .ok (x, p) => consItem x (blockItems n p)
    | .blockEnd :: _ => .ok (.sequence none [], p.next)
    | _ => .error .malformed

/-- Reads the items of a sequence without indentation of its own. -/
def flushItems : Nat → Parsing → Parsed
  | 0, _ => .error .malformed
  | n + 1, p =>
    match p.tokens with
    | .dash :: _ =>
      let p := p.next
      let here := p.tokens.head?
      if endsItem here || endsPart here then consItem .empty (flushItems n p)
      else
        match read true false n p with
        | .error f => .error f
        | .ok (x, p) => consItem x (flushItems n p)
    | _ => .ok (.sequence none [], p)

/-- Reads the pairs of a block mapping. -/
def blockPairs : Nat → Parsing → Parsed
  | 0, _ => .error .malformed
  | n + 1, p =>
    match p.tokens with
    | .key :: _ =>
      let p := p.next
      let first := if endsPart p.tokens.head? then .ok (.empty, p) else read true true n p
      match first with
      | .error f => .error f
      | .ok (x, p) =>
        match p.tokens with
        | .value :: _ =>
          let p := p.next
          if endsPart p.tokens.head? then consPair x .empty (blockPairs n p)
          else
            match read true true n p with
            | .error f => .error f
            | .ok (y, p) => consPair x y (blockPairs n p)
        | _ => consPair x .empty (blockPairs n p)
    | .blockEnd :: _ => .ok (.mapping none [], p.next)
    | _ => .error .malformed

/-- Reads the items of a list in brackets. An item with a colon is a mapping of one pair. -/
def listItems : Nat → Bool → Parsing → Parsed
  | 0, _, _ => .error .malformed
  | n + 1, first, p =>
    match p.tokens with
    | .closeList :: _ => .ok (.sequence none [], p.next)
    | t :: _ =>
      let comma := match t with
        | .comma => true
        | _ => false
      if !first && !comma then .error .malformed
      else
        let p := if first then p else p.next
        match p.tokens with
        | .closeList :: _ => .ok (.sequence none [], p.next)
        | .key :: _ =>
          match flowPair n closesList p.next with
          | .error f => .error f
          | .ok (x, p) => consItem x (listItems n false p)
        | _ =>
          match read false false n p with
          | .error f => .error f
          | .ok (x, p) => consItem x (listItems n false p)
    | [] => .error .malformed

/-- Reads the pairs of a mapping in braces. A key may stand alone. -/
def mapPairs : Nat → Bool → Parsing → Parsed
  | 0, _, _ => .error .malformed
  | n + 1, first, p =>
    match p.tokens with
    | .closeMap :: _ => .ok (.mapping none [], p.next)
    | t :: _ =>
      let comma := match t with
        | .comma => true
        | _ => false
      if !first && !comma then .error .malformed
      else
        let p := if first then p else p.next
        match p.tokens with
        | .closeMap :: _ => .ok (.mapping none [], p.next)
        | .key :: _ =>
          match flowPair n closesMap p.next with
          | .ok (.mapping _ [(x, y)], p) => consPair x y (mapPairs n false p)
          | .ok _ => .error .malformed
          | .error f => .error f
        | _ =>
          match read false false n p with
          | .error f => .error f
          | .ok (x, p) => consPair x .empty (mapPairs n false p)
    | [] => .error .malformed

/-- Reads a key and its value between brackets; either may be empty. -/
def flowPair : Nat → (Token → Bool) → Parsing → Parsed
  | 0, _, _ => .error .malformed
  | n + 1, close, p =>
    let isValue := match p.tokens with
      | .value :: _ => true
      | _ => false
    let first :=
      if isValue || endsFlowPart close p.tokens.head? then .ok (.empty, p)
      else read false false n p
    match first with
    | .error f => .error f
    | .ok (x, p) =>
      match p.tokens with
      | .value :: _ =>
        let p := p.next
        if endsFlowPart close p.tokens.head? then .ok (.mapping none [(x, .empty)], p)
        else
          match read false false n p with
          | .error f => .error f
          | .ok (y, p) => .ok (.mapping none [(x, y)], p)
      | _ => .ok (.mapping none [(x, .empty)], p)

end

/-- What the handles of tags stand for if no directive says otherwise. -/
def defaultHandles : List (Text × Text) := [("!", "!"), ("!!", "tag:yaml.org,2002:")]

/-- The handles of the directives before a document, and the tokens behind them. -/
def directives : List Token → Bool → List (Text × Text) →
    Except Fault (List (Text × Text) × List Token)
  | .directive d :: more, versioned, handles =>
    match d with
    | .version major =>
      if versioned || major != 1 then .error .malformed else directives more true handles
    | .handle name stands =>
      if (handles.lookup name).isSome then .error .malformed
      else directives more versioned ((name, stands) :: handles)
    | .other => directives more versioned handles
  | tokens, _, handles => .ok (handles ++ defaultHandles, tokens)

/-- Turns enough to read the tokens. -/
def turns (tokens : List Token) : Nat := 4 * tokens.length + 8

/-- Nothing but the end of the document may follow it. -/
def ended (x : Node) (tokens : List Token) : Except Fault (Option Node) :=
  if tokens.all fun t => match t with
    | .documentEnd => true
    | _ => false
  then .ok (some x) else .error .malformed

/-- The node of a stream with at most one document; nothing if there is none. -/
def ofTokens (tokens : List Token) : Except Fault (Option Node) :=
  match tokens with
  | [] => .ok none
  | .directive _ :: _ => explicit tokens
  | .documentStart :: _ => explicit tokens
  | _ =>
    match read true false (turns tokens) { tokens, handles := defaultHandles } with
    | .error f => .error f
    | .ok (x, p) => ended x p.tokens
where
  /-- A document that starts with directives or with its mark. -/
  explicit (tokens : List Token) : Except Fault (Option Node) :=
    match directives tokens false [] with
    | .ok (handles, .documentStart :: more) =>
      match more with
      | [] => .ok (some .empty)
      | .directive _ :: _ => .error .malformed
      | .documentStart :: _ => .error .malformed
      | .documentEnd :: _ => ended .empty more
      | _ =>
        match read true false (turns more) { tokens := more, handles } with
        | .error f => .error f
        | .ok (x, p) => ended x p.tokens
    | .ok _ => .error .malformed
    | .error f => .error f

end Node

end Readiness.Yaml
