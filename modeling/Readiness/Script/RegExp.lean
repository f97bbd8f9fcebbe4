import Readiness.Script.Escape
import Readiness.Text.CharacterName
import Readiness.Text.Whole

/-!
# Regular expressions

Regular expression literals are checked against one dialect; a pattern outside it is noted as
invalid. The dialect has groups `(…)`, `(?:…)`, `(?>…)`, `(?P<name>…)`, back references by number
and by `(?P=name)`, lookahead, lookbehind of one fixed width, conditionals `(?(1)…|…)`, comments
`(?#…)`, flags `(?i)` at the very start and `(?i-s:…)` anywhere, and greedy, lazy and possessive
repetition. An escaped letter must have a meaning, a range must have two single characters in
order, and a repetition needs something to repeat that is neither an anchor nor a repetition.

Before the check, `\u` escapes are replaced by their characters, astral ones by `U+FFFF`. Besides
them a character can be called by its name, as in `\N{DIGIT ONE}`.

The checker computes how many characters each part can match, because lookbehind needs it.
-/

namespace Readiness.Script.RegExp

/-! ## Code point escapes -/

/-- The character that stands for every astral code point. -/
def astral : CodePoint := .ofNat 0xFFFF

/-- The character for the code point of an escape. -/
def ofCode (n : Nat) : CodePoint := if n ≤ 0xFFFF then CodePoint.ofNat n else astral

/-- The value of the braced digits behind `\u{`, with what follows the brace. -/
def braced? (t : Text) : Option (Nat × Text) :=
  match hexRun 0 t with
  | (v, _ + 1, .char '}' :: rest) => some (v, rest)
  | _ => none

/-- How many braced escapes name no code point. -/
def codePointFaults : Text → Nat
  | .char '\\' :: .char 'u' :: .char '{' :: r =>
    match braced? r with
    | some (v, _) => codePointFaults r + (if v > 0x10FFFF then 1 else 0)
    | none => codePointFaults r
  | _ :: r => codePointFaults r
  | [] => 0

/-- The code point of an escape and what follows it, from behind `\u`. -/
def escapedCode? (t : Text) : Option (Nat × Text) :=
  match t with
  | .char '{' :: r => braced? r
  | r =>
    match hexDigits 4 0 r with
    | (some v, _, rest) => some (v, rest)
    | _ => none

/-- The pattern with its `\u` escapes replaced. Each turn takes a character, so as many turns as
characters are enough. -/
def substitute : Nat → Text → Text
  | 0, t => t
  | _, [] => []
  | n + 1, .char '\\' :: .char 'u' :: r =>
    match escapedCode? r with
    | some (v, rest) => ofCode v :: substitute n rest
    | none => '\\' :: substitute n ('u' :: r)
  | n + 1, c :: r => c :: substitute n r

/-- The pattern with each surrogate pair replaced by one character. -/
def joinPairs : Text → Text
  | [] => []
  | [c] => [c]
  | a :: b :: r =>
    match a, b with
    | .surrogate x, .surrogate y =>
      if x < 0x400 ∧ 0x400 ≤ y then astral :: joinPairs r else a :: joinPairs (b :: r)
    | _, _ => a :: joinPairs (b :: r)

/-! ## The checker -/

/-- Least and greatest number of characters that a part of a pattern matches. -/
structure Width where
  lo : Nat
  hi : Nat

/-- The width of a part that matches nothing or the empty text. -/
def Width.zero : Width := ⟨0, 0⟩

/-- The width of one character. -/
def Width.one : Width := ⟨1, 1⟩

/-- The width of two parts in a row. -/
def Width.plus (a b : Width) : Width := ⟨a.lo + b.lo, a.hi + b.hi⟩

/-- The width of a choice. -/
def Width.either (a b : Width) : Width := ⟨min a.lo b.lo, max a.hi b.hi⟩

/-- The number that stands for no limit on a repetition. -/
def unlimited : Nat := 4294967295

/-- The greatest width of a lookbehind. -/
def furthestBehind : Nat := 4294967295

/-- The number that groups stay below. -/
def groupLimit : Nat := 1073741823

/-- How deep groups may nest. -/
def deepest : Nat := 478

/-- The parts of a sequence: an anchor cannot be repeated, all others can. -/
inductive Part where
  | anchor
  | other

/-- What is left of the pattern, and what is known of its groups. A group that is still open has no
width yet. -/
structure State where
  rest : Text
  groups : List (Option Width) := []
  names : List (Text × Nat) := []
  /-- How many groups stood before the lookbehind around this place. -/
  behind : Option Nat := none
  /-- Groups that conditionals ask for. -/
  asked : List Nat := []
  /-- Whether blanks and comments up to the end of a line are not part of the pattern. -/
  spaced : Bool := false
  /-- The flags switched on for the whole pattern. -/
  flags : List CodePoint := []
  /-- Whether something was repeated. -/
  repeats : Bool := false
  /-- How many groups are open. -/
  depth : Nat := 0

/-- The state with `rest` left. -/
def State.at (s : State) (rest : Text) : State := { s with rest }

/-- The state inside one more group. -/
def State.enter? (s : State) : Option State :=
  if s.depth < deepest then some { s with depth := s.depth + 1 } else none

/-- The width of a closed group. -/
def State.closed? (s : State) (n : Nat) : Option Width :=
  if n = 0 then none else (s.groups[n - 1]?).join

/-- The width of the group that a back reference names, which must be closed and not stand in the
same lookbehind. -/
def State.refer? (s : State) (n : Nat) : Option Width := do
  let w ← s.closed? n
  match s.behind with
  | none => some w
  | some k => if n > k then none else some w

/-- The letters with a class of characters as their meaning. -/
def classLetters : List CodePoint := "dDsSwW"

/-- The letters with a control character as their meaning. -/
def controlLetters : List CodePoint := "afnrtv"

/-- The letters with a place as their meaning. -/
def anchorLetters : List CodePoint := "AZbB"

/-- Reads up to `n` characters that satisfy `p`. -/
def upTo (n : Nat) (p : CodePoint → Bool) (t : Text) : Text × Text :=
  let run := (t.take n).takeWhile p
  (run, t.drop run.length)

/-- Reads an escape with a fixed number of hexadecimal digits. -/
def hexLiteral? (n : Nat) (t : Text) : Option (Nat × Text) :=
  match hexDigits n 0 t with
  | (some v, _, rest) => some (v, rest)
  | _ => none

/-- The characters before the first `stop`, of which there must be some, and what follows it. -/
def until? (stop : CodePoint) (t : Text) : Option (Text × Text) :=
  match t.span (· != stop) with
  | (name, _ :: rest) => if name.isEmpty then none else some (name, rest)
  | _ => none

/-- Reads the name of a character in braces. -/
def named? (t : Text) : Option (Nat × Text) :=
  match t with
  | .char '{' :: r => do
    let (name, rest) ← until? '}' r
    return (← CharacterName.find? name, rest)
  | _ => none

/-- The number written by octal digits. -/
def octalValue (t : Text) : Nat := t.foldl (fun n c => n * 8 + (c.toNat - 48)) 0

/-- Reads an escape outside a class, from behind the backslash. -/
def escape? (s : State) (e : CodePoint) (r : Text) : Option (Part × Width × State) :=
  let literal (rest : Text) : Option (Part × Width × State) := some (.other, .one, s.at rest)
  if anchorLetters.contains e then some (.anchor, .zero, s.at r)
  else if classLetters.contains e || controlLetters.contains e then literal r
  else if e == 'x' then (hexLiteral? 2 r).bind fun v => literal v.2
  else if e == 'u' then (hexLiteral? 4 r).bind fun v => literal v.2
  else if e == 'U' then
    (hexLiteral? 8 r).bind fun v => if v.1 ≤ 0x10FFFF then literal v.2 else none
  else if e == 'N' then (named? r).bind fun v => literal v.2
  else if e == '0' then literal (upTo 2 isOctalDigit r).2
  else if e.isDigit then
    let reference (digits : Text) (rest : Text) : Option (Part × Width × State) :=
      (s.refer? (digits.foldl (fun n c => n * 10 + (c.toNat - 48)) 0)).map
        fun w => (.other, w, s.at rest)
    match r with
    | a :: r' =>
      if !a.isDigit then reference [e] r
      else
        match r' with
        | b :: r'' =>
          if isOctalDigit e && isOctalDigit a && isOctalDigit b then
            if octalValue [e, a, b] ≤ 0o377 then literal r'' else none
          else reference [e, a] r'
        | [] => reference [e, a] r'
    | [] => reference [e] r
  else if e.toNat < 128 && e.isAlpha then none
  else literal r

/-- A member of a class: one character, by its code, or a whole class. -/
inductive Member where
  | single (code : Nat)
  | many

/-- Reads an escape inside a class, from behind the backslash. -/
def classEscape? (e : CodePoint) (r : Text) : Option (Member × Text) :=
  let literal (n : Nat) (rest : Text) : Option (Member × Text) := some (.single n, rest)
  if e == 'b' then literal 8 r
  else if e == 'a' then literal 7 r
  else if e == 'f' then literal 12 r
  else if e == 'n' then literal 10 r
  else if e == 'r' then literal 13 r
  else if e == 't' then literal 9 r
  else if e == 'v' then literal 11 r
  else if classLetters.contains e then some (.many, r)
  else if e == 'x' then (hexLiteral? 2 r).bind fun v => literal v.1 v.2
  else if e == 'u' then (hexLiteral? 4 r).bind fun v => literal v.1 v.2
  else if e == 'U' then
    (hexLiteral? 8 r).bind fun v => if v.1 ≤ 0x10FFFF then literal v.1 v.2 else none
  else if e == 'N' then (named? r).bind fun v => literal v.1 v.2
  else if isOctalDigit e then
    let (more, rest) := upTo 2 isOctalDigit r
    let n := octalValue (e :: more)
    if n ≤ 0o377 then literal n rest else none
  else if e.toNat < 128 && e.isAlphanum then none
  else literal e.toNat r

/-- Reads one member of a class. -/
def member? : Text → Option (Member × Text)
  | [] => none
  | [.char '\\'] => none
  | .char '\\' :: e :: r => classEscape? e r
  | c :: r => some (.single c.toNat, r)

/-- Reads a class from behind its opening bracket and negation: what follows its closing bracket. A
bracket that comes first is a member. -/
def class? : Nat → Bool → Text → Option Text
  | 0, _, _ => none
  | n + 1, isFirst, t =>
    match isFirst, t with
    | false, .char ']' :: r => some r
    | _, t => do
      let (a, r) ← member? t
      match r with
      | .char '-' :: .char ']' :: r' => some r'
      | .char '-' :: r' =>
        let (b, r'') ← member? r'
        match a, b with
        | .single x, .single y => if y < x then none else class? n false r''
        | _, _ => none
      | _ => class? n false r

/-- The bounds of a repetition in braces, from behind the opening one: `none` if the brace is an
ordinary character, `some none` if the bounds are not allowed. -/
def braces? (t : Text) : Option (Option (Nat × Nat × Text)) :=
  match t with
  | .char '}' :: _ => none
  | _ =>
    let low := t.takeWhile CodePoint.isDigit
    let r := t.drop low.length
    let value (ds : Text) : Nat := ds.foldl (fun n c => n * 10 + (c.toNat - 48)) 0
    let (high, r) : Text × Text :=
      match r with
      | .char ',' :: r' =>
        let high := r'.takeWhile CodePoint.isDigit
        (high, r'.drop high.length)
      | r => (low, r)
    match r with
    | .char '}' :: rest =>
      let lo := if low.isEmpty then 0 else value low
      let hi := if high.isEmpty then unlimited else value high
      let isLong (ds : Text) : Bool := mostDigits < ds.length
      if isLong low || isLong high || (!low.isEmpty && lo ≥ unlimited) ||
          (!high.isEmpty && hi ≥ unlimited) || hi < lo then
        some none
      else some (some (lo, hi, rest))
    | _ => none

/-- What stands where a repetition could. -/
inductive Repetition where
  | absent
  | forbidden
  | present (lo hi : Nat) (rest : Text)

/-- Reads a repetition with the mark that makes it lazy or possessive. -/
def repetition? (t : Text) : Repetition :=
  let marked (lo hi : Nat) : Text → Repetition
    | .char '?' :: r => .present lo hi r
    | .char '+' :: r => .present lo hi r
    | r => .present lo hi r
  match t with
  | .char '*' :: r => marked 0 unlimited r
  | .char '+' :: r => marked 1 unlimited r
  | .char '?' :: r => marked 0 1 r
  | .char '{' :: r =>
    match braces? r with
    | none => .absent
    | some none => .forbidden
    | some (some (lo, hi, rest)) => marked lo hi rest
  | _ => .absent

/-- The characters of identifiers that names of groups are not made of: the dollar, the backslash,
the joiners, and letters that fall apart when they are normalized. -/
def unnamed : List Nat :=
  [0x24, 0x5C, 0x200C, 0x200D, 0x37A, 0x2E2F, 0x309B, 0x309C, 0xFC5E, 0xFC5F, 0xFC60, 0xFC61, 0xFC62,
    0xFC63, 0xFDFA, 0xFDFB, 0xFE70, 0xFE72, 0xFE74, 0xFE76, 0xFE78, 0xFE7A, 0xFE7C, 0xFE7E]

/-- The letters that fall apart into a mark and more, so that the name of a group may go on with
them but not start. -/
def onlyWithin : List Nat := [0xE33, 0xEB3, 0xFF9E, 0xFF9F]

/-- Whether the name of a group may start with the character. -/
def startsName (c : CodePoint) : Bool :=
  isIdentifierStart c && !unnamed.contains c.toNat && !onlyWithin.contains c.toNat

/-- Whether the name of a group may go on with the character. -/
def continuesName (c : CodePoint) : Bool := isIdentifierPart c && !unnamed.contains c.toNat

/-- Whether a group may bear the name. -/
def isGroupName : Text → Bool
  | [] => false
  | c :: r => startsName c && r.all continuesName

/-- The flags of a group. -/
def flagLetters : List CodePoint := "imsxatu"

/-- What a run of flags opens: settings for the whole pattern, or a group with its own. -/
inductive FlagUse where
  | whole (on : List CodePoint)
  | group (on off : List CodePoint)

/-- Reads flags that are switched off, up to the colon. -/
def flagsOff? (on : List CodePoint) : List CodePoint → Text → Option (FlagUse × Text)
  | off, .char ':' :: r =>
    if off.any (fun c => on.contains c || c == 't') then none else some (.group on off, r)
  | off, c :: r => if ("imsxt" : Text).contains c then flagsOff? on (c :: off) r else none
  | _, [] => none

/-- Reads flags that are switched on, and those switched off behind a hyphen. -/
def flags? : List CodePoint → Text → Option (FlagUse × Text)
  | on, .char ')' :: r => some (.whole on, r)
  | on, .char ':' :: r => if on.contains 't' then none else some (.group on [], r)
  | on, .char '-' :: c :: r => if on.contains 't' || c == ':' then none else flagsOff? on [] (c :: r)
  | on, c :: r =>
    if !flagLetters.contains c then none
    else if (c == 'a' && on.contains 'u') || (c == 'u' && on.contains 'a') then none
    else flags? (c :: on) r
  | _, [] => none

/-- The group that a conditional asks for, by name or number. -/
def groupNumber? (s : State) (name : Text) : Option Nat := do
  let id ← if isGroupName name then (s.names.find? fun p => p.1 == name).map (·.2)
    else
      match Text.whole name with
      | .ok n => if 0 < n ∧ n < groupLimit then some n.toNat else none
      | .error _ => none
  if s.behind.isSome && (s.refer? id).isNone then none else some id

/-- What follows the comment of a group `(?#…)`, from behind its mark. A backslash takes the next
character with it. -/
def commentEnd? : Text → Option Text
  | .char ')' :: r => some r
  | .char '\\' :: _ :: r => commentEnd? r
  | _ :: r => commentEnd? r
  | [] => none

/-- What follows a comment that ends with its line. -/
def lineEnd : Text → Text
  | .char '\n' :: r => r
  | [.char '\\'] => ['\\']
  | .char '\\' :: _ :: r => lineEnd r
  | _ :: r => lineEnd r
  | [] => []

/-- What follows the comments and, in a spaced pattern, the blanks that stand before the next part;
`none` if a comment has no end. Each turn takes a character, so as many turns as characters are
enough. -/
def skip? : Nat → Bool → Text → Option Text
  | n + 1, spaced, .char '(' :: .char '?' :: .char '#' :: r => (commentEnd? r).bind (skip? n spaced)
  | n + 1, true, c :: r =>
    if c == '#' then skip? n true (lineEnd r)
    else if (" \t\n\r\x0b\x0c" : Text).contains c then skip? n true r
    else some (c :: r)
  | _, _, t => some t

/-- The state at its next part. -/
def State.next? (s : State) : Option State := (skip? s.rest.length s.spaced s.rest).map s.at

/-- Reads the closing parenthesis. -/
def State.close? (s : State) : Option State :=
  match s.rest with
  | .char ')' :: r => some (s.at r)
  | _ => none

mutual

/-- Reads the choices up to a closing parenthesis or the end. Each call takes a character or goes
one level down, so three times as many calls as characters are enough. -/
def choices? : Nat → Bool → State → Option (Width × State)
  | 0, _, _ => none
  | n + 1, top, s => do
    let (w, s) ← sequence? n top .zero s
    match s.rest with
    | .char '|' :: r =>
      let (v, s) ← choices? n false (s.at r)
      some (w.either v, s)
    | _ => some (w, s)

/-- Reads a sequence. `top` tells that nothing but flags stands before in the whole pattern, `w` is
the width so far. A repetition found here has nothing before it that could be repeated. -/
def sequence? : Nat → Bool → Width → State → Option (Width × State)
  | 0, _, _, _ => none
  | n + 1, top, w, s => do
    let s ← s.next?
    match s.rest with
    | [] => some (w, s)
    | .char '|' :: _ => some (w, s)
    | .char ')' :: _ => some (w, s)
    | [.char '\\'] => none
    | .char '\\' :: e :: r => (escape? s e r).bind fun (part, v, s) => item? n part v w s
    | .char '[' :: .char '^' :: r => (class? (r.length + 1) true r).bind fun r => item? n .other .one w (s.at r)
    | .char '[' :: r => (class? (r.length + 1) true r).bind fun r => item? n .other .one w (s.at r)
    | .char '^' :: r => item? n .anchor .zero w (s.at r)
    | .char '$' :: r => item? n .anchor .zero w (s.at r)
    | .char '*' :: _ => none
    | .char '+' :: _ => none
    | .char '?' :: _ => none
    | .char '{' :: r =>
      match braces? r with
      | none => item? n .other .one w (s.at r)
      | some _ => none
    | .char '(' :: .char '?' :: r => extension? n top w (s.at r)
    | .char '(' :: r => group? n none w (s.at r)
    | _ :: r => item? n .other .one w (s.at r)

/-- Goes on behind a part of width `v`, reading a repetition of it first if one follows. -/
def item? : Nat → Part → Width → Width → State → Option (Width × State)
  | 0, _, _, _, _ => none
  | n + 1, part, v, w, s => do
    let s ← s.next?
    match repetition? s.rest with
    | .absent => sequence? n false (w.plus v) s
    | .forbidden => none
    | .present lo hi rest =>
      match part with
      | .other =>
        sequence? n false (w.plus ⟨v.lo * lo, v.hi * hi⟩) { s with rest, repeats := true }
      | .anchor => none

/-- Reads a group that captures, from behind its introduction, and goes on behind it. -/
def group? : Nat → Option Text → Width → State → Option (Width × State)
  | 0, _, _, _ => none
  | n + 1, name, w, s => do
    let id := s.groups.length
    let names := match name with
      | some name => (name, id + 1) :: s.names
      | none => s.names
    let depth := s.depth
    let s ← s.enter?
    let (v, s) ← choices? n false { s with groups := s.groups ++ [none], names }
    let s ← s.close?
    item? n .other v w { s with groups := s.groups.set id (some v), depth }

/-- Reads a group from behind `(?` and goes on behind it. -/
def extension? : Nat → Bool → Width → State → Option (Width × State)
  | 0, _, _, _ => none
  | n + 1, top, w, s =>
    let spaced := s.spaced
    let depth := s.depth
    let inner (width : Width → Option Width) (s : State) : Option (Width × State) := do
      let s ← s.enter?
      let (v, s) ← choices? n false s
      let s ← s.close?
      let v ← width v
      item? n .other v w { s with spaced, depth }
    match s.rest with
    | .char 'P' :: .char '<' :: r => do
      let (name, r) ← until? '>' r
      if !isGroupName name || (s.names.any fun p => p.1 == name) then none
      else group? n (some name) w (s.at r)
    | .char 'P' :: .char '=' :: r => do
      let (name, r) ← until? ')' r
      let (_, id) ← s.names.find? fun p => p.1 == name
      let v ← s.refer? id
      item? n .other v w (s.at r)
    | .char ':' :: r => inner some (s.at r)
    | .char '>' :: r => inner some (s.at r)
    | .char '=' :: r => inner (fun _ => some .zero) (s.at r)
    | .char '!' :: r => inner (fun _ => some .zero) (s.at r)
    | .char '<' :: d :: r =>
      if d == '=' || d == '!' then do
        let outer := s.behind
        let s ← s.enter?
        let (v, s) ← choices? n false
          { s with rest := r, behind := some (outer.getD s.groups.length) }
        let s ← s.close?
        if v.lo != v.hi || furthestBehind < v.lo then none
        else item? n .other .zero w { s with behind := outer, depth }
      else none
    | .char '(' :: r => do
      let (name, r) ← until? ')' r
      let id ← groupNumber? s name
      let s ← s.enter?
      let (a, s) ← sequence? n false .zero { s with rest := r, asked := id :: s.asked }
      let (b, s) ← match s.rest with
        | .char '|' :: r => sequence? n false .zero (s.at r)
        | _ => some (.zero, s)
      let s ← s.close?
      item? n .other (a.either b) w { s with depth }
    | c :: r =>
      if c == '-' || flagLetters.contains c then do
        let (use, rest) ← flags? [] (c :: r)
        match use with
        | .whole on =>
          if top then
            sequence? n top w
              { s with rest, spaced := s.spaced || on.contains 'x', flags := on ++ s.flags }
          else none
        | .group on off =>
          inner some
            { s with rest, spaced := (s.spaced || on.contains 'x') && !off.contains 'x' }
      else none
    | [] => none

end

/-- Whether what was read makes up a pattern: nothing is left, the groups that conditionals ask for
are there, and the flags for the whole go together with each other and with the pattern. -/
def State.isComplete (s : State) : Bool :=
  s.rest.isEmpty && s.asked.all (· ≤ s.groups.length) &&
    !(s.flags.contains 'a' && s.flags.contains 'u') && !(s.flags.contains 't' && s.repeats)

/-- The pattern without `\u` escapes and surrogate pairs. -/
def plain (pattern : Text) : Text := joinPairs (substitute pattern.length pattern)

/-- The flags that a plain pattern switches on for itself, if it belongs to the dialect. -/
def flagsWithin? (t : Text) : Option (List CodePoint) :=
  match choices? (3 * t.length + 3) true { rest := t } with
  | some (_, s) => if s.isComplete then some s.flags else none
  | none => none

/-- The names of the flags, in the order in which they are shown. -/
def flagNames : List (CodePoint × Text) :=
  [('t', "re.TEMPLATE"), ('i', "re.IGNORECASE"), ('m', "re.MULTILINE"), ('s', "re.DOTALL"),
    ('x', "re.VERBOSE"), ('a', "re.ASCII")]

/-- How many characters of a pattern are shown. -/
def mostShown : Nat := 200

/-- The flag of a literal that counts: of the two that are known here, the one for lines comes
first. -/
def outerFlags (flags : Text) : List CodePoint :=
  if flags.contains 'm' then ['m'] else if flags.contains 'i' then ['i'] else []

/-- The text that shows a regular expression with its flags, if its pattern belongs to the
dialect. -/
def shown? (pattern flags : Text) : Option Text := do
  let t := plain pattern
  let on := outerFlags flags ++ (← flagsWithin? t)
  let names := (flagNames.filter fun f => on.contains f.1).map (·.2)
  let listed : Text := if names.isEmpty then [] else ", " ++ Text.join "|" names
  return "re.compile(" ++ (quoted t).take mostShown ++ listed ++ ")"

end Readiness.Script.RegExp
