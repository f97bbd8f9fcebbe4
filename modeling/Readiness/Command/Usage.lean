import Readiness.Text.Quoted

/-!
# Command lines

What options and words a command takes, and how a command line is read by it. Options and words may
be mixed. An option may be shortened as long as only one option starts so; its word follows it,
stands behind an equals sign, or, for options of one letter, right behind the letter. Two dashes by
themselves make everything behind them a word.

A command can have commands below it: the first word names one, and all that follows is read by
that command. What a command does not know is left over, and the command above complains about it.
-/

namespace Readiness.Command

/-- How many words an option or a position takes. -/
inductive Arity where
  | none
  | one
  /-- One word, or none. -/
  | optional
  /-- At least one word. -/
  | several
  /-- The name of a command and everything behind it. -/
  | command
deriving DecidableEq

/-- What is special about an option. -/
inductive Role where
  | plain
  /-- The option asks how the command is used. -/
  | help
  /-- The option asks for the version. -/
  | version
deriving DecidableEq

/-- An option. -/
structure Flag where
  /-- The ways to write it. -/
  spellings : List Text
  /-- The name under which its words are found. -/
  key : Text
  arity : Arity
  choices : Option (List Text) := none
  role : Role := .plain

/-- A position for words that belong to no option. -/
structure Position where
  key : Text
  arity : Arity
  choices : Option (List Text) := none

/-- What a command takes. -/
structure Usage where
  program : Text
  flags : List Flag
  positions : List Position

/-- What can be wrong with the words of an option or a position. -/
inductive WordFault where
  | notOffered (given : Text) (choices : List Text)
  | wantsOne
  | wantsSeveral
  /-- A word right behind an option that takes none. -/
  | ignored (given : Text)

/-- What can be wrong with a command line. -/
inductive UsageFault where
  | ambiguous (given : Text) (spellings : List Text)
  | words (name : Text) (fault : WordFault)
  | missing (names : List Text)
  | unknown (words : List Text)

/-- The words of a fault. -/
def WordFault.message : WordFault → Text
  | .notOffered given choices => "invalid choice: " ++ quoted given ++ " (choose from " ++
      Text.join ", " (choices.map quoted) ++ ")"
  | .wantsOne => "expected one argument"
  | .wantsSeveral => "expected at least one argument"
  | .ignored given => "ignored explicit argument " ++ quoted given

/-- The words of a fault. -/
def UsageFault.message : UsageFault → Text
  | .ambiguous given spellings => "ambiguous option: " ++ given ++ " could match " ++
      Text.join ", " spellings
  | .words name fault => "argument " ++ name ++ ": " ++ fault.message
  | .missing names => "the following arguments are required: " ++ Text.join ", " names
  | .unknown left => "unrecognized arguments: " ++ Text.join " " left

/-- Why a command line leads to no command. -/
inductive Stop where
  | help
  | version
  | fault (program : Text) (fault : UsageFault)

/-- What a command line says: the words under each key, the later ones behind the earlier, and what
was left over. -/
structure Matches where
  given : List (Text × List Text) := []
  left : List Text := []

/-- The words under a key, as they were given last. -/
def Matches.last? (m : Matches) (key : Text) : Option (List Text) :=
  m.given.reverse.lookup key

/-- Whether something was given under a key. -/
def Matches.has (m : Matches) (key : Text) : Bool := (m.last? key).isSome

/-- What stands right behind an option, in the same part of the command line. -/
inductive Attached where
  | nothing
  /-- A word behind an equals sign. -/
  | behindEquals (word : Text)
  /-- The characters that follow an option of one letter. -/
  | tail (word : Text)

/-- What one part of a command line is. -/
inductive Part where
  | word
  | separator
  /-- An option in one of its spellings, with what stands right behind it. -/
  | flag (flag : Flag) (spelling : Text) (attached : Attached)
  /-- What looks like an option and is none. -/
  | strange

/-- Whether a part is, or looks like, an option. -/
def Part.isFlag : Part → Bool
  | .flag .. => true
  | .strange => true
  | _ => false

/-- Whether a part is a word. -/
def Part.isWord : Part → Bool
  | .word => true
  | _ => false

/-- Whether a part is the separator. -/
def Part.isSeparator : Part → Bool
  | .separator => true
  | _ => false

/-- The name of an option in messages. -/
def Flag.name (f : Flag) : Text := Text.join "/" f.spellings

/-- Whether a text is a number with a minus sign. -/
def isNegativeNumber (t : Text) : Bool :=
  match t with
  | .char '-' :: r =>
    let whole := r.takeWhile CodePoint.isDigit
    match r.drop whole.length with
    | [] => !whole.isEmpty
    | .char '.' :: f => !f.isEmpty && f.all CodePoint.isDigit
    | _ => false
  | _ => false

/-- A text cut at its first equals sign. -/
def cutAtEquals (t : Text) : Text × Attached :=
  let head := t.takeWhile (· != CodePoint.char '=')
  match t.drop head.length with
  | [] => (t, .nothing)
  | _ :: r => (head, .behindEquals r)

namespace Usage

/-- The ways to write the options, with the options. -/
def spellings (u : Usage) : List (Text × Flag) :=
  u.flags.flatMap fun f => f.spellings.map ((·, f))

/-- The options that a text may be short for. -/
def candidates (u : Usage) (t : Text) : List Part :=
  match t with
  | .char '-' :: .char '-' :: _ =>
    let (head, attached) := cutAtEquals t
    u.spellings.filterMap fun (s, f) =>
      if head.isPrefixOf s then some (.flag f s attached) else none
  | .char '-' :: _ =>
    u.spellings.filterMap fun (s, f) =>
      if s == t.take 2 then some (.flag f s (.tail (t.drop 2)))
      else if t.isPrefixOf s then some (.flag f s .nothing)
      else none
  | _ => []

/-- What a part of a command line is. -/
def part (u : Usage) (t : Text) : Except UsageFault Part :=
  if t.head? != some '-' then .ok .word
  else
    match u.spellings.lookup t with
    | some f => .ok (.flag f t .nothing)
    | none =>
      if t.length = 1 then .ok .word
      else
        let (head, attached) := cutAtEquals t
        match attached, u.spellings.lookup head with
        | .behindEquals e, some f => .ok (.flag f head (.behindEquals e))
        | _, _ =>
          match u.candidates t with
          | [p] => .ok p
          | [] =>
            if isNegativeNumber t || t.contains ' ' then .ok .word else .ok .strange
          | several => .error (.ambiguous t (several.filterMap fun p => match p with
              | .flag _ spelling _ => some spelling
              | _ => none))

/-- What the parts of a command line are. -/
def parts (u : Usage) : List Text → Except UsageFault (List (Text × Part))
  | [] => .ok []
  | s :: more =>
    if s == "--" then .ok ((s, .separator) :: more.map ((·, .word)))
    else do return (s, ← u.part s) :: (← u.parts more)

end Usage

/-- How many parts a position takes from the front. -/
def Position.count? (p : Position) (parts : List (Text × Part)) : Option Nat :=
  let before := (parts.takeWhile (·.2.isSeparator)).length
  let rest := parts.drop before
  let startsWithWord := (rest.head?.map (·.2.isWord)).getD false
  let behind (taken : Nat) : Nat := ((rest.drop taken).takeWhile (·.2.isSeparator)).length
  match p.arity with
  | .optional => some (before + if startsWithWord then 1 + behind 1 else behind 0)
  | .command => if startsWithWord then some parts.length else none
  | _ => if startsWithWord then some (before + 1 + behind 1) else none

/-- How many parts each of the first positions takes: of as many positions as possible. -/
def counts (positions : List Position) (parts : List (Text × Part)) : List Nat :=
  match positions with
  | [] => []
  | p :: more =>
    match p.count? parts with
    | none => []
    | some n => n :: counts more (parts.drop n)

/-- How far the reading of a command line has come. -/
structure Reading where
  positions : List Position
  seen : List Text := []
  found : Matches := {}
  /-- What a command below left over. -/
  below : List Text := []

/-- Reads the words of a command below. -/
abbrev Below := Text → List Text → Except Stop Matches

/-- Complains about words that are not on offer. -/
def offered (u : Usage) (name : Text) (choices : Option (List Text)) (words : List Text) :
    Except Stop Unit :=
  match choices with
  | none => .ok ()
  | some cs =>
    match words.find? (!cs.contains ·) with
    | some w => .error (.fault u.program (.words name (.notOffered w cs)))
    | none => .ok ()

/-- The words without the first separator among them. -/
def withoutSeparator (words : List Text) : List Text := words.erase "--"

namespace Reading

/-- Takes words for a position. -/
def takePosition (u : Usage) (below : Below) (r : Reading) (p : Position) (words : List Text) :
    Except Stop Reading := do
  let r := { r with seen := p.key :: r.seen }
  match p.arity with
  | .command =>
    offered u p.key p.choices (words.take 1)
    let m ← below (words.head?.getD "") (words.drop 1)
    return { r with
      found := { r.found with given := r.found.given ++ [(p.key, words.take 1)] ++ m.given }
      below := r.below ++ m.left }
  | _ =>
    let words := withoutSeparator words
    offered u p.key p.choices words
    if words.isEmpty then return r
    return { r with found := { r.found with given := r.found.given ++ [(p.key, words)] } }

/-- Takes words for as many positions as possible, and says how many parts that took. -/
def takePositions (u : Usage) (below : Below) (r : Reading) (parts : List (Text × Part)) :
    Except Stop (Nat × Reading) :=
  let ns := counts r.positions parts
  let rec go : List Position → List Nat → List (Text × Part) → Nat → Reading →
      Except Stop (Nat × Reading)
    | p :: ps, n :: ns, parts, taken, r => do
      let r ← r.takePosition u below p ((parts.take n).map (·.1))
      go ps ns (parts.drop n) (taken + n) r
    | _, _, _, taken, r => .ok (taken, r)
  do
    let (taken, done) ← go r.positions ns parts 0 r
    return (taken, { done with positions := r.positions.drop ns.length })

/-- Takes the words of an option. -/
def takeFlag (u : Usage) (r : Reading) (f : Flag) (words : List Text) : Except Stop Reading :=
  match f.role with
  | .help => .error .help
  | .version => .error .version
  | .plain => do
    let words := withoutSeparator words
    offered u f.name f.choices words
    return { r with found := { r.found with given := r.found.given ++ [(f.key, words)] } }

/-- What the characters behind a letter of a run of options are. -/
def tailOf (t : Text) : Attached :=
  match t with
  | [] => .nothing
  | .char '=' :: r => .behindEquals r
  | t => .tail t

/-- Takes an option with what is attached to it, or with words from the parts that follow. An option
of one letter that takes no word may be followed by the letters of others; from the first letter on
that is no option, the rest is left over. The result says how many parts behind the option were
taken. Each turn takes a letter of what is attached. -/
def takeOption (u : Usage) : Nat → Flag → Text → Attached → List (Text × Part) →
    Reading → List (Flag × List Text) → Except Stop (Nat × Reading)
  | 0, _, _, _, _, r, _ => .ok (0, r)
  | fuel + 1, f, spelling, attached, behind, r, queue =>
    let fail (fault : WordFault) : Except Stop (Nat × Reading) :=
      .error (.fault u.program (.words f.name fault))
    let finish (words : List Text) (taken : Nat) (r : Reading) :
        Except Stop (Nat × Reading) := do
      let r ← (queue ++ [(f, words)]).foldlM (fun r (f, words) => r.takeFlag u f words) r
      return (taken, r)
    match f.arity, attached with
    | .none, .nothing => finish [] 0 r
    | .none, .behindEquals e => fail (.ignored e)
    | .none, .tail e =>
      match e with
      | [] => fail (.ignored e)
      | c :: rest =>
        if c == '-' || ("--" : Text).isPrefixOf spelling then fail (.ignored e)
        else
          let next : Text := ['-', c]
          match u.spellings.lookup next with
          | some g => takeOption u fuel g next (tailOf rest) behind r (queue ++ [(f, [])])
          | none =>
            finish [] 0 { r with found := { r.found with left := r.found.left ++ ["-" ++ e] } }
    | _, .behindEquals e => finish [e] 0 r
    | _, .tail e => finish [e] 0 r
    | .several, .nothing =>
      let words := (behind.takeWhile (·.2.isWord)).map (·.1)
      if words.isEmpty then fail .wantsSeveral else finish words words.length r
    | _, .nothing =>
      let words := (behind.takeWhile (·.2.isWord)).map (·.1)
      if words.isEmpty then fail .wantsOne else finish (words.take 1) 1 r

/-- Reads the parts of a command line. Each turn takes at least one part. -/
def run (u : Usage) (below : Below) : Nat → List (Text × Part) → Reading → Except Stop Reading
  | 0, _, r => .ok r
  | fuel + 1, parts, r => do
    if !parts.any (·.2.isFlag) then
      let (taken, r) ← r.takePositions u below parts
      return { r with found := { r.found with
        left := r.found.left ++ (parts.drop taken).map (·.1) } }
    else
      match parts with
      | [] => return r
      | (s, .strange) :: more =>
        run u below fuel more { r with found := { r.found with left := r.found.left ++ [s] } }
      | (s, .flag f spelling attached) :: more =>
        let (taken, r) ← takeOption u (s.length + 1) f spelling attached more r []
        run u below fuel (more.drop taken) r
      | _ =>
        let (taken, r) ← r.takePositions u below parts
        if 0 < taken then run u below fuel (parts.drop taken) r
        else
          let extra := parts.takeWhile (!·.2.isFlag)
          run u below fuel (parts.drop extra.length)
            { r with found := { r.found with left := r.found.left ++ extra.map (·.1) } }

end Reading

/-- Reads a command line; what is not known is left over. -/
def Usage.read (u : Usage) (below : Below) (words : List Text) : Except Stop Matches := do
  let parts ← (u.parts words).mapError (.fault u.program)
  let r ← Reading.run u below (words.length + 1) parts { positions := u.positions }
  let missing := u.positions.filter fun p => p.arity = .one && !r.seen.contains p.key
  if !missing.isEmpty then throw (.fault u.program (.missing (missing.map (·.key))))
  return { r.found with left := r.found.left ++ r.below }

/-- A command without commands below it. -/
def noneBelow : Below := fun _ _ => .ok {}

/-- Reads a whole command line: nothing may be left over. -/
def Usage.readAll (u : Usage) (below : Below) (words : List Text) : Except Stop Matches := do
  let m ← u.read below words
  if !m.left.isEmpty then throw (.fault u.program (.unknown m.left))
  return m

end Readiness.Command
