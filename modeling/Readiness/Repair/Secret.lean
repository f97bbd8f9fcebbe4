import Readiness.Detect.Secret
import Readiness.Repair.Engine

/-!
# Repairing secrets

A secret in the source gives way to a read of an environment variable. The variable is named for
the provider whose call or object the secret stands in, else for what the secret is bound to.
-/

namespace Readiness.Secret

open Script Repair

/-! ## Names of variables -/

/-- The name with an underscore where one word ends and the next begins: between a small letter or
digit and a capital, and before the last capital of a run that a small letter follows. Words that
share a character are not both parted. -/
def separated (name : Text) : Text := go name.length name
where
  /-- Each turn takes at least one character, so as many turns as characters are enough. -/
  go : Nat → Text → Text
    | 0, t => t
    | _, [] => []
    | n + 1, c :: r =>
      let capitals := (c :: r).takeWhile Credential.isCapital
      match r, (c :: r).dropWhile Credential.isCapital with
      | d :: more, rest =>
        if (Credential.isSmall c || Credential.isDigit c) && Credential.isCapital d then
          c :: '_' :: d :: go n more
        else
          match rest with
          | e :: behind =>
            if 2 ≤ capitals.length && Credential.isSmall e then
              capitals.dropLast ++ "_" ++ capitals.drop (capitals.length - 1) ++ e :: go n behind
            else c :: go n r
          | [] => c :: go n r
      | [], _ => [c]

/-- Whether a character may stand in the name of an environment variable. -/
def isVariableChar (c : CodePoint) : Bool :=
  Credential.isCapital c || Credential.isDigit c || c == '_'

/-- The name of the environment variable for what a program calls `name`. -/
def variableName (name : Text) : Text :=
  let t := (Text.upper (separated name)).map fun c => if isVariableChar c then c else '_'
  match t with
  | c :: _ => if Credential.isCapital c then t else "SECRET_" ++ t
  | [] => "SECRET_"

/-- The variable that a provider's users keep its secret in, by the label of a call in small
letters, the number of the argument and the key of the property. -/
def providerName? (label : Text) (index : Option Nat) (key : Option Text) : Option Text :=
  if Text.occursIn "stripe" label then some "STRIPE_SECRET_KEY"
  else if Text.occursIn "aws" label then
    match key with
    | some k =>
      some (if Text.occursIn "secret" (Text.lower k) then "AWS_SECRET_ACCESS_KEY" else "AWS_ACCESS_KEY_ID")
    | none => some (if index = some 0 then "AWS_ACCESS_KEY_ID" else "AWS_SECRET_ACCESS_KEY")
  else if Text.occursIn "jwt" label then some "JWT_SECRET"
  else none

/-! ## Surroundings -/

/-- The functions that connect to a database. -/
def databaseFactories : List Text :=
  ["createConnection", "createPool", "createClient", "connect", "Pool", "Client", "Sequelize",
    "knex"]

/-- The keys of an object that configures a database. -/
def databaseKeys : List Text := ["host", "database", "user", "username"]

/-- A name for a call in small letters: the module that `require('x')(…)` loads, the path of what is
called, or its last name. -/
def callLabel (call : Node) : Text :=
  let module? := do
    let callee ← call.field? .callee
    let required ← callee.field? .callee
    let first ← callee.arguments.head?
    let value ← first.string?
    if callee.isCall && required.isNamed "require" then some value else none
  Text.lower <| match module?, (call.field? .callee).bind Node.path? with
    | some m, _ => m
    | none, some p => p
    | none, none => call.calleeName?.getD ""

/-- Whether a label in small letters has `db` or `database` as a word of its own. -/
def isDatabaseLabel (label : Text) : Bool :=
  let isWordChar (c : CodePoint) : Bool := Credential.isSmall c || Credential.isDigit c
  let word := Pattern.seq (.words ["db", "database"])
    (.either .atEnd (.one fun c => !isWordChar c))
  let t := label
  word.startsText t || (Pattern.seq (.one fun c => !isWordChar c) word).occursIn t

/-- Whether a call is one of the functions that connect to a database. -/
def isDatabaseFactory (call : Node) : Bool := (call.calleeName?).any databaseFactories.contains

/-- The call that a place is a part of. -/
def callAround? (p : Place) : Option Node :=
  p.parent?.bind fun q => if q.node.isInvocation then some q.node else none

/-- Whether an object configures a database, by its keys or the call it is given to. -/
def isDatabaseObject (p : Place) : Except Breakdown Bool := do
  let keys ← (p.node.fields .property).mapM fun c =>
    match c.kind with
    | .property _ => c.keyName?
    | _ => .ok none
  return keys.any (fun k => k.any databaseKeys.contains) || (callAround? p).any isDatabaseFactory

/-- The number of the argument of a call that an offset lies in. -/
def argumentNumber? (call : Node) (offset : Nat) : Option Nat :=
  call.arguments.findIdx? fun a => decide (a.start ≤ offset ∧ offset < a.stop)

/-- Whether a key is that of a password. -/
def isPasswordKey (key : Text) : Bool := Text.mentionsAnyCase ["pass", "pwd"] key

/-! ## The variable for a literal -/

/-- The variable that what a literal is an argument of calls for. -/
def argumentVariable? (p : Place) (value : Text) (holder : Node) : Option Text :=
  match providerName? (callLabel holder) (argumentNumber? holder p.node.start) none with
  | some name => some name
  | none =>
    if isDatabaseFactory holder || isDatabaseLabel (callLabel holder) then
      some (if (Credential.connection? value).isSome then "DATABASE_URL" else "DATABASE_PASSWORD")
    else none

/-- The object that a property is part of. -/
def objectAround? (holder : Place) : Option Place :=
  holder.parent?.bind fun q =>
    match q.kind with
    | .objectExpression => some q
    | _ => none

/-- The variable that the object around a property calls for. -/
def propertyVariable? (holder : Place) (key : Option Text) : Except Breakdown (Option Text) := do
  match objectAround? holder with
  | none => return none
  | some object =>
    match (callAround? object).bind fun c => providerName? (callLabel c) none key with
    | some name => return some name
    | none =>
      if !key.any isPasswordKey then return none
      return if ← isDatabaseObject object then some "DATABASE_PASSWORD" else none

/-- The variable that what a literal goes to calls for. -/
def surroundingVariable? (p : Place) (value : Text) (d : Destination) :
    Except Breakdown (Option Text) :=
  match d.receiver, d.holder with
  | .argument, some h => .ok (argumentVariable? p value h.node)
  | .property, some h => propertyVariable? h d.name
  | _, _ => .ok none

/-- Whether a value that is received so is named by its receiver. -/
def isNamedBy : Receiver → Bool
  | .declarator | .property | .assignment | .attribute => true
  | .argument | .other => false

/-- The name for a secret that nothing else names. -/
def fallbackName : Text := "API_SECRET"

/-- The environment variable that is to hold the value of a literal. -/
def environmentVariable (p : Place) (value : Text) : Except Breakdown Text := do
  let d ← p.destination
  let name := d.name.filter fun n => !n.isEmpty
  match ← surroundingVariable? p value d, name with
  | some v, _ => return v
  | none, none =>
    return if (Credential.connection? value).isSome then "DATABASE_URL" else byValue
  | none, some n => return if isNamedBy d.receiver then variableName n else byValue
where
  /-- Whether the value starts with a word. -/
  startsWith (w : Text) : Bool := w.isPrefixOf value
  /-- The name that the value itself calls for. -/
  byValue : Text :=
    if startsWith "sk_" || startsWith "rk_" then "STRIPE_SECRET_KEY"
    else if startsWith "AKIA" || startsWith "ASIA" then "AWS_ACCESS_KEY_ID"
    else fallbackName

/-! ## The proposal -/

/-- The read of an environment variable that a literal is the fallback of, and the whole
expression. -/
def environmentRead? (p : Place) : Option (Node × Node) :=
  match p.above with
  | s :: _ =>
    match s.parent.kind, s.role, s.parent.field? .left with
    | .logical operator, .right, some left =>
      if (operator == "||" || operator == "??") && left.isMember &&
          ((left.field? .memberObject).map Node.isEnvironment).getD false then
        some (left, s.parent)
      else none
    | _, _, _ => none
  | [] => none

/-- The literals that are values, with their values. -/
def literals (s : Script) : List (Place × Text) :=
  s.places.filterMap fun p =>
    match p.node.string? with
    | some v => if isValue p then some (p, v) else none
    | none => none

/-- The literal of an issue: the nearest one with the noted digest, else the nearest one. -/
def locate (s : Script) (i : Issue) : Except Fault (Option Place) := do
  let all := literals s
  let nearestOf (l : List (Place × Text)) : Option Place :=
    nearest? (l.map (·.1)) i.line i.column
  match (i.fact? "value_digest").filter Json.isTrue with
  | none => return nearestOf all
  | some noted =>
    let matching ← all.filterM fun (_, v) => do
      let digest ← (Credential.digest v).mapError Fault.breakdown
      return noted.str? == some digest
    return (nearestOf matching).or (nearestOf all)

/-- Whether a place is the value of a markup attribute. -/
def isAttributeValue (p : Place) : Bool :=
  match p.above with
  | s :: _ =>
    match s.parent.kind with
    | .tagAttribute => true
    | _ => false
  | [] => false

/-- The range to be replaced for a literal, the text in its place, and the variable that is read. -/
def replacementFor (s : Script) (p : Place) : Except Breakdown (Node × Text × Text) := do
  match environmentRead? p with
  | some (read, whole) =>
    let source := s.textOf read
    let name := (read.propertyName?.filter fun n => !n.isEmpty).getD source
    return (whole, source, name)
  | none =>
    let name ← environmentVariable p (p.node.string?.getD [])
    let read : Text := "process.env." ++ name
    return (p.node, if isAttributeValue p then "\x7b" ++ read ++ "\x7d" else read, name)

/-- Proposes a read of the environment for the literal of an issue. -/
def propose (s : Script) (i : Issue) : Except Fault Proposal := do
  let some p ← locate s i
    | throw (.declined ("no string literal found near line " ++ toString i.line))
  let (n, source, name) ← (replacementFor s p).mapError .breakdown
  let edit ← (Edit.ofRange n.start n.stop source).mapError .badRange
  return {
    edits := [edit]
    explanation :=
      "Moved hardcoded secret to environment variable " ++ name ++ ". Set " ++ name ++
        " in your environment (e.g. a .env file that is not committed)." }

/-- Repairs secrets in the source; those inside a template have no literal to replace. -/
def fixer : Fixer Script where
  id := "hardcoded-secrets-fixer"
  types := [IssueType.hardcodedSecret]
  canFix i :=
    i.type == IssueType.hardcodedSecret && (i.fact? "node_kind").bind Json.str? != some "template"
  propose := propose

end Readiness.Secret
