import Readiness.Breakdown
import Readiness.Digest.Sha256
import Readiness.Text.Blank
import Readiness.Text.Pattern

/-!
# Credentials

How a text and the name it is bound to are judged: whether the text has the shape of a credential,
looks random, stands in for a credential that is not there, or carries a password in a connection
string; and whether the name is one that secrets go by.
-/

namespace Readiness.Credential

/-- The digits. -/
def isDigit (c : CodePoint) : Bool := '0' ≤ c && c ≤ '9'

/-- The small ASCII letters. -/
def isSmall (c : CodePoint) : Bool := 'a' ≤ c && c ≤ 'z'

/-- The ASCII capitals. -/
def isCapital (c : CodePoint) : Bool := 'A' ≤ c && c ≤ 'Z'

/-- The digits and the ASCII letters. -/
def isAlnum (c : CodePoint) : Bool := isDigit c || isSmall c || isCapital c

/-- The characters of web-safe tokens. -/
def isTokenChar (c : CodePoint) : Bool := isAlnum c || c == '_' || c == '-'

/-! ## Names -/

/-- The words that secrets go by; the parts of one may be joined by an underscore or a hyphen. -/
def secretWords : List (List Text) := [
  ["api", "key"], ["access", "key"], ["secret"], ["passwd"], ["password"], ["pwd"], ["token"],
  ["bearer"], ["private", "key"], ["priv", "key"], ["credential"], ["auth", "key"], ["db", "pass"]]

/-- The last words of names that describe a secret rather than hold one. -/
def descriptiveEndings : List Text := [
  "url", "uri", "endpoint", "path", "field", "label", "name", "type", "header", "length", "count",
  "regex", "pattern", "prefix", "message", "msg", "placeholder", "hint", "policy"]

/-- The words one behind the other, with an underscore or a hyphen between them or nothing. -/
def joinedWords : List Text → Pattern
  | [] => .nothing
  | [w] => .text w
  | w :: more => .seq (.text w) (.seq (.atMost 1 fun c => c == '_' || c == '-') (joinedWords more))

/-- Whether a name mentions a secret. -/
def mentionsSecret (name : Text) : Bool :=
  (Pattern.choice (secretWords.map joinedWords)).occursIn (Text.fold name)

/-- Whether a name ends like one that describes. -/
def isDescriptive (name : Text) : Bool :=
  (Pattern.seq (.words descriptiveEndings) .atEnd).occursIn (Text.fold name)

/-- Whether a name is one that secrets go by. -/
def isSecretName (name : Option Text) : Bool :=
  match name with
  | none => false
  | some n => !n.isEmpty && mentionsSecret n && !isDescriptive n

/-! ## Shapes -/

/-- The shapes of known credentials at the start of a text, with their labels. -/
def leadingShapes : List (Pattern × Text) := [
  (.seq (.text "sk_live_") (.atLeast 4 isAlnum), "Stripe production API key"),
  (.seq (.text "sk_test_") (.atLeast 4 isAlnum), "Stripe test API key"),
  (.chain [.text "rk_", .words ["live", "test"], .text "_", .atLeast 4 isAlnum],
    "Stripe restricted key"),
  (.chain [.text "gh", .one fun c => ("pousr" : Text).contains c, .text "_", .atLeast 4 isAlnum],
    "GitHub token"),
  (.seq (.text "github_pat_") (.atLeast 20 fun c => isAlnum c || c == '_'), "GitHub token")]

/-- The shape of a known credential anywhere in a text. -/
def slackToken : Pattern :=
  .chain [.text "xox", .one fun c => ("baprs" : Text).contains c, .text "-",
    .atLeast 8 fun c => isAlnum c || c == '-']

/-- The first line of a private key. -/
def privateKeyHead : Pattern :=
  .chain [.text "-----BEGIN ", .many (.seq (.atLeast 1 isCapital) (.text " ")),
    .text "PRIVATE KEY-----"]

/-- The shapes of known credentials that fill a whole text, with their labels. -/
def wholeShapes : List (Pattern × Text) := [
  (.chain [.text "AIza", .exactly 35 isTokenChar, .atEnd], "Google API key"),
  (.chain [.text "SG.", .atLeast 16 isTokenChar, .text ".", .atLeast 16 isTokenChar, .atEnd],
    "SendGrid API key"),
  (.chain [.text "eyJ", .atLeast 10 isTokenChar, .text ".", .atLeast 10 isTokenChar, .text ".",
    .atLeast 10 isTokenChar, .atEnd], "JSON Web Token")]

/-- An access key of a cloud account. -/
def cloudKey : Pattern :=
  .chain [.words ["AKIA", "ASIA"], .exactly 16 fun c => isDigit c || isCapital c, .atEnd]

/-- The label of the known credential that a text has the shape of. -/
def shape? (value : Text) : Option Text :=
  let leading := leadingShapes.find? fun s => s.1.startsText value
  match leading with
  | some s => some s.2
  | none =>
    if slackToken.occursIn value then some "Slack token"
    else if cloudKey.startsText value then some "AWS access key"
    else if privateKeyHead.occursIn value then some "private key"
    else (wholeShapes.find? fun s => s.1.startsText value).map (·.2)

/-! ## Connection strings -/

/-- The user and the password that a connection string carries. -/
structure Connection where
  user : Text
  password : Text

/-- The characters of a scheme behind its first letter. -/
def isSchemeChar (c : CodePoint) : Bool :=
  isSmall (Text.foldChar c) || isDigit c || c == '+' || c == '.' || c == '-'

/-- What follows the scheme and the slashes that a text starts with. -/
def afterScheme? : Text → Option Text
  | [] => none
  | c :: r =>
    if isSmall (Text.foldChar c) then
      match r.dropWhile isSchemeChar with
      | .char ':' :: .char '/' :: .char '/' :: rest => some rest
      | _ => none
    else none

/-- The connection string that a text starts with: a scheme, a user, a colon, a password and an at
sign. -/
def connection? (value : Text) : Option Connection := do
  let rest ← afterScheme? value
  let isUserChar (c : CodePoint) : Bool := !(c == ':' || c == '/' || c == '@' || isBlank c)
  let user := rest.takeWhile isUserChar
  match rest.dropWhile isUserChar with
  | .char ':' :: more =>
    let isPasswordChar (c : CodePoint) : Bool := !(c == '@' || isBlank c)
    let password := more.takeWhile isPasswordChar
    match password, more.dropWhile isPasswordChar with
    | _ :: _, .char '@' :: _ => some ⟨user, password⟩
    | _, _ => none
  | _ => none

/-! ## Placeholders -/

/-- The character is not the given one. -/
def isNot (d : CodePoint) (c : CodePoint) : Bool := c != d

/-- What stands in the place of a credential, in small letters. -/
def placeholderPatterns : List Pattern := [
  .chain [.text "your", .atLeast 0 (isNot '\n'), .text "here"],
  .chain [.text "replace", .atMost 1 fun c => c == '_' || c == '-', .words ["with", "me"]],
  .chain [.text "<", .atLeast 0 (isNot '>'), .text ">"],
  .text "xxx", .text "***", .text "placeholder", .text "example", .text "changeme",
  .text "change_me", .text "change-me", .text "dummy",
  .chain [.text "$\x7b", .atLeast 0 (isNot '}'), .text "\x7d"],
  .chain [.text "%(", .atLeast 0 (isNot ')'), .text ")s"],
  .chain [.text "\x7b\x7b", .atLeast 0 (isNot '}'), .text "\x7d\x7d"]]

/-- The words that are placeholders if they are the whole text. -/
def placeholderWords : List Text := ["password", "secret", "token", "test"]

/-- Whether a text stands in for a credential that is not there. -/
def isPlaceholder (value : Text) : Bool :=
  let folded := Text.fold value
  placeholderPatterns.any (·.occursIn folded) ||
    (Pattern.seq (.words placeholderWords) .atEnd).startsText folded

/-! ## Randomness -/

/-- How often each character occurs, in order of first occurrence. -/
def counts (value : Text) : List Nat :=
  value.eraseDups.map fun c => value.count c

/-- The Shannon entropy of the characters of a text, in bits. -/
def entropy (value : Text) : Float :=
  if value.isEmpty then 0
  else
    let total := Float.ofNat value.length
    Float.neg <| (counts value).foldl (fun sum n =>
      let share := Float.ofNat n / total
      sum + share * Float.log2 share) 0

/-- From what entropy on a text looks random. -/
def leastEntropy : Float := 3.5

/-- How long a text is at least that looks random. -/
def leastRandomLength : Nat := 20

/-- Five groups of hexadecimal digits. -/
def uuid : Pattern :=
  let hex (c : CodePoint) : Bool := isDigit c || ('a' ≤ c && c ≤ 'f')
  .chain [.exactly 8 hex, .text "-", .exactly 4 hex, .text "-", .exactly 4 hex, .text "-",
    .exactly 4 hex, .text "-", .exactly 12 hex, .atEnd]

/-- Whether a text starts like an address or a path. -/
def isAddress (value : Text) : Bool :=
  (afterScheme? value).isSome || (Pattern.words ["/", "./", "../", "~/"]).startsText value

/-- At least thirty-two characters of base 64, with padding. -/
def base64 : Pattern :=
  .chain [.atLeast 32 fun c => isAlnum c || c == '+' || c == '/', .atMost 2 (· == '='), .atEnd]

/-- Whether a text looks random: long, without blanks, with a digit, and either in base 64 or of
mixed case and high entropy. -/
def looksRandom (value : Text) : Bool :=
  if value.length < leastRandomLength || value.any isBlank then false
  else if uuid.startsText (Text.fold value) || isAddress value then false
  else if !value.any isDigit then false
  else if base64.startsText value && value.any (fun c => isSmall c || isCapital c) then true
  else value.any isSmall && value.any isCapital && leastEntropy ≤ entropy value

/-! ## Judgement -/

/-- What to call a secret of the given name and value. -/
def label (name : Option Text) (value : Text) : Text :=
  match shape? value with
  | some s => s
  | none =>
    let has (w : Text) : Bool := Text.occursIn w (Text.lower (name.getD ""))
    if has "api" && has "key" then "API key"
    else if has "pass" || has "pwd" then "password"
    else if has "token" then "token"
    else if has "private" && has "key" then "private key"
    else "secret"

/-- What a text bound to a name is found to be. -/
inductive Finding where
  | connectionPassword
  | secret (label : Text)
deriving DecidableEq

/-- The word for a finding. -/
def Finding.label : Finding → Text
  | .connectionPassword => "connection"
  | .secret l => l

/-- How long a secret is at least. -/
def leastLength : Nat := 6

/-- Judges a text bound to a name. Public keys and short texts are nothing; a connection string is
judged by its password alone. -/
def classify (value : Text) (name : Option Text) : Option Finding :=
  if value.length < leastLength || ("pk_" : Text).isPrefixOf value then none
  else
    match connection? value with
    | some c => if isPlaceholder c.password then none else some .connectionPassword
    | none =>
      if isPlaceholder value then none
      else
        match shape? value with
        | some s => some (.secret s)
        | none =>
          if looksRandom value ||
              (isSecretName name && !value.any isBlank && !isAddress value) then
            some (.secret (label name value))
          else none

/-- Whether a secret is one of a production environment. -/
def isProduction (value : Text) (name : Option Text) : Bool :=
  (Text.mentions ["PRIVATE KEY"] value && Text.mentions ["BEGIN"] value) ||
    Text.mentionsAnyCase ["live", "prod"] value ||
    Text.mentionsAnyCase ["live", "prod"] (name.getD "")

/-- A short hash that tells a text from others without showing it. -/
def digest (value : Text) : Except Breakdown Text :=
  match Text.encodingFault? value with
  | some fault => .error (.unencodable fault)
  | none => .ok ((Text.sha256 value).take 16)

end Readiness.Credential
