import Readiness.Json.Shown

/-!
# Schemas

A schema is a list of demands on a value. Checking a value collects every demand that it fails,
each with the place in the value and the words for it.
-/

namespace Readiness

/-- The kinds of values. -/
inductive ValueKind where
  | null
  | boolean
  | integer
  | string
  | array
  | object
deriving DecidableEq

/-- The word for a kind of values. -/
def ValueKind.name : ValueKind → Text
  | .null => "null"
  | .boolean => "boolean"
  | .integer => "integer"
  | .string => "string"
  | .array => "array"
  | .object => "object"

/-- Whether a value is of a kind. A double without a fraction is an integer too. -/
def Json.hasKind (v : Json) : ValueKind → Bool
  | .null => v.isNull
  | .boolean => match v with
    | .bool _ => true
    | _ => false
  | .integer => match v with
    | .int _ => true
    | .float x => !x.isNaN && !x.isInf && (Decimal.magnitude x).whole?.isSome
    | _ => false
  | .string => v.str?.isSome
  | .array => v.arr?.isSome
  | .object => v.obj?.isSome

mutual

/-- A list of demands. -/
inductive Schema where
  | all (demands : List Demand)

/-- A demand on a value. A demand on values of one kind is met by all others. -/
inductive Demand where
  /-- The value is of one of the kinds. -/
  | kind (kinds : List ValueKind)
  /-- The object has the fields. -/
  | required (names : List Text)
  /-- The object has no fields but those that the schema names. -/
  | noOtherFields
  /-- The fields that the schema does not name meet another one. -/
  | otherFields (schema : Schema)
  /-- The fields meet their schemas, where the object has them. -/
  | fields (schemas : List (Text × Schema))
  /-- The names of the fields meet the schema. -/
  | fieldNames (schema : Schema)
  /-- The items of the array meet the schema. -/
  | items (schema : Schema)
  /-- The value is one of the words. -/
  | oneOfWords (words : List Text)
  /-- The value is the given boolean. -/
  | isBoolean (value : Bool)
  /-- The number is at least the given one. -/
  | atLeast (bound : Int)
  /-- The number is at most the given one. -/
  | atMost (bound : Int)
  /-- The string has at least one character. -/
  | nonEmpty
  /-- The value meets one of the schemas. -/
  | oneOf (schemas : List Schema)
  /-- If the value meets the first schema, it meets the second. -/
  | ifThen (condition consequence : Schema)

end

/-- A step from a value into it. -/
inductive PathStep where
  | field (name : Text)
  | item (number : Nat)
deriving DecidableEq

namespace Schema

/-- A demand that a value fails. -/
inductive Failing where
  /-- `weak` marks a choice between schemas, `kindFits` that the value at fault is of the kind that
  its schema asks for; `causes` are the failures under the choices. -/
  | mk (path : List PathStep) (message : Text) (weak kindFits : Bool) (causes : List Failing)

instance : Inhabited Failing := ⟨.mk [] "" false false []⟩

namespace Failing

/-- The place of the value at fault. -/
def path : Failing → List PathStep
  | mk p _ _ _ _ => p

/-- The words for the failure. -/
def message : Failing → Text
  | mk _ m _ _ _ => m

/-- Whether the failure is that of a choice. -/
def weak : Failing → Bool
  | mk _ _ w _ _ => w

/-- Whether the value is of the kind that its schema asks for. -/
def kindFits : Failing → Bool
  | mk _ _ _ k _ => k

/-- The failures under the choices. -/
def causes : Failing → List Failing
  | mk _ _ _ _ cs => cs

/-- The failure of a value that lies one step inside another one. -/
def inside (s : PathStep) : Failing → Failing
  | mk p m w k cs => mk (s :: p) m w k cs

end Failing

/-- The kinds that a list of demands asks for. -/
def kinds? (demands : List Demand) : Option (List ValueKind) :=
  demands.findSome? fun d =>
    match d with
    | .kind ks => some ks
    | _ => none

/-- The fields that a list of demands names. -/
def namedFields (demands : List Demand) : List Text :=
  demands.flatMap fun d =>
    match d with
    | .fields l => l.map (·.1)
    | _ => []

/-- The number that a value is, as a double if it is one. -/
def compareNumber (v : Json) (bound : Int) : Option Ordering :=
  match v with
  | .int n => some (compare n bound)
  | .float x =>
    let b := Float.ofInt bound
    if x < b then some .lt else if b < x then some .gt else some .eq
  | _ => none

/-- Names in quotes, joined by commas. -/
def listed (names : List Text) : Text := Text.join ", " (names.map quoted)

/-- The words for fields that should not be there. -/
def unexpected (names : List Text) : Text :=
  "Additional properties are not allowed (" ++ listed names ++
    (if names.length = 1 then " was" else " were") ++ " unexpected)"

mutual

/-- The failures of a value. -/
def failures (v : Json) : Schema → List Failing
  | .all demands =>
    let kindFits := ((kinds? demands).map fun ks => ks.any v.hasKind).getD false
    failuresOf v (namedFields demands) kindFits demands

/-- The failures of a value in a list of demands, where the whole list names the given fields. -/
def failuresOf (v : Json) (named : List Text) (kindFits : Bool) : List Demand → List Failing
  | [] => []
  | d :: more => failuresAt v named kindFits d ++ failuresOf v named kindFits more

/-- The failures of a value in one demand. -/
def failuresAt (v : Json) (named : List Text) (kindFits : Bool) : Demand → List Failing
  | .kind ks =>
    if ks.any v.hasKind then []
    else [.mk [] (v.shown ++ " is not of type " ++ listed (ks.map (·.name))) false kindFits []]
  | .required names =>
    match v with
    | .obj fields =>
      (names.filter fun n => (fields.lookup n).isNone).map fun n =>
        .mk [] (quoted n ++ " is a required property") false kindFits []
    | _ => []
  | .noOtherFields =>
    match v with
    | .obj fields =>
      match (fields.map (·.1)).filter fun n => !named.contains n with
      | [] => []
      | extras =>
        [.mk [] (unexpected (extras.mergeSort fun a b => decide (a ≤ b))) false kindFits []]
    | _ => []
  | .otherFields s =>
    match v with
    | .obj fields =>
      (fields.filter fun f => !named.contains f.1).flatMap fun (n, w) =>
        (failures w s).map (Failing.inside (.field n))
    | _ => []
  | .fields schemas =>
    match v with
    | .obj fields => fieldFailures fields schemas
    | _ => []
  | .fieldNames s =>
    match v with
    | .obj fields => fields.flatMap fun (n, _) => failures (.str n) s
    | _ => []
  | .items s =>
    match v with
    | .arr l => l.zipIdx.flatMap fun (w, i) => (failures w s).map (Failing.inside (.item i))
    | _ => []
  | .oneOfWords words =>
    if words.any fun w => v.str? == some w then []
    else [.mk [] (v.shown ++ " is not one of [" ++ listed words ++ "]") false kindFits []]
  | .isBoolean b =>
    match v with
    | .bool c =>
      if b = c then [] else [.mk [] ((Json.bool b).shown ++ " was expected") false kindFits []]
    | _ => [.mk [] ((Json.bool b).shown ++ " was expected") false kindFits []]
  | .atLeast bound =>
    if compareNumber v bound == some .lt then
      [.mk [] (v.shown ++ " is less than the minimum of " ++ toString bound) false kindFits []]
    else []
  | .atMost bound =>
    if compareNumber v bound == some .gt then
      [.mk [] (v.shown ++ " is greater than the maximum of " ++ toString bound) false kindFits []]
    else []
  | .nonEmpty =>
    if v.str? == some "" then [.mk [] (v.shown ++ " should be non-empty") false kindFits []]
    else []
  | .oneOf schemas =>
    match choiceFailures v schemas with
    | none => []
    | some causes =>
      [.mk [] (v.shown ++ " is not valid under any of the given schemas") true kindFits causes]
  | .ifThen condition consequence =>
    if (failures v condition).isEmpty then failures v consequence else []

/-- The failures of the fields that an object has. -/
def fieldFailures (fields : List (Text × Json)) : List (Text × Schema) → List Failing
  | [] => []
  | (n, s) :: more =>
    (match fields.lookup n with
      | some w => (failures w s).map (Failing.inside (.field n))
      | none => []) ++ fieldFailures fields more

/-- The failures of a value in every one of the schemas, if it meets none of them. -/
def choiceFailures (v : Json) : List Schema → Option (List Failing)
  | [] => some []
  | s :: more =>
    match failures v s with
    | [] => none
    | found => (choiceFailures v more).map (found ++ ·)

end

end Schema

end Readiness
