import Readiness.Json.Read
import Readiness.Schema.Basic

/-!
# Bodies of requests

What a request must bring along: an object with certain fields. Everything that is wrong with a body
is found at once and listed in the order of the fields; fields that nobody asked for are ignored.
-/

namespace Readiness.Service

/-- What can be wrong with a part of a body. -/
inductive BodyProblem where
  | missing
  | notString
  /-- A string with code points that are no characters. -/
  | notText
  | notList
  | notObject
  | notJson
deriving DecidableEq

/-- The name of a problem. -/
def BodyProblem.name : BodyProblem → Text
  | .missing => "missing"
  | .notString => "string_type"
  | .notText => "string_unicode"
  | .notList => "list_type"
  | .notObject => "model_attributes_type"
  | .notJson => "json_invalid"

/-- A problem and its place: the way into the body, or the offset at which a body stops being
JSON. -/
structure BodyFault where
  problem : BodyProblem
  place : List PathStep

/-- Why a body is not taken. -/
inductive BodyRejection where
  /-- It is not what was asked for. -/
  | faults (l : List BodyFault)
  /-- It could not be read to its end. -/
  | unreadable

/-- What comes with a request. -/
inductive Body where
  | absent
  | value (v : Json)
  | text (t : Text)

/-- The value of a body, if it has one. -/
def Body.read : Body → Except BodyRejection (Option Json)
  | .absent => .ok none
  | .value v => .ok (if v.isNull then none else some v)
  | .text [] => .ok none
  | .text t =>
    let t := if t.head? == some '\ufeff' then t.drop 1 else t
    match Json.read t with
    | .ok v => .ok (if v.isNull then none else some v)
    | .error e =>
      .error (if e.fault.isPlaceless then .unreadable else .faults [⟨.notJson, [.item e.offset]⟩])

/-- What a field must be. -/
inductive FieldKind where
  /-- A string that must be there. -/
  | text
  /-- A string that may be left out. -/
  | defaultText
  /-- A string or nothing. -/
  | maybeText
  /-- A list of strings or nothing. -/
  | maybeTexts

/-- What is wrong with a string at a place. -/
def stringFaults (place : List PathStep) : Json → List BodyFault
  | .str s => if s.any CodePoint.isSurrogate then [⟨.notText, place⟩] else []
  | _ => [⟨.notString, place⟩]

/-- What is wrong with the items of a list, from the given number on. -/
def itemFaults (place : List PathStep) : Nat → List Json → List BodyFault
  | _, [] => []
  | n, v :: more => stringFaults (place ++ [.item n]) v ++ itemFaults place (n + 1) more

/-- What is wrong with a field. -/
def fieldFaults (name : Text) (kind : FieldKind) (value : Option Json) : List BodyFault :=
  let place := [PathStep.field name]
  match kind, value with
  | .text, none => [⟨.missing, place⟩]
  | .text, some v => stringFaults place v
  | .defaultText, some v => stringFaults place v
  | .maybeText, some v => if v.isNull then [] else stringFaults place v
  | .maybeTexts, some (.arr items) => itemFaults place 0 items
  | .maybeTexts, some v => if v.isNull then [] else [⟨.notList, place⟩]
  | _, none => []

/-- The fields of a body that has what is asked for. -/
def Body.fields (b : Body) (wanted : List (Text × FieldKind)) :
    Except BodyRejection (List (Text × Json)) :=
  match b.read with
  | .error r => .error r
  | .ok none => .error (.faults [⟨.missing, []⟩])
  | .ok (some (.obj fields)) =>
    match wanted.flatMap fun (name, kind) => fieldFaults name kind (fields.lookup name) with
    | [] => .ok fields
    | faults => .error (.faults faults)
  | .ok (some _) => .error (.faults [⟨.notObject, []⟩])

end Readiness.Service
