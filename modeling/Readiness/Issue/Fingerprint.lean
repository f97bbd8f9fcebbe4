import Readiness.Breakdown
import Readiness.Digest.Sha256
import Readiness.Issue.Basic
import Readiness.Text.Blank

/-!
# Fingerprints

A fingerprint tells an issue from others across scans: the hash of its kind, file, line and a piece
of text. A text with surrogates in it cannot be hashed.
-/

namespace Readiness

/-- The text that a fingerprint is the hash of. -/
def fingerprintPayload (type file : Text) (line : Int) (snippet : Text) : Text :=
  let file := file.map fun (c : CodePoint) => if c == '\\' then .char '/' else c
  Text.join "|" [type, file, toString line, Text.trim snippet]

/-- The fingerprint of an issue, if what it is made of can be encoded. -/
def fingerprint (type file : Text) (line : Int) (snippet : Text) :
    Except Breakdown Text :=
  let payload := fingerprintPayload type file line snippet
  match Text.encodingFault? payload with
  | some fault => .error (.unencodable fault)
  | none => .ok ("sha256:" ++ Text.sha256 payload)

/-- The id of an issue until the issues of all files are numbered. -/
def provisionalId (type file : Text) (line : Int) (column : Option Int) : Text :=
  type ++ ":" ++ file ++ ":" ++ toString line ++ ":" ++ toString (column.getD 0)

end Readiness
