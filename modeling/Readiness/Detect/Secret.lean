import Readiness.Detect.Basic
import Readiness.Detect.Credential

/-!
# Secrets in the source

A string literal is at fault if its value is a credential, judged by itself and by the name it goes
to. A template is at fault if one of its pieces has the shape of a credential. Module names, keys
and directives are no values and are not looked at.
-/

namespace Readiness.Secret

open Script

/-- Whether the parent of a step takes the child as the name of a module. -/
def namesModule (s : Step) : Bool :=
  match s.parent.kind with
  | .importDeclaration | .exportNamed | .exportAll => s.role == .source
  | .call =>
    match s.parent.field? .callee with
    | some c =>
      match c.kind with
      | .identifier name => name == "require"
      | .importKeyword => true
      | _ => false
    | none => false
  | _ => false

/-- Whether a string literal is a value, rather than a module's name, a key or a directive. -/
def isValue (p : Place) : Bool :=
  match p.above with
  | [] => true
  | s :: _ =>
    if namesModule s then false
    else
      match s.parent.kind, s.role with
      | .property _, .key => false
      | .methodDefinition _, .key => false
      | .member _, .memberProperty => false
      | .expressionStatement (some d), _ => d.isEmpty
      | _, _ => true

/-- What is told about secrets in the source. -/
def rule : Rule where
  type := IssueType.hardcodedSecret
  category := .security
  impact := "Exposed secrets can be stolen and used to access your systems"
  education := "Never commit secrets to source control. Use environment variables or " ++
    "secret management services."
  fix := "Move secret to environment variable"
  known := by decide

/-- The issue of a secret value at a node. -/
def issue (file : Text) (n : Node) (message : Text) (value : Text) (name : Option Text)
    (kind : Text) : Except Breakdown Issue := do
  let production := Credential.isProduction value name
  let digest ← Credential.digest value
  rule.issue file n (if production then .critical else .high)
    (if production then message ++ " (production environment!)" else message)
    [("binding_name", Json.ofOption name), ("node_kind", .str kind), ("value_digest", .str digest)]
    digest

/-- The message for a literal found to be a secret. -/
def literalMessage (finding : Credential.Finding) (receiver : Receiver) : Text :=
  match finding, receiver with
  | .connectionPassword, _ => "Password in connection string"
  | .secret label, .property => "Hardcoded secret in config: " ++ label
  | .secret label, .declarator => "Hardcoded secret: " ++ label
  | .secret _, _ => "Hardcoded API key or secret detected"

/-- The issue of a string literal, if it is a secret. -/
def literalIssue? (file : Text) (p : Place) (value : Text) :
    Except Breakdown (Option Issue) := do
  if !isValue p then return none
  let d ← p.destination
  match Credential.classify value d.name with
  | none => return none
  | some finding =>
    return some (← issue file p.node (literalMessage finding d.receiver) value d.name
      d.receiver.name)

/-- Whether a piece of a template has the shape of a credential. -/
def isSecretChunk (chunk : Text) : Bool :=
  !chunk.isEmpty &&
    ((Credential.connection? chunk).isSome || (Credential.shape? chunk).isSome) &&
    !Credential.isPlaceholder chunk

/-- The issue of a template, if one of its pieces is a secret. -/
def templateIssue? (s : Script) (file : Text) (p : Place) :
    Except Breakdown (Option Issue) := do
  let d ← p.destination
  match ((templateChunks s.text p.node).map Text.trim).find? isSecretChunk with
  | none => return none
  | some chunk =>
    return some (← issue file p.node "Potential secret in template literal" chunk d.name "template")

/-- The issue of a place, if it is a secret. -/
def issue? (s : Script) (file : Text) (p : Place) : Except Breakdown (Option Issue) :=
  match p.node.string? with
  | some value => literalIssue? file p value
  | none => if p.node.isTemplate then templateIssue? s file p else return none

/-- Finds secrets in the source. -/
def detector : Detector where
  id := IssueType.hardcodedSecret
  category := .security
  detect s _ file := s.places.filterMapM (issue? s file)

end Readiness.Secret
