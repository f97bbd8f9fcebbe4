import Readiness.Json.Basic

/-!
# Context

What is known about the project, or about one file of it, when a detector looks at a script.
-/

namespace Readiness

/-- A route that a script registers with its server. -/
structure Route where
  method : Text
  path : Text
  handler : Text := ""
  file : Text := ""
  line : Int := 0

/-- A route as a document. -/
def Route.json (r : Route) : Json := .obj [
  ("method", .str r.method),
  ("path", .str r.path),
  ("handler", .str r.handler),
  ("file", .str r.file),
  ("line", .int r.line)]

/-- The facts about a project or a file. -/
structure Context where
  projectType : Text := "unknown"
  framework : Option Text := none
  dependencies : List Text := []
  routes : List Route := []
  isPaymentCode : Bool := false
  isAuthenticationCode : Bool := false
  hasUserData : Bool := false

namespace Context

/-- The routes that a file registers. -/
def routesFor (c : Context) (file : Text) : List Route := c.routes.filter (·.file == file)

/-- Whether the project depends on a package. -/
def hasDependency (c : Context) (name : Text) : Bool := c.dependencies.contains name

/-- A context as a document. -/
def json (c : Context) : Json := .obj [
  ("projectType", .str c.projectType),
  ("framework", Json.ofOption c.framework),
  ("dependencies", Json.strings c.dependencies),
  ("routes", .arr (c.routes.map Route.json)),
  ("isPaymentCode", .bool c.isPaymentCode),
  ("isAuthenticationCode", .bool c.isAuthenticationCode),
  ("hasUserData", .bool c.hasUserData)]

/-- The frameworks that are recognised, in order of preference. -/
def frameworks : List Text := ["express", "koa", "fastify", "react", "vue", "angular"]

/-- The framework that a project with these dependencies uses. -/
def frameworkOf (dependencies : List Text) : Option Text :=
  match frameworks.find? dependencies.contains with
  | some name => some name
  | none => if dependencies.contains "@angular/core" then some "angular" else none

end Context

end Readiness
