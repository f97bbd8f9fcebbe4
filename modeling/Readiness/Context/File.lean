import Readiness.Context.Basic
import Readiness.Script.Naming
import Readiness.Text.Pattern

/-!
# What a script tells about itself

The modules that a script imports, the routes it registers, and whether it deals with payments,
authentication or the data of users.
-/

namespace Readiness

namespace Script

/-- The module that a node imports, if it does. -/
def importedModule? (n : Node) : Option Text :=
  match n.kind with
  | .importDeclaration => (n.field? .source).bind Node.string?
  | .call =>
    if ((n.field? .callee).map fun c => c.isNamed "require").getD false then
      (n.arguments.head?.bind Node.string?)
    else none
  | _ => none

/-- The modules that a script imports, in source order. -/
def importedModules (s : Script) : List Text :=
  (s.places.filterMap fun p => importedModule? p.node).eraseDups

/-- The methods that register a route. -/
def routeMethods : List Text :=
  ["get", "post", "put", "patch", "delete", "all", "options", "head"]

/-- The words in the names of what routes are registered with. -/
def routerWords : List Text := ["app", "router", "server", "api", "fastify"]

/-- What a handler without a name is called. -/
def anonymousHandler : Text := "anonymous"

mutual

/-- The name of a handler; of a call, that of its last argument. -/
def handlerName : Node → Text
  | .mk kind span children =>
    match kind with
    | .identifier name => name
    | .member _ => (Node.path? (.mk kind span children)).getD anonymousHandler
    | .functionDeclaration _ _ | .functionExpression _ _ | .arrowFunction _ =>
      ((children.lookup .id).bind Node.identifier?).getD anonymousHandler
    | .call => lastHandlerName anonymousHandler children
    | _ => anonymousHandler

/-- The name of the last argument, or the given one if there is none. -/
def lastHandlerName (name : Text) : List (Role × Node) → Text
  | [] => name
  | (r, c) :: more => lastHandlerName (if r = .argument then handlerName c else name) more

end

/-- The route that a node registers, if it does. -/
def route? (file : Text) (n : Node) : Option Route :=
  match n.kind, n.field? .callee, n.arguments with
  | .call, some callee, path :: handler :: more => do
    let method ← callee.propertyName?
    let path ← path.string?
    let root ← callee.chainRoot.identifier?
    let last := (handler :: more).getLast?.getD handler
    if routeMethods.contains method && path.head? == some '/' &&
        Text.mentionsAnyCase routerWords root then
      some {
        method := Text.upper method, path := path, handler := handlerName last,
        file, line := n.line }
    else none
  | _, _, _ => none

/-- The routes that a script registers, in source order. -/
def routes (s : Script) (file : Text) : List Route :=
  s.places.filterMap fun p => route? file p.node

end Script

namespace Context

/-- The words that mark a file of payment code. -/
def paymentPathWords : List Text := ["payment", "billing", "checkout", "stripe"]

/-- The words that mark a file of authentication code. -/
def authenticationPathWords : List Text := ["auth", "login", "session", "passport"]

/-- The modules that payment code imports. -/
def paymentModules : List Text :=
  ["stripe", "braintree", "paypal-rest-sdk", "@paypal/checkout-server-sdk"]

/-- The modules that authentication code imports. -/
def authenticationModules : List Text :=
  ["passport", "jsonwebtoken", "bcrypt", "bcryptjs", "express-session"]

/-- The words that mark data of users. -/
def userDataWords : List Text := ["req.body", "email", "password", "address", "phone"]

/-- The context in which a file of the project is looked at; a file that could not be parsed tells
only its name. -/
def forFile (project : Context) (s : Option Script) (file : Text) : Context :=
  let modules := (s.map Script.importedModules).getD []
  let text := (s.map Script.text).getD []
  { project with
    isPaymentCode := Text.mentionsAnyCase paymentPathWords file ||
      modules.any paymentModules.contains
    isAuthenticationCode := Text.mentionsAnyCase authenticationPathWords file ||
      modules.any authenticationModules.contains
    hasUserData := Text.mentionsAnyCase userDataWords text }

end Context

end Readiness
