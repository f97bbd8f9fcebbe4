import Readiness.Text.Case
import Readiness.Text.Whole

/-!
# Settings of the service

Where the service listens and what it accepts. Each setting has a value of its own, and the
surroundings may give another one as a text.
-/

namespace Readiness.Service

/-- The settings of the service. -/
structure Settings where
  host : Text := "127.0.0.1"
  port : Int := 8000
  debug : Bool := false
  /-- The origins that may ask. -/
  origins : List Text := ["*"]
  /-- The most bytes that a source may have. -/
  mostBytes : Int := 1000000

/-- A setting that is no whole number. -/
structure BadSetting where
  given : Text
  fault : WholeFault

/-- The words for a setting that is no whole number. -/
def BadSetting.message (b : BadSetting) : Text := b.fault.message b.given

namespace Settings

/-- What stands before the names of the settings. -/
def namesStart : Text := "PRODREADY_API_"

/-- The whole number of a setting. -/
def whole (given : Text) : Except BadSetting Int := (Text.whole given).mapError (⟨given, ·⟩)

/-- Whether a setting says yes. -/
def isYes (given : Text) : Bool := ["true", "1", "yes"].contains (Text.lower given).word

/-- The settings with those that the surroundings give. -/
def load (surroundings : List (Text × Text)) : Except BadSetting Settings := do
  let s : Settings := {}
  let given (name : Text) : Option Text := surroundings.lookup (namesStart ++ name)
  let host := (given "HOST").getD s.host
  let port ← match given "PORT" with
    | some t => whole t
    | none => pure s.port
  let debug := ((given "DEBUG").map isYes).getD s.debug
  let origins := match given "CORS_ORIGINS" with
    | some t => Text.splitBy (· == ',') t
    | none => s.origins
  let mostBytes ← match given "MAX_SOURCE_BYTES" with
    | some t => whole t
    | none => pure s.mostBytes
  return { host, port, debug, origins, mostBytes }

end Settings

end Readiness.Service
