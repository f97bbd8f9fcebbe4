import Readiness.Text.Basic

/-!
# Log

What is worth telling besides a result. A log is the list of its entries, oldest first, and a
computation that records entries hands the log on, whether it succeeds or not.
-/

namespace Readiness

/-- How much an entry matters. -/
inductive LogLevel where
  | debug
  | warning
  | error
deriving DecidableEq

/-- The name of a level. -/
def LogLevel.name : LogLevel → Text
  | .debug => "DEBUG"
  | .warning => "WARNING"
  | .error => "ERROR"

/-- One entry: how much it matters, what part of the program it comes from, and its words. -/
structure LogEntry where
  level : LogLevel
  source : Text
  message : Text

/-- The line of an entry. -/
def LogEntry.line (e : LogEntry) : Text :=
  e.level.name ++ " prodready." ++ e.source ++ ": " ++ e.message

/-- The entries so far, oldest first. -/
abbrev Log := List LogEntry

/-- A computation that records entries and may fail. -/
abbrev Recorded (ε α : Type) := ExceptT ε (StateM Log) α

/-- Records an entry. -/
def record {ε : Type} (level : LogLevel) (source message : Text) : Recorded ε Unit :=
  modify fun (log : Log) => log ++ [⟨level, source, message⟩]

/-- Records entries. -/
def recordAll {ε : Type} (entries : Log) : Recorded ε Unit := modify fun (log : Log) => log ++ entries

/-- A result, or a fault under the name that the computation has for it. -/
def Recorded.ofExcept {δ ε α : Type} (fault : δ → ε) (r : Except δ α) : Recorded ε α :=
  match r with
  | .ok a => pure a
  | .error e => throw (fault e)

/-- The result of a computation and what it recorded. -/
def Recorded.outcome {ε α : Type} (m : Recorded ε α) : Except ε α × Log :=
  StateT.run (ExceptT.run m) []

end Readiness
