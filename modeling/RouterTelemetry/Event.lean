/-!
# Events

What a run reports about itself: messages with a severity, oldest first.
-/

namespace RouterTelemetry

/-- Severity of an event, most severe first. -/
inductive Level where
  | error
  | warn
  | info
  | debug
deriving Repr, DecidableEq

/-- The position of a severity; smaller is more severe. -/
def Level.rank : Level → Nat
  | .error => 0
  | .warn => 1
  | .info => 2
  | .debug => 3

/-- The name of a severity in a log. -/
def Level.name : Level → String
  | .error => "ERROR"
  | .warn => "WARN"
  | .info => "INFO"
  | .debug => "DEBUG"

/-- One reported message. -/
structure Event where
  level : Level
  message : String
deriving Repr, DecidableEq

/-- The event is at least as severe as a level. -/
def Event.reaches (event : Event) (level : Level) : Bool :=
  decide (event.level.rank ≤ level.rank)

/-- The events at least as severe as a level. -/
def Event.atLevel (level : Level) (events : List Event) : List Event :=
  events.filter (·.reaches level)

/-- An event as a line of the log. -/
def Event.line (event : Event) : String :=
  event.level.name ++ " " ++ event.message

end RouterTelemetry
