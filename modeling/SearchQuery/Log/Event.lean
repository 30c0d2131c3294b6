-- What the library reports about its work while it runs.

namespace SearchQuery

/-- How grave an event is. -/
inductive Level where
  | debug | info | warning | error | critical
  deriving DecidableEq, Repr

namespace Level

def name : Level → String
  | .debug => "debug"
  | .info => "info"
  | .warning => "warning"
  | .error => "error"
  | .critical => "critical"

/-- The level of a name. Two levels have a second name. -/
def ofName? : String → Option Level
  | "debug" => some .debug
  | "info" => some .info
  | "warning" | "warn" => some .warning
  | "error" => some .error
  | "critical" | "fatal" => some .critical
  | _ => none

/-- The weight of a level; only events of at least a given weight are shown. -/
def weight : Level → Nat
  | .debug => 10
  | .info => 20
  | .warning => 30
  | .error => 40
  | .critical => 50

end Level

/-- One event: its level, the part of the library that reports it, and what happened. -/
structure Event where
  level : Level
  source : String
  message : String
  deriving DecidableEq, Repr

end SearchQuery
