/-!
# Levels

Five levels order events from the gravest to the most detailed.  A threshold
lets through the events up to one level, or none at all.
-/

namespace Shortlink.Log

/-- How much an event matters. -/
inductive Level
  | error
  | warn
  | info
  | debug
  | trace
  deriving DecidableEq, Repr

/-- The place of a level in the order, from the gravest on. -/
def Level.rank : Level → Nat
  | .error => 1
  | .warn => 2
  | .info => 3
  | .debug => 4
  | .trace => 5

/-- The name of a level in a log line. -/
def Level.name : Level → String
  | .error => "ERROR"
  | .warn => "WARN"
  | .info => "INFO"
  | .debug => "DEBUG"
  | .trace => "TRACE"

/-- The most detailed level that is let through, or `none` if no level is. -/
structure Threshold where
  level? : Option Level
  deriving DecidableEq, Repr

namespace Threshold

/-- Nothing is let through. -/
def off : Threshold := ⟨none⟩

/-- Levels up to the given one are let through. -/
def upTo (level : Level) : Threshold := ⟨some level⟩

/-- The place of a threshold in the order, from the narrowest on. -/
def rank (threshold : Threshold) : Nat :=
  threshold.level?.elim 0 Level.rank

/-- Whether a level is let through. -/
def allows (threshold : Threshold) (level : Level) : Bool :=
  level.rank ≤ threshold.rank

/-- The wider of two thresholds. -/
def widest (first second : Threshold) : Threshold :=
  if first.rank < second.rank then second else first

/-- The name of a threshold in a directive. -/
def name (threshold : Threshold) : String :=
  match threshold.level? with
  | none => "off"
  | some .error => "error"
  | some .warn => "warn"
  | some .info => "info"
  | some .debug => "debug"
  | some .trace => "trace"

end Threshold

end Shortlink.Log
