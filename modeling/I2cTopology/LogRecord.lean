/-!
# Log records

Operations hand back what they have to report as values; nothing is printed here.
-/

namespace I2cTopology

/-- How much a record matters. -/
inductive LogLevel where
  | debug
  | warn
deriving DecidableEq

/-- One reported event. -/
structure LogRecord where
  level : LogLevel
  text : String
deriving DecidableEq

/-- Events in the order in which they were reported. -/
abbrev Log := List LogRecord

/-- The word for a level. -/
def LogLevel.word : LogLevel → String
  | .debug => "DEBUG"
  | .warn => "WARN"

/-- A record for those who look for the course of events. -/
def LogRecord.debug (text : String) : LogRecord := ⟨.debug, text⟩

/-- A record of something that should not happen in normal use. -/
def LogRecord.warn (text : String) : LogRecord := ⟨.warn, text⟩

/-- The record as one line. -/
def LogRecord.line (r : LogRecord) : String := r.level.word ++ " " ++ r.text

end I2cTopology
