/-!
# Log records

Each stage says what it has to say in records, as data beside its result. Records have a level, and
a log is kept down to the most verbose level that is wanted.
-/

namespace Folio

/-- How much a record matters; a log that keeps a level keeps all that matter more. -/
inductive Level where
  | warn
  | debug
  | trace
  deriving DecidableEq, Repr

/-- The verbosity of a level. -/
def Level.verbosity : Level → Nat
  | .warn => 0
  | .debug => 1
  | .trace => 2

/-- The name of a level. -/
def Level.name : Level → String
  | .warn => "WARN"
  | .debug => "DEBUG"
  | .trace => "TRACE"

/-- One record. -/
structure Record where
  level : Level
  message : String
  deriving DecidableEq, Repr

/-- A record of a thing that went wrong and was passed over. -/
def Record.warn (message : String) : Record := ⟨.warn, message⟩

/-- A record of what a stage came to. -/
def Record.debug (message : String) : Record := ⟨.debug, message⟩

/-- A record of a single node. -/
def Record.trace (message : String) : Record := ⟨.trace, message⟩

/-- The records that a log keeps when `most` is the most verbose level wanted. -/
def keepLevels (most : Level) (records : List Record) : List Record :=
  records.filter fun record => record.level.verbosity ≤ most.verbosity

end Folio
