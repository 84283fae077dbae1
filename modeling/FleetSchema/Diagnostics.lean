/-
**Diagnostics of a run.**

A run keeps the diagnostics from a least weight on. The weight is set by a word, in letters of any
case; the word for no weight of its own leaves the weight that holds otherwise.

* `weightOf?`: the weight that a word sets;
* `configure`: set the least weight of a session.
-/

import FleetSchema.Session
import FleetSchema.Text.LetterCase

namespace FleetSchema.Diagnostics

/-- The words for weights. -/
def weights : List (String × Nat) := [
  ("CRITICAL", LogLevel.critical.weight), ("FATAL", LogLevel.critical.weight),
  ("ERROR", LogLevel.error.weight), ("WARN", LogLevel.warning.weight),
  ("WARNING", LogLevel.warning.weight), ("INFO", LogLevel.info.weight),
  ("DEBUG", LogLevel.debug.weight), ("NOTSET", 0)]

/-- The weight that a word sets. -/
def weightOf? (word : String) : Option Nat :=
  (weights.find? (·.1 == Text.upper word)).map (·.2)

/-- The word for the weight that holds when none is asked for. -/
def defaultWord : String := LogLevel.warning.word

/-- The weight from which on diagnostics are kept, when this weight is set. -/
def effective (weight : Nat) : Nat := if weight == 0 then LogLevel.warning.weight else weight

/-- The name that all loggers start with. -/
def rootLogger : String := "kschema"

/-- How a diagnostic is written. -/
def line (logger message : String) : String := logger ++ ": " ++ message

/-- Set the least weight of the diagnostics that are kept. -/
def configure (word : String) : Action Fault Nat := do
  match weightOf? word with
  | none => throw (.defect (.unknownLevel word))
  | some weight =>
    modify fun session => { session with threshold := effective weight }
    return weight

end FleetSchema.Diagnostics
