/-
**The apply engine.**

The apply engine is a program that is started for one job and ends with a code; every code but zero
stands for failure. Of what a failing engine says, the last lines are kept.

* `Engine.apply`: run the engine on a job.
-/

import FleetSchema.Execution

namespace FleetSchema

/-- How a program ended: its code, and what it said on its two channels. -/
structure ProgramEnd where
  code : Int
  output : String
  complaint : String
  deriving DecidableEq, Repr

/-- What starts programs. -/
abbrev Launcher := (arguments : List String) → Except Fault ProgramEnd

/-- The apply engine. -/
structure Engine where
  binary : String
  launch : Launcher
  logger : String

namespace Engine

/-- The name of the engine unless another one is given. -/
def defaultBinary : String := "delta-kusto"

/-- The logger of an engine that is given none. -/
def defaultLogger : String := JobWriter.defaultLogger

/-- How many lines of what a failing engine says are kept. -/
def tailLines : Nat := 20

/-- The last lines of a text. -/
def tailOf (text : String) : String :=
  let lines := Text.lines text
  "\n".intercalate (lines.drop (lines.length - tailLines))

/-- The arguments for a job. -/
def arguments (engine : Engine) (job : String) : List String := [engine.binary, "-p", job]

/-- Start the engine and wait for its end. -/
def run (engine : Engine) (job : String) : Action Fault ProgramEnd := do
  Action.call (.started (engine.arguments job))
  match engine.launch (engine.arguments job) with
  | .ok ended => return ended
  | .error fault =>
    throw (if fault.families.system then .notStarted engine.binary fault else fault)

/-- Run the engine on a job. -/
def apply (engine : Engine) (job : String) : Action Fault Unit := do
  Action.log .debug engine.logger ("running " ++ " ".intercalate (engine.arguments job)) false
  let ended ← engine.run job
  unless ended.output.isEmpty do
    Action.log .debug engine.logger (engine.binary ++ " output:\n" ++ ended.output) false
  unless ended.code == 0 do
    throw (.exited engine.binary ended.code job (tailOf ended.complaint))

/-- The engine as an applier. -/
def applier (engine : Engine) : SchemaApplier where
  apply := engine.apply

end Engine

end FleetSchema
