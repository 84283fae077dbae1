/-
**The command line.**

A command line names a group, a command of the group, and the settings of the command. The settings
of the program come first; they are in force before the words of the group are looked at.

* `CommandLine.run`: run a command line;
* `CommandLine.named?`, `schemaFile?`: the command and the file that a command line names;
* `CommandLine.exitCode?`: the code that a run ends with.
-/

import FleetSchema.CommandLine.Application
import FleetSchema.CommandLine.Grammar
import FleetSchema.Diagnostics

namespace FleetSchema.CommandLine

section Runs

variable [Interpreter]

/-- Run a command. -/
def runCommand (surroundings : Surroundings) (settings : List Setting) :
    Command → Action Stop Unit
  | .listDatabases => listDatabases surroundings settings
  | .resolveTargets => resolveTargets surroundings settings
  | .applySchema => applySchema surroundings settings
  | .listGroups => listGroups surroundings settings

/-- Run the command of a group that words name. -/
def runGroup (surroundings : Surroundings) (group : CommandGroup) (words : List String) :
    Action Stop Unit := do
  match (← readGroup [helpSpelling] words).words with
  | [] => Stop.misused .noCommand
  | word :: rest =>
    match group.command? word with
    | none => Stop.misused (noCommandFault word)
    | some command =>
      let settings ← command.settings rest
      runCommand surroundings settings command

/-- The word for the diagnostics of a run: the one that is given, or the one of the settings. -/
def diagnosticsWord (surroundings : Surroundings) (settings : List Setting) : String :=
  match Arguments.lastText settings .logLevel with
  | some word => if word.isEmpty then surroundings.settings.logLevel else word
  | none => surroundings.settings.logLevel

/-- Set up the diagnostics of a run. -/
def setUp (surroundings : Surroundings) (settings : List Setting) : Action Stop Unit := do
  match ← (Diagnostics.configure (diagnosticsWord surroundings settings)).attempt with
  | .ok _ => return ()
  | .error fault =>
    if fault.families.value then Stop.die fault.message Stop.usageCode
    else Stop.unexpected fault

/-- Run a command line. -/
def run (surroundings : Surroundings) (words : List String) : Action Stop Unit := do
  let reading ← readGroup programSpellings words
  match reading.words with
  | [] => Stop.misused .noCommand
  | word :: rest =>
    match CommandGroup.ofWord? word with
    | none => Stop.misused (noCommandFault word)
    | some group =>
      setUp surroundings reading.settings
      runGroup surroundings group rest

end Runs

/-- The command that a command line names with the settings for it, as far as it can be read. -/
def named? (words : List String) : Option (Command × List Setting) := do
  let reading ← (Arguments.read programSpellings false words).toOption
  let group ← reading.words.head?.bind CommandGroup.ofWord?
  let inner ← (Arguments.read [helpSpelling] false (reading.words.drop 1)).toOption
  let command ← inner.words.head?.bind group.command?
  let own ← (Arguments.read command.spellings true (inner.words.drop 1)).toOption
  return (command, own.settings)

/-- The file with the schema that a command line names. -/
def schemaFile? (words : List String) : Option String :=
  (named? words).bind fun (_, settings) => Arguments.lastText settings .schemaFile

/-- The code that a run ends with; a fault that nobody expected has none. -/
def exitCode? : Except Stop Unit → Option Int
  | .ok () => some 0
  | .error (.exit code _) => some code
  | .error (.usage _) => some Stop.usageCode
  | .error (.fault _) => none

/-- An end with a code keeps it unless the console refuses the message of the end. -/
theorem exitCode?_behind (code : Int) (cause : Option Fault) (refused : Option Defect) :
    exitCode? (.error ((Stop.exit code cause).behind refused)) =
      if refused.isNone then some code else none := by
  cases refused with
  | none => rfl
  | some defect => rfl

end FleetSchema.CommandLine
