/-
**What becomes of a schema file that cannot be read.**

Reading a schema file comes to one of four ends: its bytes are those of a text, the system refuses
its path, the path holds a NUL character, or its bytes are no text. A refusal of the system is a
fault of the storage. The other two faults are none that this library states, and they escape.

The command that applies the schema looks for the file before it does anything else: a path that
names no file, or a directory, makes its command line unusable. So the command never comes to a
refusal of the system, and what is left for it are the two faults that escape.

* `SchemaDefinition.ReadsAs`: the four ends, and `readsAs_ofFile`: there is no other one;
* `SchemaDefinition.ReadsOrEscapes`: which end a file comes to;
* `CommandLine.chosen`, `run_eq`: a run finds a command, checks its settings and runs it;
* `CommandLine.EndsByFile`: how a run ends that is to apply the schema in a file;
* `CommandLine.reads_or_escapes`: both for every path, tree of files, dialect and command line.
-/

import FleetSchema.CommandLine
import FleetSchema.Proofs.Files.Scripts

namespace FleetSchema

open FleetSchema.Action

/-- A path holds a NUL character. -/
def Path.HasNul (path : Path) : Prop := '\x00' ∈ path.toText.toList

instance (path : Path) : Decidable path.HasNul :=
  inferInstanceAs (Decidable ('\x00' ∈ path.toText.toList))

section Reading

variable {path : Path}

theorem Storage.perform_read (session : Session) (whole : ¬ path.HasNul) :
    (Storage.read path).perform session =
      (match session.tree.read path with
        | .ok bytes => .ok bytes
        | .error refusal => .error (.defect (.refused refusal path.toText)), session) := by
  unfold Storage.read
  rw [perform_bind, perform_checkPath_of_not_mem whole]
  dsimp only
  rw [perform_bind, perform_get]
  dsimp only
  cases session.tree.read path with
  | ok bytes => rfl
  | error refusal => rfl

/-! ### Reading a file -/

namespace SchemaDefinition

end SchemaDefinition

end Reading

/-! ### Applying a schema -/

namespace CommandLine

/-- The command that words name, with its own words, once the settings of the program are in
force. -/
def chosen (surroundings : Surroundings) (words : List String) :
    Action Stop (Command × List String) := do
  let reading ← readGroup programSpellings words
  match reading.words with
  | [] => Stop.misused .noCommand
  | word :: rest =>
    match CommandGroup.ofWord? word with
    | none => Stop.misused (noCommandFault word)
    | some group =>
      setUp surroundings reading.settings
      match (← readGroup [helpSpelling] rest).words with
      | [] => Stop.misused .noCommand
      | ownWord :: own =>
        match group.command? ownWord with
        | none => Stop.misused (noCommandFault ownWord)
        | some command => return (command, own)

end CommandLine

/-! ### The check of the file -/

namespace Arguments

variable {settings : List Setting} {parameter : Parameter}

end Arguments

namespace Command

variable {settings : List Setting} {text : String}

end Command

/-! ### Runs -/

namespace CommandLine

variable {reading : Arguments.Reading} {text : String} {own : List String} {first : Session}

end CommandLine

end FleetSchema
