/-
**The commands and their parameters.**

Commands stand in groups. Every command has its own options, of which some must be given, and some
values are checked before the command runs.

* `CommandGroup.ofWord?`, `command?`: what words name;
* `Command.settings`: the settings of a command, once they are found to be usable.
-/

import FleetSchema.CommandLine.Stop
import FleetSchema.Number.Numeral
import FleetSchema.Storage
import FleetSchema.Text.Word
import FleetSchema.Unique

namespace FleetSchema

/-- The commands. -/
inductive Command where
  /-- List the databases of clusters. -/
  | listDatabases
  /-- Show the targets that a filter gives. -/
  | resolveTargets
  /-- Apply a schema. -/
  | applySchema
  /-- List the groups of a registry. -/
  | listGroups
  deriving DecidableEq, Repr

/-- The groups of commands. -/
inductive CommandGroup where
  | databases
  | targets
  | schema
  | registry
  deriving DecidableEq, Repr

namespace CommandGroup

/-- The word for a group. -/
def word : CommandGroup → String
  | .databases => "databases"
  | .targets => "targets"
  | .schema => "schema"
  | .registry => "registry"

/-- The group that a word names. -/
def ofWord? (word : String) : Option CommandGroup :=
  [CommandGroup.databases, .targets, .schema, .registry].find? (·.word == word)

/-- The commands of a group, with their words. -/
def commands : CommandGroup → List (String × Command)
  | .databases => [("list", .listDatabases)]
  | .targets => [("resolve", .resolveTargets)]
  | .schema => [("apply", .applySchema)]
  | .registry => [("groups", .listGroups)]

/-- The command of a group that a word names. -/
def command? (group : CommandGroup) (word : String) : Option Command :=
  (group.commands.find? (·.1 == word)).map (·.2)

end CommandGroup

/-! ### Words that name commands -/

namespace CommandLine

/-- Whether a word looks like an option in the place of a name: it starts with something else than a
letter or a digit. -/
def looksLikeOption (word : String) : Bool :=
  match word.toList with
  | [] => false
  | first :: _ => first == '_' || !Text.isWord first

/-- The fault of a word that names no command. A word that looks like an option names none, and then
no words are left. -/
def noCommandFault (word : String) : UsageFault :=
  if looksLikeOption word then .noWords else .unknownCommand word

/-- What asks for help. -/
def helpSpelling : Spelling := .on "--help" .help

/-- The options of the program itself. -/
def programSpellings : List Spelling := [.taking "--log-level" .logLevel, helpSpelling]

/-- The settings and the words of a group. Asking for help ends the run. -/
def readGroup (spellings : List Spelling) (words : List String) :
    Action Stop Arguments.Reading := do
  if words.isEmpty then Stop.misused .noWords
  match Arguments.read spellings false words with
  | .error fault => Stop.misused fault
  | .ok reading =>
    if Arguments.isSet reading.settings .help then throw (.exit 0 none)
    return reading

end CommandLine

/-! ### Parameters of commands -/

namespace Command

/-- The options for clusters. -/
def clusterSpellings : List Spelling := [.taking "--cluster" .cluster, .taking "-c" .cluster]

/-- The options for filters. -/
def filterSpellings : List Spelling := [.taking "--db" .db, .taking "--dbs" .dbs,
  .taking "--webhook" .webhook, .taking "--label" .label]

/-- The options for applying a schema. -/
def applySpellings : List Spelling := [
  .taking "--schema-file" .schemaFile, .taking "-f" .schemaFile, .on "--all" .selectAll,
  .on "--fail-if-data-loss" .lossFlag, .off "--allow-data-loss" .lossFlag,
  .on "--select" .select, .on "-s" .select, .taking "--parallel" .parallel,
  .taking "-n" .parallel, .on "--confirm" .confirm, .off "--no-confirm" .confirm,
  .on "--dry-run" .dryRun]

/-- The options for registries. -/
def registrySpellings : List Spelling := [.taking "--endpoint" .endpoint,
  .taking "-e" .endpoint, .on "--anonymous" .anonymous]

/-- The options of a command. -/
def spellings : Command → List Spelling
  | .listDatabases => clusterSpellings ++ [.taking "--name" .name, CommandLine.helpSpelling]
  | .resolveTargets => clusterSpellings ++ filterSpellings ++ [CommandLine.helpSpelling]
  | .applySchema =>
    clusterSpellings ++ filterSpellings ++ applySpellings ++ [CommandLine.helpSpelling]
  | .listGroups => registrySpellings ++ [CommandLine.helpSpelling]

/-- The parameters that a command needs. -/
def needed : Command → List Parameter
  | .listDatabases | .resolveTargets => [.cluster]
  | .applySchema => [.cluster, .schemaFile]
  | .listGroups => [.endpoint]

/-! ### Checks -/

/-- Whether a text, as the name of a file, can only be meant for a directory. -/
def namesDirectory (text : String) : Bool :=
  text.isEmpty || text.endsWith "/" || text.endsWith "/."

/-- Whether a text names a file of a tree. -/
def namesFile (tree : FileTree) (text : String) : Bool :=
  match tree.entryAt? (.ofText text) with
  | some (.file ..) => !namesDirectory text
  | _ => false

/-- Check the value of a parameter. -/
def checkValue (parameter : Parameter) (text : String) : Action Stop Unit := do
  match parameter with
  | .parallel =>
    if (Numeral.integer? text).isNone then Stop.misused (.badNumber text)
  | .schemaFile =>
    Stop.plainly (Storage.checkPath text)
    unless namesFile (← get).tree text do Stop.misused (.badFile text)
  | _ => return ()

/-- Check the values of parameters; of several values of one parameter the last one counts. -/
def checkValues (settings : List Setting) : List Parameter → Action Stop Unit
  | [] => return ()
  | parameter :: rest => do
    if let some text := Arguments.lastText settings parameter then checkValue parameter text
    checkValues settings rest

/-- Check that the needed parameters are set. -/
def checkNeeded (settings : List Setting) (parameters : List Parameter) : Action Stop Unit :=
  match parameters.find? fun parameter => !Arguments.isSet settings parameter with
  | some parameter => Stop.misused (.missingParameter parameter)
  | none => return ()

/-- The settings of a command. What is given is checked before what is missing, and words that are
left over come last. -/
def settings (command : Command) (words : List String) : Action Stop (List Setting) := do
  match Arguments.read command.spellings true words with
  | .error fault => Stop.misused fault
  | .ok reading =>
    if Arguments.isSet reading.settings .help then throw (.exit 0 none)
    checkValues reading.settings (unique (reading.settings.map Setting.parameter))
    checkNeeded reading.settings command.needed
    unless reading.words.isEmpty do Stop.misused (.extraWords reading.words)
    return reading.settings

end Command

end FleetSchema
