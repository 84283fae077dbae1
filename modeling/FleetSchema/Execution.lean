/-
**Building and executing configurations.**

A configuration ties a stored schema to a job that was generated for the databases of one cluster.
Executing it hands the job to the apply engine. The stages follow each other strictly: nothing is
generated before the schema is stored, nothing is applied before the job is generated, and no stage
is tried twice.

* `build`, `create`: a configuration for given databases, and one that stores its schema first;
* `execute`: apply a configuration.
-/

import FleetSchema.Job.Generator
import FleetSchema.Schema
import FleetSchema.Targets

namespace FleetSchema

/-- A job that is ready to be applied. -/
structure Configuration where
  schemaFile : Path
  jobFile : String
  clusterUri : String
  databases : List String
  lossFlag : Value
  deriving Repr

/-- What applies jobs. -/
structure SchemaApplier where
  apply : (job : String) → Action Fault Unit

/-- The applier that answers as a function says. -/
def SchemaApplier.answering (answer : String → Except Fault Unit) : SchemaApplier where
  apply job := do
    Action.call (.applied job)
    Action.ofExcept (answer job)

namespace Configuration

/-- The logger of building. -/
def buildLogger : String := "kschema.core.execconfig"

/-- The logger of executing. -/
def executeLogger : String := "kschema.core.executor"

/-- The path that a value names. -/
def pathOf : Value → Except Defect Path
  | .text text => .ok (.ofText text)
  | .path text => .ok (.ofText text)
  | value => .error (.notPath value.formName)

/-- The reference that a value is: a text that is not empty, or a path. -/
def reference? : Value → Option String
  | .text text => if text.isEmpty then none else some text
  | .path text => some text
  | _ => none

/-- The fault of generating a job, written down. -/
def generationFault {α : Type} (uri : String) (fault : Fault) : Action Fault α := do
  let message := "failed generating job configuration for " ++ uri
  if fault.isKind .build then
    Action.log .error buildLogger message false
    throw fault
  else
    Action.log .error buildLogger message true
    throw (.generation uri fault)

/-- Generate the job of a configuration. -/
def generateJob (generator : JobGenerator) (uri : String) (databases : List String)
    (schemaFile lossFlag : Value) : Action Fault Value := do
  let path ← Action.ofDefect (pathOf schemaFile)
  generator.generate uri databases path lossFlag

/-- Warn about a configuration that changes nothing. -/
def warnEmpty (uri : String) : Action Fault Unit :=
  Action.log .warning buildLogger
    ("no target databases on " ++ uri ++ "; the job will not change anything") false

/-- Generate the job of a configuration and put the configuration together. -/
def assemble (generator : JobGenerator) (uri : String) (databases : List String)
    (schemaFile lossFlag : Value) : Action Fault Configuration := do
  let reference ← (generateJob generator uri databases schemaFile lossFlag).onFault
    (generationFault uri)
  match reference? reference with
  | none => throw (.badReference reference)
  | some job =>
    let path ← Action.ofDefect (pathOf schemaFile)
    return ⟨path, job, uri, databases, lossFlag⟩

/-- Build the configuration for the databases of a cluster. -/
def build (generator : JobGenerator) (uri : String) (databases : List String)
    (schemaFile lossFlag : Value) : Action Fault Configuration := do
  if databases.isEmpty then warnEmpty uri
  assemble generator uri databases schemaFile lossFlag

/-- Build the configuration for the databases that a value runs through. -/
def buildFrom (generator : JobGenerator) (uri : String) (databases schemaFile lossFlag : Value) :
    Action Fault Configuration :=
  match databases.items? with
  | some names => build generator uri (names.map Value.toText) schemaFile lossFlag
  | none => do
    unless databases.truthy do warnEmpty uri
    generationFault uri (.defect (.notIterable databases.formName))

/-- Store a schema and build the configuration for targets. -/
def create (store : SchemaStore) (generator : JobGenerator) (targets : Targets)
    (schema : SchemaDefinition) (lossFlag : Value) : Action Fault Configuration := do
  let path ← store.store schema
  build generator targets.clusterUri targets.databases (.path path.toText) lossFlag

/-! ### Executing -/

/-- The fault of applying a job, written down. -/
def applyFault {α : Type} (uri : String) (fault : Fault) : Action Fault α := do
  let message := "schema apply failed on " ++ uri
  if fault.isKind .execution then
    Action.log .error executeLogger message false
    throw fault
  else
    Action.log .error executeLogger message true
    throw (.applying uri fault)

/-- Apply a configuration. -/
def execute (configuration : Configuration) (applier : SchemaApplier) : Action Fault Unit := do
  Action.log .info executeLogger
    ("applying " ++ configuration.jobFile ++ " to " ++ toString configuration.databases.length ++
      " database(s) on " ++ configuration.clusterUri) false
  (applier.apply configuration.jobFile).onFault (applyFault configuration.clusterUri)

end Configuration

end FleetSchema
