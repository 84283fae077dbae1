/-
**Applying a schema to clusters.**

A schema is applied in steps that never go back: the request is checked, the targets are resolved
and narrowed down, the user agrees, the schema is stored, and only then jobs are generated and
applied. Whoever names no filter must say so, by an option or in a prompt.

* `applySchema`: the command.
-/

import FleetSchema.CommandLine.Inspection
import FleetSchema.Picker
import FleetSchema.Rollout.Pool

namespace FleetSchema

variable [Interpreter]

/-- What is asked for when a schema is to be applied. -/
structure ApplyRequest where
  clusters : List String
  schemaFile : Path
  selection : Selection
  lossFlag : Bool
  narrows : Bool
  workers : Int
  asks : Bool
  dryRun : Bool
  deriving Repr

namespace ApplyRequest

/-- How many clusters are worked on at once by default. -/
def defaultWorkers : Int := 4

/-- The request that settings make. -/
def ofSettings (settings : List Setting) : ApplyRequest where
  clusters := Arguments.texts settings .cluster
  schemaFile := .ofText ((Arguments.lastText settings .schemaFile).getD "")
  selection := Arguments.selection settings
  lossFlag := Arguments.lastSwitch settings .lossFlag false
  narrows := Arguments.lastSwitch settings .select false
  workers := ((Arguments.lastText settings .parallel).bind Numeral.integer?).getD defaultWorkers
  asks := Arguments.lastSwitch settings .confirm true
  dryRun := Arguments.lastSwitch settings .dryRun false

/-! ### Before connecting -/

/-- The filter and the schema of a request. -/
def inputs (request : ApplyRequest) : Action Fault (TargetFilter × SchemaDefinition) := do
  let filter ← Action.ofExcept request.selection.filter
  let schema ← SchemaDefinition.ofFile request.schemaFile ""
  return (filter, schema)

/-- Go on only when the user agrees. -/
def agreeing (message : String) : Action Stop Unit := do
  let agreed ← Stop.plainly (Prompt.confirm message false)
  unless agreed do Stop.okExit "Cancelled"

/-- The question whether all databases are meant. -/
def meantQuestion : String := "Target every database?"

/-- Make sure that a request for all databases is meant. -/
def ensureMeant (request : ApplyRequest) (filter : TargetFilter) : Action Stop Unit := do
  if filter.mode == .all && !request.selection.selectAll then
    unless request.asks do
      Stop.die "No filter given. Pass --all to target every database." Stop.usageCode
    Stop.plainly
      (Console.warn "No filter given: every database of each cluster will be targeted.")
    agreeing meantQuestion

/-! ### Targets -/

/-- Let the user narrow down the targets of clusters, one after the other. -/
def pickEach : List Targets → Action Fault (List Targets)
  | [] => return []
  | targets :: rest => do
    let first ← targets.pick
    let others ← pickEach rest
    return first :: others

/-- Warn about each cluster without targets. -/
def warnSkipped : List Targets → Action Fault Unit
  | [] => return ()
  | targets :: rest => do
    if targets.databases.isEmpty then
      Console.warn ("No target databases on " ++ targets.clusterUri ++ "; skipping")
    warnSkipped rest

/-- The targets of a request; clusters without any are passed over. -/
def targets (request : ApplyRequest) (surroundings : Surroundings) (filter : TargetFilter)
    (clusters : List Cluster) : Action Stop (List Targets) := do
  let found ← CommandLine.plan surroundings filter clusters
  let picked ← if request.narrows then Stop.plainly (pickEach found) else pure found
  Stop.plainly (warnSkipped picked)
  let plans := picked.filter fun targets => !targets.databases.isEmpty
  if plans.isEmpty then Stop.warnExit "No target databases" 0
  return plans

/-! ### Applying -/

/-- Tell the user what is going to happen. -/
def announce (request : ApplyRequest) (plans : List Targets) : Action Fault Unit := do
  Console.header "Schema rollout"
  Console.facts [("schema", .text request.schemaFile.toText),
    ("fail if data loss", .bool request.lossFlag), ("dry run", .bool request.dryRun)]
  Console.table (.ofTargets Table.targetsTitle (plans.map Targets.row))

/-- The number of databases in targets. -/
def databaseCount : List Targets → Nat
  | [] => 0
  | targets :: rest => targets.databases.length + databaseCount rest

/-- The question whether the schema is to be applied to a number of databases on a number of
clusters. -/
def applyQuestion (databases clusters : Nat) : String :=
  "Apply schema to " ++ toString databases ++ " database(s) on " ++ toString clusters ++
    " cluster(s)?"

/-- Ask whether the schema is to be applied, unless nothing is asked or nothing is applied. -/
def ensureAgreed (request : ApplyRequest) (plans : List Targets) : Action Stop Unit := do
  if !request.dryRun && request.asks then
    agreeing (applyQuestion (databaseCount plans) plans.length)

/-- Roll out a stored schema. -/
def rollOut (request : ApplyRequest) (surroundings : Surroundings) (stored : Path)
    (plans : List Targets) : Action Stop (List RolloutResult) :=
  let rollout : Rollout := ⟨.path stored.toText, surroundings.generator, surroundings.applier,
    .bool request.lossFlag, request.dryRun⟩
  Stop.plainly (Console.status
    (if request.dryRun then "Generating jobs..." else "Applying schema...")
    (rollout.applyAll (.int request.workers) plans))

/-- Tell the user how it went. -/
def conclude (request : ApplyRequest) (results : List RolloutResult) : Action Stop Unit := do
  Stop.plainly (Console.table (.ofResults Table.resultsTitle (results.map RolloutResult.row)))
  if request.dryRun then
    Stop.warnExit "Dry-run enabled: job files generated, nothing applied" 0
  let failed := results.filter (·.status == .failed)
  unless failed.isEmpty do
    Stop.die ("Schema apply failed on " ++ toString failed.length ++ " cluster(s)")
      Stop.failureCode
  Stop.plainly
    (Console.success ("Schema applied on " ++ toString results.length ++ " cluster(s)"))

/-- Store the schema and roll it out. -/
def carryOut (request : ApplyRequest) (surroundings : Surroundings) (schema : SchemaDefinition)
    (plans : List Targets) : Action Stop Unit := do
  let stored ← Stop.expecting (surroundings.store.store schema)
  let results ← request.rollOut surroundings stored plans
  request.conclude results

/-- Resolve targets on clusters and bring the schema to them, if the user agrees. -/
def runOn (request : ApplyRequest) (surroundings : Surroundings) (filter : TargetFilter)
    (schema : SchemaDefinition) (clusters : List Cluster) : Action Stop Unit := do
  let plans ← request.targets surroundings filter clusters
  Stop.plainly (request.announce plans)
  request.ensureAgreed plans
  request.carryOut surroundings schema plans

/-- Do what a request asks for. -/
def run (request : ApplyRequest) (surroundings : Surroundings) : Action Stop Unit := do
  if request.workers < 1 then Stop.die "--parallel must be >= 1" Stop.usageCode
  let (filter, schema) ← Stop.expecting request.inputs
  request.ensureMeant filter
  surroundings.withClusters request.clusters (request.runOn surroundings filter schema)

end ApplyRequest

/-- Apply a schema. -/
def CommandLine.applySchema (surroundings : Surroundings) (settings : List Setting) :
    Action Stop Unit :=
  (ApplyRequest.ofSettings settings).run surroundings

end FleetSchema
