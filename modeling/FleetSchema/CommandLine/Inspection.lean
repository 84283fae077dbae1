/-
**Commands that change nothing.**

The databases of clusters, the targets of a filter and the groups of a registry are looked up and
shown as tables.

* `listDatabases`, `resolveTargets`, `listGroups`: the commands.
-/

import FleetSchema.CommandLine.Surroundings
import FleetSchema.Console.Table
import FleetSchema.Registry

namespace FleetSchema

namespace Arguments

/-- The selection that settings make. -/
def selection (settings : List Setting) : Selection where
  db := lastText settings .db
  names := texts settings .dbs
  webhook := lastText settings .webhook
  label := lastText settings .label
  selectAll := lastSwitch settings .selectAll false

end Arguments

namespace CommandLine

variable [Interpreter]

/-! ### Databases -/

/-- The databases of a cluster that are asked for. Without a pattern all of them are. -/
def databasesOn (cluster : Cluster) (pattern : String) : Action Fault (List String) :=
  if pattern.isEmpty then return (← cluster.databases false).1 else cluster.list pattern

/-- Show the databases of a cluster. -/
def showDatabasesOn (cluster : Cluster) (pattern : String) : Action Stop Unit := do
  let name ← Stop.plainly (Action.ofExcept cluster.name)
  let names ← Stop.expecting
    (Console.status ("Listing databases on " ++ name ++ "...") (databasesOn cluster pattern))
  Stop.plainly (if names.isEmpty then Console.warn ("No databases matched on " ++ cluster.uri)
    else Console.table (.ofDatabases Table.databasesTitle cluster.uri names))

/-- Show the databases of clusters, one after the other. -/
def showDatabasesOnEach (pattern : String) : List Cluster → Action Stop Unit
  | [] => return ()
  | cluster :: rest => do
    showDatabasesOn cluster pattern
    showDatabasesOnEach pattern rest

/-- List the databases of clusters. -/
def listDatabases (surroundings : Surroundings) (settings : List Setting) :
    Action Stop Unit := do
  let pattern := (Arguments.lastText settings .name).getD ""
  let _ ← Stop.expectingOutcome (compileNamePattern pattern)
  surroundings.withClusters (Arguments.texts settings .cluster) (showDatabasesOnEach pattern)

/-! ### Targets -/

/-- The targets of clusters, looked up under an announcement. -/
def plan (surroundings : Surroundings) (filter : TargetFilter) (clusters : List Cluster) :
    Action Stop (List Targets) :=
  Stop.expecting (Console.status "Resolving targets..."
    (resolveAll filter (some surroundings.lookupService) clusters))

/-- Show the targets that a filter gives. -/
def resolveTargets (surroundings : Surroundings) (settings : List Setting) :
    Action Stop Unit := do
  let filter ← Stop.expectingOutcome (Arguments.selection settings).filter
  if filter.mode == .all then
    Stop.plainly (Console.warn "No filter given: every database of each cluster is selected.")
  surroundings.withClusters (Arguments.texts settings .cluster) fun clusters => do
    let plans ← plan surroundings filter clusters
    Stop.plainly (Console.table (.ofTargets "Resolved targets" (plans.map Targets.row)))

/-! ### Registries -/

/-- List the groups of a registry. -/
def listGroups (surroundings : Surroundings) (settings : List Setting) : Action Stop Unit := do
  let credential := if Arguments.lastSwitch settings .anonymous false then none
    else some surroundings.credential
  let registry := Registry.make ((Arguments.lastText settings .endpoint).getD "") credential
    Web.patience
  let groups ← Stop.expecting (Console.status "Loading schema groups..." registry.groups)
  if groups.isEmpty then Stop.warnExit "No schema groups found" 0
  Stop.plainly (Console.table (.ofGroups Table.groupsTitle groups))

end CommandLine

end FleetSchema
