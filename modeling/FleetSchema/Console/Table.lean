/-
**Tables on the console.**

Databases, targets, rollout results and schema groups are shown as tables, one row for each. Columns
that would be of no use when broken over lines are kept unbroken, and counts stand to the right.

* `ofDatabases`, `ofTargets`, `ofResults`, `ofGroups`: the tables.
-/

import FleetSchema.Console
import FleetSchema.Rollout

namespace FleetSchema

/-- A column without a tone. -/
def Column.plain (header : String) : Column := ⟨header, "", false, false⟩

/-- A column in a tone. -/
def Column.toned (header : String) (tone : Tone) : Column := ⟨header, tone.word, false, false⟩

/-- A column in a tone that is not broken over lines. -/
def Column.whole (header : String) (tone : Tone) : Column := ⟨header, tone.word, false, true⟩

/-- A column of counts. -/
def Column.counts (header : String) : Column := ⟨header, "", true, false⟩

/-- What a row of targets shows. -/
structure TargetsRow where
  clusterUri : String
  mode : String
  databases : List String
  deriving DecidableEq, Repr

/-- The row of targets. -/
def Targets.row (targets : Targets) : TargetsRow :=
  ⟨targets.clusterUri, targets.mode.word, targets.databases⟩

/-- What a row of rollout results shows. -/
structure ResultRow where
  clusterUri : String
  databases : List String
  status : String
  jobFile : String
  error : String
  deriving DecidableEq, Repr

/-- The row of a rollout result. -/
def RolloutResult.row (result : RolloutResult) : ResultRow :=
  ⟨result.clusterUri, result.databases, result.status.word, result.jobFile.getD "",
    result.error.getD ""⟩

namespace Table

/-! ### Databases -/

/-- The rows of names, numbered from a number on. -/
def numberedRows (number : Nat) : List String → List (List String)
  | [] => []
  | name :: rest => [toString number, name] :: numberedRows (number + 1) rest

/-- The databases of a cluster, numbered from one. -/
def ofDatabases (title uri : String) (names : List String) : Table :=
  ⟨title ++ " (" ++ uri ++ ")", false, [.whole "#" .aside, .toned "Database" .ok],
    numberedRows 1 names⟩

/-- The title of a table of databases. -/
def databasesTitle : String := "Databases"

/-! ### Targets -/

/-- The names of databases in one cell. -/
def namesCell (names : List String) : String :=
  let text := ", ".intercalate names
  if text.isEmpty then Tone.warn.paint "(none)" else text

/-- The cells of targets. -/
def targetCells (row : TargetsRow) : List String :=
  [row.clusterUri, row.mode, toString row.databases.length, namesCell row.databases]

/-- The targets of clusters. -/
def ofTargets (title : String) (rows : List TargetsRow) : Table :=
  ⟨title, true, [.whole "Cluster" .ok, .toned "Mode" .aside, .counts "Count", .plain "Databases"],
    rows.map targetCells⟩

/-- The title of a table of targets. -/
def targetsTitle : String := "Targets"

/-! ### Rollout results -/

/-- The tone of a rollout status. -/
def statusTone (status : String) : Tone :=
  if status == RolloutStatus.success.word then .ok
  else if status == RolloutStatus.skipped.word then .warn
  else if status == RolloutStatus.failed.word then .err
  else .aside

/-- The cells of a rollout result. -/
def resultCells (row : ResultRow) : List String :=
  [row.clusterUri, toString row.databases.length, (statusTone row.status).paintNamed row.status,
    row.jobFile, row.error]

/-- The results of rollouts. -/
def ofResults (title : String) (rows : List ResultRow) : Table :=
  ⟨title, false, [.whole "Cluster" .ok, .counts "Databases", .plain "Status",
    .toned "Job file" .aside, .toned "Error" .err], rows.map resultCells⟩

/-- The title of a table of rollout results. -/
def resultsTitle : String := "Rollout results"

/-! ### Schema groups -/

/-- The groups of a registry. -/
def ofGroups (title : String) (groups : List String) : Table :=
  ⟨title, false, [.toned "Group" .ok], groups.map fun group => [group]⟩

/-- The title of a table of schema groups. -/
def groupsTitle : String := "Schema groups"

end Table

/-- Print a table. -/
def Console.table (table : Table) : Action Fault Unit := Action.tell (.table table)

end FleetSchema
