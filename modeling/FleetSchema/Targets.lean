/-
**Targets.**

The targets of a cluster are the databases that a filter selects. A resolution gives all of them or
ends in a fault.

* `resolve`: the targets of one cluster;
* `resolveAll`: the targets of several clusters, up to the first fault.
-/

import FleetSchema.Cluster
import FleetSchema.Lookup

namespace FleetSchema

/-- The databases of a cluster that a change is for. -/
structure Targets where
  clusterUri : String
  databases : List String
  mode : FilterMode
  deriving DecidableEq, Repr

/-- The items that a value runs through, each at its first place. -/
def distinctItems (value : Value) : Except Defect (List Value) :=
  match value.items? with
  | none => .error (.notIterable value.formName)
  | some items =>
    match items.find? fun item => !item.isKey with
    | some item => .error (.notHashable item.formName)
    | none => .ok (uniqueBy Value.same items)

/-- The names that the answer of a lookup service runs through. -/
def answeredNames (answer : Value) : Except Fault (List String) :=
  match distinctItems answer with
  | .ok items => .ok (items.map Value.toText)
  | .error defect => .error (.defect defect)

namespace Targets

/-- Ask a lookup service for the names of a cluster. -/
def lookUp (cluster : Cluster) (filter : TargetFilter) (service : LookupService) :
    Action Fault (List String) := do
  let name ← Action.ofExcept cluster.name
  let answer ← (service.lookup filter.webhook name filter.label).onFault fun fault =>
    throw (if fault.isStated then fault else .lookupFault name filter.webhook fault)
  Action.ofExcept (answeredNames answer)

variable [Interpreter]

/-- The names that a way to select gives. -/
def source (cluster : Cluster) (filter : TargetFilter) (service : LookupService) :
    FilterMode → Action Fault (List String)
  | .singleDb => cluster.list filter.db
  | .explicitList => return filter.dbs
  | .webhook => lookUp cluster filter service
  | .all => do
    Action.log .warning cluster.logger
      ("missing db filter - taking all databases in " ++ cluster.uri) false
    cluster.list ""

/-- Warn about the ways to select that are filled in and do not count. -/
def warnIgnored (cluster : Cluster) (filter : TargetFilter) : Action Fault Unit :=
  match filter.populatedModes with
  | mode :: next :: rest =>
    Action.log .warning cluster.logger
      ("filter for " ++ cluster.uri ++ " sets several modes; using " ++ mode.word ++
        " and ignoring " ++ ", ".intercalate ((next :: rest).map FilterMode.word)) false
  | _ => return ()

/-- The fault of a resolution, written down when it is stated. -/
def resolveFault {α : Type} (cluster : Cluster) (fault : Fault) : Action Fault α := do
  if fault.isStated then
    Action.log .error cluster.logger
      ("failed retrieving list of databases for " ++ cluster.uri) false
  throw fault

end Targets

/-- The lookup service for a cluster that is given none. -/
def Cluster.lookupService (cluster : Cluster) : LookupService :=
  .overWeb Web.patience cluster.logger

variable [Interpreter]

/-- The targets of a cluster. -/
def resolve (cluster : Cluster) (filter : TargetFilter) (service : Option LookupService) :
    Action Fault Targets := do
  Targets.warnIgnored cluster filter
  let names ← (Targets.source cluster filter (service.getD cluster.lookupService)
    filter.mode).onFault (Targets.resolveFault cluster)
  return ⟨cluster.uri, unique names, filter.mode⟩

/-- The targets of several clusters, one after the other, up to the first fault. -/
def resolveAll (filter : TargetFilter) (service : Option LookupService) :
    List Cluster → Action Fault (List Targets)
  | [] => return []
  | cluster :: rest => do
    let targets ← resolve cluster filter service
    let others ← resolveAll filter service rest
    return targets :: others

end FleetSchema
