/-
**Clusters.**

A cluster has an address in normal form, the client that it is worked on with, and the logger that
its diagnostics go to. It keeps its listing of databases after the first success.

* `Cluster.make`: a cluster at an address, if the address is one;
* `Cluster.databases`: all databases, listed anew or as kept;
* `Cluster.ask`: what comes of asking for them, also when it fails.
-/

import FleetSchema.Catalogue
import FleetSchema.Cluster.Uri

namespace FleetSchema

/-- A cluster with its client. -/
structure Cluster where
  uri : String
  client : QueryClient
  logger : String
  known : Option (List String)

namespace Cluster

/-- The logger of a cluster that is given none. -/
def defaultLogger : String := "kschema.cluster"

/-- A cluster at an address. The address must name a host. -/
def make (uri : String) (client : QueryClient) (logger : String) : Except Fault Cluster :=
  (ClusterUri.name (ClusterUri.normalize uri)).map fun _ =>
    ⟨ClusterUri.normalize uri, client, logger, none⟩

/-- The short name of a cluster. -/
def name (cluster : Cluster) : Except Fault String := ClusterUri.name cluster.uri

variable [Interpreter]

/-- The databases of a cluster whose names a pattern finds. -/
def list (cluster : Cluster) (pattern : String) : Action Fault (List String) :=
  listDatabases cluster.client cluster.uri cluster.logger pattern

/-- All databases of a cluster, and the cluster that keeps them. They are listed when none are kept
yet or when that is asked for. -/
def databases (cluster : Cluster) (refresh : Bool) : Action Fault (List String × Cluster) := do
  match if refresh then none else cluster.known with
  | some names => return (names, cluster)
  | none =>
    let names ← cluster.list ""
    return (names, { cluster with known := some names })

/-- Ask a cluster for all databases. What comes of it is beside the cluster as it is then: a fault
leaves it as it was. -/
def ask (cluster : Cluster) (refresh : Bool) :
    StateM Session (Except Fault (List String) × Cluster) := do
  match ← ExceptT.run (cluster.databases refresh) with
  | .ok (names, kept) => return (.ok names, kept)
  | .error fault => return (.error fault, cluster)

theorem run_ask (cluster : Cluster) (refresh : Bool) (session : Session) :
    StateT.run (cluster.ask refresh) session =
      match (cluster.databases refresh).perform session with
      | (.ok (names, kept), reached) => ((.ok names, kept), reached)
      | (.error fault, reached) => ((.error fault, cluster), reached) := by
  unfold ask Action.perform
  rw [StateT.run_bind]
  rcases StateT.run (ExceptT.run (cluster.databases refresh)) session with
    ⟨fault | ⟨names, kept⟩, reached⟩
  · rfl
  · rfl

/-- Close the client of a cluster. -/
def close (cluster : Cluster) : Action Fault Unit := cluster.client.close

end Cluster

end FleetSchema
