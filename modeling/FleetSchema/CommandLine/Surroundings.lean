/-
**The surroundings of a command.**

A command takes its settings from variables and reaches its collaborators through its surroundings.
The clusters that a command connects to are closed when it ends, however it ends.

* `Surroundings`: what a command is run with;
* `closeAll`: what comes of closing the clusters that are registered, and those that still are then;
* `withClusters`: work on connected clusters, each address once.
-/

import FleetSchema.CommandLine.Stop
import FleetSchema.Connection
import FleetSchema.Engine
import FleetSchema.Lookup

namespace FleetSchema

/-- What a command is run with: the variables, the directory for passing files, and the ways to
clusters, tokens and programs. -/
structure Surroundings where
  named : Variables
  passing : Path
  gateway : Gateway
  credential : Except Fault String
  launch : Launcher

namespace Surroundings

/-- Surroundings in which nothing but files is in reach: clients are made, but every service, token
and program fails with this fault. -/
def offline (named : Variables) (passing : Path) (fault : Fault) : Surroundings where
  named := named
  passing := passing
  gateway := ⟨fun _ => none, fun _ => none, fun client => .answering (some client) (.error fault)⟩
  credential := .error fault
  launch := fun _ => .error fault

/-- The settings of a command. -/
def settings (surroundings : Surroundings) : Settings :=
  .load surroundings.named surroundings.passing

/-- The service that is asked for target names. -/
def lookupService (surroundings : Surroundings) : LookupService :=
  .overWeb (.float surroundings.settings.lookupPatience) LookupService.defaultLogger

/-- Where schemas are stored. -/
def store (surroundings : Surroundings) : SchemaStore :=
  ⟨surroundings.settings.workDirectory.join (.ofText "schemas"), SchemaStore.defaultLogger⟩

/-- What writes job files. -/
def jobWriter (surroundings : Surroundings) : JobWriter :=
  ⟨surroundings.settings.workDirectory.join (.ofText "jobs"),
    (AppCredentials.load surroundings.named).map AppCredentials.tokenProvider,
    JobWriter.defaultLogger⟩

/-- What generates jobs. -/
def generator (surroundings : Surroundings) : JobGenerator := surroundings.jobWriter.generator

/-- The engine that jobs are run with. -/
def engine (surroundings : Surroundings) : Engine :=
  ⟨surroundings.settings.engine, surroundings.launch, Engine.defaultLogger⟩

/-- What applies jobs. -/
def applier (surroundings : Surroundings) : SchemaApplier := surroundings.engine.applier

/-! ### Clusters -/

/-- End because a cluster cannot be connected to. -/
def connectStop {α : Type} (fault : Fault) : Action Stop α :=
  if fault.isKind .clusterUri then Stop.exitFrom fault none
  else if fault.isKind .auth then Stop.die fault.message Stop.failureCode
  else Stop.unexpected fault

/-- Connect to the clusters at addresses, as far as that succeeds. A cluster that is connected to
already is closed again. The answer keeps the connected clusters beside the end of the command, if
some cluster cannot be had. -/
def connectEach (surroundings : Surroundings) (connected : List Cluster) :
    List String → Action Stop (List Cluster × Option (Action Stop Unit))
  | [] => return (connected, none)
  | uri :: rest => do
    match ← (connect surroundings.gateway surroundings.named uri none).attempt with
    | .error fault => return (connected, some (connectStop fault))
    | .ok cluster =>
      if connected.any (·.uri == cluster.uri) then
        match ← cluster.close.attempt with
        | .error fault => return (connected, some (Stop.unexpected fault))
        | .ok () => connectEach surroundings connected rest
      else connectEach surroundings (connected ++ [cluster]) rest

/-- Close clusters one after the other. -/
def closeEach : List Cluster → Action Fault Unit
  | [] => return ()
  | cluster :: rest => do
    cluster.close
    closeEach rest

/-- Close the clusters that are registered. What comes of it is beside those that are registered
then: none, or all of them when a cluster cannot be closed. -/
def closeAll (clusters : List Cluster) : StateM Session (Except Fault Unit × List Cluster) := do
  match ← ExceptT.run (closeEach clusters) with
  | .ok () => return (.ok (), [])
  | .error fault => return (.error fault, clusters)

/-- Close the clusters that a command has registered. -/
def closeRegistered (clusters : List Cluster) : Action Fault Unit := do
  let ended ← (closeAll clusters : Action Fault (Except Fault Unit × List Cluster))
  Action.ofExcept ended.1

/-- Do work on the clusters at addresses, and close them afterwards in any case. -/
def withClusters (surroundings : Surroundings) (uris : List String)
    (work : List Cluster → Action Stop Unit) : Action Stop Unit := do
  let (clusters, ending) ← surroundings.connectEach [] uris
  Action.closing (ending.getD (work clusters)) (Stop.plainly (closeRegistered clusters))

theorem run_closeAll (clusters : List Cluster) (session : Session) :
    StateT.run (closeAll clusters) session =
      match (closeEach clusters).perform session with
      | (.ok (), last) => ((.ok (), []), last)
      | (.error fault, last) => ((.error fault, clusters), last) := by
  unfold closeAll Action.perform
  rw [StateT.run_bind]
  rcases StateT.run (ExceptT.run (closeEach clusters)) session with ⟨fault | ⟨⟩, last⟩
  · rfl
  · rfl

/-- Closing the clusters that a command has registered is closing one after the other. -/
theorem closeRegistered_eq (clusters : List Cluster) :
    closeRegistered clusters = closeEach clusters := by
  funext session
  show (closeRegistered clusters).perform session = (closeEach clusters).perform session
  unfold closeRegistered
  rw [Action.perform_bind, Action.perform_lift]
  dsimp only
  rw [Action.perform_ofExcept, run_closeAll]
  rcases (closeEach clusters).perform session with ⟨fault | ⟨⟩, last⟩
  · rfl
  · rfl

theorem withClusters_eq (surroundings : Surroundings) (uris : List String)
    (work : List Cluster → Action Stop Unit) :
    surroundings.withClusters uris work = (do
      let (clusters, ending) ← surroundings.connectEach [] uris
      Action.closing (ending.getD (work clusters)) (Stop.plainly (closeEach clusters))) := by
  unfold withClusters
  simp only [closeRegistered_eq]

end Surroundings

end FleetSchema
