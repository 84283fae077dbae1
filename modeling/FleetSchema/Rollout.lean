/-
**Rollouts.**

A rollout brings the targets of one cluster to a stored schema: it builds a configuration and
executes it, unless it is a dry run. What goes wrong on one cluster is kept in its result, so that
it does not hide the outcome of the others.

* `Rollout.prepare`, `complete`: the two halves of a rollout, up to the job and from there on;
* `Rollout.apply`: the rollout on one cluster.
-/

import FleetSchema.Execution

namespace FleetSchema

/-- The outcome of a rollout on one cluster. -/
inductive RolloutStatus where
  /-- The job was generated and applied. -/
  | success
  /-- Building or applying failed. -/
  | failed
  /-- The job was generated and not applied. -/
  | skipped
  deriving DecidableEq, Repr

/-- The word of an outcome. -/
def RolloutStatus.word : RolloutStatus → String
  | .success => "SUCCESS"
  | .failed => "FAILED"
  | .skipped => "SKIPPED"

/-- The result of a rollout on one cluster. -/
structure RolloutResult where
  clusterUri : String
  status : RolloutStatus
  databases : List String
  jobFile : Option String
  error : Option String
  deriving DecidableEq, Repr

/-- What a rollout is done with. -/
structure Rollout where
  schemaFile : Value
  generator : JobGenerator
  applier : SchemaApplier
  lossFlag : Value
  dryRun : Bool

namespace Rollout

/-- What the first half of a rollout comes to. -/
inductive Halfway where
  /-- The configuration is built and still to be executed. -/
  | built (configuration : Configuration)
  /-- Nothing is left to be done. -/
  | ended (outcome : Except Fault RolloutResult)

variable {ε : Type}

/-- The result for targets. -/
def result (targets : Targets) (status : RolloutStatus) (job error : Option String) :
    RolloutResult :=
  ⟨targets.clusterUri, status, targets.databases, job, error⟩

/-- The failure that a stated fault gives; a defect is passed on. -/
def failure (targets : Targets) (job : Option String) (fault : Fault) :
    Except Fault RolloutResult :=
  if fault.isStated then .ok (result targets .failed job (some fault.message)) else .error fault

/-- Build the configuration for the targets of one cluster. A dry run ends there. -/
def prepare (rollout : Rollout) (targets : Targets) : Action ε Halfway := do
  match ← (Configuration.build rollout.generator targets.clusterUri targets.databases
      rollout.schemaFile rollout.lossFlag).attempt with
  | .error fault => return .ended (failure targets none fault)
  | .ok configuration =>
    if rollout.dryRun then
      return .ended (.ok (result targets .skipped (some configuration.jobFile) none))
    else return .built configuration

/-- Execute the configuration for the targets of one cluster. -/
def complete (rollout : Rollout) (targets : Targets) (configuration : Configuration) :
    Action ε (Except Fault RolloutResult) := do
  match ← (configuration.execute rollout.applier).attempt with
  | .error fault => return failure targets (some configuration.jobFile) fault
  | .ok () => return .ok (result targets .success (some configuration.jobFile) none)

/-- Roll out to the targets of one cluster. -/
def apply (rollout : Rollout) (targets : Targets) : Action Fault RolloutResult := do
  match ← rollout.prepare targets with
  | .ended outcome => Action.ofExcept outcome
  | .built configuration => Action.ofExcept (← rollout.complete targets configuration)

end Rollout

end FleetSchema
