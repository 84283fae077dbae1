/-
**Rollouts on several clusters at once.**

Rollouts on several clusters concern distinct clusters, and a pool of workers shares them. Workers
take up the rollouts in the order of the plans, go on in any order, and the outcomes are collected
in any order in which they are there. The results are kept by cluster and answered in the order of
the plans.

* `Pool.moves`: the rollouts that can go on; `Pool.advance`: a rollout goes on;
* `Pool.run`: the rollouts go on, one after the other, as turns say;
* `Rollout.applyAll`: the rollouts on several clusters.
-/

import FleetSchema.Rollout

namespace FleetSchema

namespace Rollout

/-- How far a rollout has come in a pool. -/
inductive Task where
  /-- No worker has taken it up. -/
  | waiting
  /-- A worker has taken it up. -/
  | claimed
  /-- Its first half is done. -/
  | halfway (halfway : Halfway)
  /-- Its outcome is collected. -/
  | collected (outcome : Except Fault RolloutResult)

/-- Whether a task takes up a worker. -/
def Task.isBusy : Task → Bool
  | .claimed | .halfway (.built _) => true
  | _ => false

/-- Whether no worker has taken up a task. -/
def Task.isWaiting : Task → Bool
  | .waiting => true
  | _ => false

/-- The fault that was collected, if one was. -/
def Task.fault? : Task → Option Fault
  | .collected (.error fault) => some fault
  | _ => none

/-- The most moves that a task still takes. -/
def Task.left : Task → Nat
  | .waiting => 4
  | .claimed => 3
  | .halfway (.built _) => 2
  | .halfway (.ended _) => 1
  | .collected _ => 0

/-- A pool of workers: the plans with how far they have come, and the results that are collected, by
cluster and with the latest one in front. -/
structure Pool where
  workers : Value
  tasks : List (Targets × Task)
  results : List (String × RolloutResult)

namespace Pool

variable {ε : Type}

/-- A pool in which no rollout has started. -/
def submit (workers : Value) (plans : List Targets) : Pool :=
  ⟨workers, plans.map (·, .waiting), []⟩

/-! ### Moves -/

/-- Whether a worker is free. A number of workers that is no integer does not limit them. -/
def hasRoom (pool : Pool) : Bool :=
  match pool.workers.integer? with
  | some workers => (pool.tasks.countP (·.2.isBusy) : Int) < workers
  | none => true

/-- The first fault that was collected. No outcome is collected any more after it. -/
def fault? (pool : Pool) : Option Fault := pool.tasks.findSome? (·.2.fault?)

/-- Whether the rollout with a number can go on. A rollout is taken up when a worker is free and all
earlier ones are taken up. -/
def canMove (pool : Pool) (index : Nat) : Bool :=
  match pool.tasks[index]? with
  | none => false
  | some (_, .waiting) => pool.hasRoom && !(pool.tasks.take index).any (·.2.isWaiting)
  | some (_, .claimed) | some (_, .halfway (.built _)) => true
  | some (_, .halfway (.ended _)) => pool.fault?.isNone
  | some (_, .collected _) => false

/-- The numbers of the rollouts that can go on. -/
def moves (pool : Pool) : List Nat := (List.range pool.tasks.length).filter pool.canMove

/-- A pool with a rollout at another point. -/
def setTask (pool : Pool) (index : Nat) (targets : Targets) (task : Task) : Pool :=
  { pool with tasks := pool.tasks.set index (targets, task) }

/-- Collect an outcome. -/
def collect (pool : Pool) (index : Nat) (targets : Targets)
    (outcome : Except Fault RolloutResult) : Pool :=
  { pool.setTask index targets (.collected outcome) with
    results :=
      match outcome with
      | .ok result => (result.clusterUri, result) :: pool.results
      | .error _ => pool.results }

/-- The rollout with a number goes on. -/
def advance (rollout : Rollout) (pool : Pool) (index : Nat) : Action ε Pool := do
  match pool.tasks[index]? with
  | none => return pool
  | some (targets, .waiting) => return pool.setTask index targets .claimed
  | some (targets, .claimed) =>
    return pool.setTask index targets (.halfway (← rollout.prepare targets))
  | some (targets, .halfway (.built configuration)) =>
    let outcome ← rollout.complete targets configuration
    return pool.setTask index targets (.halfway (.ended outcome))
  | some (targets, .halfway (.ended outcome)) => return pool.collect index targets outcome
  | some (_, .collected _) => return pool

/-! ### Running -/

/-- The most moves that tasks still take. -/
def leftFor : List (Targets × Task) → Nat
  | [] => 0
  | (_, task) :: rest => task.left + leftFor rest

/-- The most moves that a pool still takes. -/
def left (pool : Pool) : Nat := leftFor pool.tasks

/-- Let rollouts go on as turns say, for a number of moves or until none can go on. -/
def runFor (rollout : Rollout) : Nat → Pool → Action ε Pool
  | 0, pool => return pool
  | count + 1, pool =>
    match pool.moves with
    | [] => return pool
    | first :: others => do
      let turn ← Action.nextTurn
      let next ← pool.advance rollout ((first :: others).getD turn first)
      runFor rollout count next

/-- Let rollouts go on until none can. -/
def run (rollout : Rollout) (pool : Pool) : Action ε Pool := pool.runFor rollout pool.left

/-! ### Answers -/

/-- The result of a cluster. -/
def resultOf (pool : Pool) (uri : String) : Except Fault RolloutResult :=
  match pool.results.find? (·.1 == uri) with
  | some (_, result) => .ok result
  | none => .error (.defect (.missingKey (.text uri)))

/-- The results of clusters. -/
def resultsOf (pool : Pool) : List String → Except Fault (List RolloutResult)
  | [] => .ok []
  | uri :: rest => do
    let result ← pool.resultOf uri
    let others ← pool.resultsOf rest
    return result :: others

/-- What a pool answers in the end: the results in the order of the plans, or the fault that was
collected. -/
def answer (pool : Pool) : Except Fault (List RolloutResult) :=
  match pool.fault? with
  | some fault => .error fault
  | none => pool.resultsOf (pool.tasks.map (·.1.clusterUri))

end Pool

/-! ### Several clusters -/

/-- Whether a number of workers is below one. -/
def belowOne : Value → Bool
  | .bool value => !value
  | .int value => value < 1
  | .float value => value.lt (.ofInt 1)
  | _ => true

/-- Whether no two plans share a cluster. -/
def areDistinct (plans : List Targets) : Bool :=
  (unique (plans.map Targets.clusterUri)).length == plans.length

/-- Roll out to the targets of several clusters with a number of workers. -/
def applyAll (rollout : Rollout) (workers : Value) (plans : List Targets) :
    Action Fault (List RolloutResult) := do
  if belowOne workers then throw (.defect .noWorkers)
  unless areDistinct plans do throw (.defect .sharedCluster)
  if plans.isEmpty then return []
  Action.call (.pooled workers)
  let pool ← (Pool.submit workers plans).run rollout
  Action.ofExcept pool.answer

end Rollout

end FleetSchema
