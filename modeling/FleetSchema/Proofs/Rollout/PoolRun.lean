/-
**How a pool of rollouts runs.**

* `advance_step`: a rollout that can go on does so in one of four ways, and no fault gets out;
* `run_induction`: what every step keeps holds when the pool has come to rest, and it does come to
  rest;
* `exists_turn`: whichever rollout can go on, some turn lets it go on first;
* `Sound`: every outcome is a result of its own cluster, and collected results are found under their
  clusters;
* `answer_of_rest`: a sound pool at rest has collected everything and answers in the order of the
  plans.
-/

import FleetSchema.Proofs.Rollout.Outcome
import FleetSchema.Rollout.Pool
import Mathlib.Data.List.Forall2
import Mathlib.Data.List.GetD
import Mathlib.Data.List.Nodup

namespace FleetSchema.Rollout

/-- The outcome that a task has come to. -/
def Task.outcome? : Task → Option (Except Fault RolloutResult)
  | .halfway (.ended outcome) | .collected outcome => some outcome
  | _ => none

namespace Pool

/-! ### Steps -/

/-- The ways in which the rollout with a number goes on. -/
inductive Step (rollout : Rollout) (file : String) (pool : Pool) (session : Session) (index : Nat) :
    Pool → Session → Prop
  | claim {targets : Targets} (found : pool.tasks[index]? = some (targets, .waiting)) :
    Step rollout file pool session index (pool.setTask index targets .claimed) session
  | prepare {targets : Targets} (found : pool.tasks[index]? = some (targets, .claimed)) :
    Step rollout file pool session index
      (pool.setTask index targets
        (.halfway (rollout.halfwayOf targets file (rollout.asked targets file session).1)))
      (notingUnbuilt targets.clusterUri (rollout.asked targets file session).1
        (rollout.asked targets file session).2)
  | complete {targets : Targets} {configuration : Configuration}
      (found : pool.tasks[index]? = some (targets, .halfway (.built configuration))) :
    Step rollout file pool session index
      (pool.setTask index targets (.halfway (.ended (.ok (completed targets configuration.jobFile
        configuration.clusterUri (rollout.applied configuration session).1)))))
      (notingUnapplied configuration.clusterUri (rollout.applied configuration session).1
        (rollout.applied configuration session).2)
  | collect {targets : Targets} {outcome : Except Fault RolloutResult}
      (found : pool.tasks[index]? = some (targets, .halfway (.ended outcome))) :
    Step rollout file pool session index (pool.collect index targets outcome) session

variable {ε : Type} {rollout : Rollout} {file : String} {pool next : Pool}
  {session reached : Session} {index : Nat}

theorem mem_moves : index ∈ pool.moves ↔ pool.canMove index = true := by
  unfold moves
  rw [List.mem_filter, List.mem_range]
  refine ⟨fun member => member.2, fun can => ⟨?_, can⟩⟩
  by_contra beyond
  have absent : pool.tasks[index]? = none := List.getElem?_eq_none (Nat.le_of_not_lt beyond)
  rw [canMove, absent] at can
  cases can

/-- A rollout that can go on does so. -/
theorem advance_step (ε : Type) (session : Session) (stored : rollout.schemaFile = .path file)
    (can : index ∈ pool.moves) :
    ∃ next reached, (pool.advance rollout index : Action ε Pool).perform session =
      (.ok next, reached) ∧ Step rollout file pool session index next reached := by
  rw [mem_moves, canMove] at can
  unfold advance
  cases found : pool.tasks[index]? with
  | none =>
    rw [found] at can
    cases can
  | some entry =>
    obtain ⟨targets, task⟩ := entry
    cases task with
    | waiting => exact ⟨_, _, rfl, .claim found⟩
    | claimed =>
      dsimp only
      rw [Action.perform_bind, perform_prepare rollout targets session file stored]
      exact ⟨_, _, rfl, .prepare found⟩
    | halfway halfway =>
      cases halfway with
      | built configuration =>
        dsimp only
        rw [Action.perform_bind, perform_complete]
        exact ⟨_, _, rfl, .complete found⟩
      | ended outcome => exact ⟨_, _, rfl, .collect found⟩
    | collected outcome =>
      rw [found] at can
      cases can

/-! ### Coming to rest -/

theorem leftFor_set_lt {tasks : List (Targets × Task)} {targets : Targets} {task later : Task}
    (place : Nat) (found : tasks[place]? = some (targets, task)) (lower : later.left < task.left) :
    leftFor (tasks.set place (targets, later)) < leftFor tasks := by
  induction tasks generalizing place with
  | nil => cases found
  | cons first rest ih =>
    cases place with
    | zero =>
      obtain rfl : first = (targets, task) := Option.some.inj found
      rw [List.set_cons_zero, leftFor, leftFor]
      omega
    | succ place =>
      have smaller := ih place found
      rw [List.set_cons_succ, leftFor, leftFor]
      omega

theorem left_setTask_lt {targets : Targets} {task later : Task}
    (found : pool.tasks[index]? = some (targets, task)) (lower : later.left < task.left) :
    (pool.setTask index targets later).left < pool.left :=
  leftFor_set_lt index found lower

theorem Step.left_lt (step : Step rollout file pool session index next reached) :
    next.left < pool.left := by
  cases step with
  | claim found => exact left_setTask_lt found (by decide)
  | prepare found =>
    refine left_setTask_lt found ?_
    cases rollout.halfwayOf _ file _ with
    | built configuration => exact Nat.lt_succ_self 2
    | ended outcome => exact Nat.lt_of_sub_eq_succ rfl
  | complete found => exact left_setTask_lt found (Nat.lt_succ_self 1)
  | collect found => exact left_setTask_lt found (Nat.lt_succ_self 0)

/-- Whichever rollout can go on, some turn lets it go on first. -/
theorem exists_turn (ε : Type) (can : index ∈ pool.moves) (count : Nat) (turns : List Nat) :
    ∃ turn, ∀ session : Session,
      (pool.runFor rollout (count + 1) : Action ε Pool).perform
          { session with turns := turn :: turns } =
        (pool.advance rollout index >>= runFor rollout count : Action ε Pool).perform
          { session with turns := turns } := by
  cases here : pool.moves with
  | nil =>
    rw [here] at can
    cases can
  | cons first others =>
    rw [here] at can
    obtain ⟨turn, inside, same⟩ := List.mem_iff_getElem.mp can
    refine ⟨turn, fun session => ?_⟩
    have chosen : (first :: others).getD turn first = index := by
      rw [List.getD_eq_getElem _ _ inside, same]
    rw [Pool.runFor, here]
    dsimp only
    rw [Action.perform_bind, Action.perform_nextTurn]
    dsimp only [List.headD_cons, List.tail_cons]
    rw [chosen]

theorem getD_mem (first : Nat) (others : List Nat) (turn : Nat) :
    (first :: others).getD turn first ∈ first :: others := by
  by_cases inside : turn < (first :: others).length
  · rw [List.getD_eq_getElem _ _ inside]
    exact List.getElem_mem inside
  · rw [List.getD_eq_default _ _ (Nat.le_of_not_lt inside)]
    exact List.mem_cons_self

/-- **What every step keeps holds at rest**, and a pool comes to rest. -/
theorem run_induction (ε : Type) (Holds : Pool → Session → Prop)
    (stored : rollout.schemaFile = .path file)
    (turn : ∀ pool session turns, Holds pool session → Holds pool { session with turns := turns })
    (step : ∀ pool session index next reached, Holds pool session → index ∈ pool.moves →
      Step rollout file pool session index next reached → Holds next reached)
    (holds : Holds pool session) :
    ∃ final reached, (pool.run rollout : Action ε Pool).perform session = (.ok final, reached) ∧
      Holds final reached ∧ final.moves = [] := by
  have runFor : ∀ count (pool : Pool) (session : Session), pool.left ≤ count →
      Holds pool session →
      ∃ final reached, (pool.runFor rollout count : Action ε Pool).perform session =
        (.ok final, reached) ∧ Holds final reached ∧ final.moves = [] := by
    -- every step leaves fewer moves, so a count that is enough stays so
    intro count
    induction count with
    | zero =>
      intro pool session enough holds
      refine ⟨pool, session, rfl, holds, ?_⟩
      rw [List.eq_nil_iff_forall_not_mem]
      intro index can
      obtain ⟨next, reached, _, moved⟩ := advance_step ε session stored can
      have lower := moved.left_lt
      omega
    | succ count ih =>
      intro pool session enough holds
      cases here : pool.moves with
      | nil =>
        refine ⟨pool, session, ?_, holds, here⟩
        rw [Pool.runFor, here]
        rfl
      | cons first others =>
        have can := getD_mem first others (session.turns.headD 0)
        rw [← here] at can
        obtain ⟨next, reached, advanced, moved⟩ := advance_step ε
          { session with turns := session.turns.tail } stored can
        have lower := moved.left_lt
        obtain ⟨final, last, ran, kept, rest⟩ := ih next reached (by omega)
          (step _ _ _ _ _ (turn _ _ _ holds) can moved)
        refine ⟨final, last, ?_, kept, rest⟩
        rw [Pool.runFor, here]
        dsimp only
        rw [Action.perform_bind, Action.perform_nextTurn]
        dsimp only
        rw [Action.perform_bind, ← here, advanced]
        exact ran
  exact runFor pool.left pool session (Nat.le_refl _) holds

/-! ### Sound pools -/

/-- Every outcome is a result of its own cluster, and a collected result is found under its
cluster. -/
structure Sound (workers : Value) (plans : List Targets) (pool : Pool) : Prop where
  workers : pool.workers = workers
  plans : pool.tasks.map Prod.fst = plans
  outcomes : ∀ (place : Nat) (targets : Targets) (task : Task)
    (outcome : Except Fault RolloutResult), pool.tasks[place]? = some (targets, task) →
    task.outcome? = some outcome →
      ∃ result, outcome = .ok result ∧ result.clusterUri = targets.clusterUri
  results : ∀ (place : Nat) (targets : Targets) (result : RolloutResult),
    pool.tasks[place]? = some (targets, .collected (.ok result)) →
      pool.results.find? (·.1 == targets.clusterUri) = some (targets.clusterUri, result)

theorem getElem?_setTask {targets other : Targets} {task later : Task} {place : Nat}
    (found : (pool.setTask index targets later).tasks[place]? = some (other, task)) :
    (place = index ∧ other = targets ∧ task = later) ∨
      (place ≠ index ∧ pool.tasks[place]? = some (other, task)) := by
  unfold setTask at found
  dsimp only at found
  by_cases same : place = index
  · subst same
    rw [List.getElem?_set_self'] at found
    obtain ⟨entry, _, pair⟩ := Option.map_eq_some_iff.mp found
    cases pair
    exact Or.inl ⟨rfl, rfl, rfl⟩
  · rw [List.getElem?_set_ne (fun equal => same equal.symm)] at found
    exact Or.inr ⟨same, found⟩

theorem plans_setTask {targets : Targets} {task : Task} (later : Task)
    (found : pool.tasks[index]? = some (targets, task)) :
    (pool.setTask index targets later).tasks.map Prod.fst = pool.tasks.map Prod.fst := by
  unfold setTask
  dsimp only
  rw [List.map_set]
  have here : (pool.tasks.map Prod.fst)[index]? = some targets := by
    rw [List.getElem?_map, found]
    rfl
  obtain ⟨inside, same⟩ := List.getElem?_eq_some_iff.mp here
  rw [← same, List.set_getElem_self]

theorem Sound.setTask {workers : Value} {plans : List Targets}
    (sound : Sound workers plans pool) {targets : Targets} {task later : Task}
    (found : pool.tasks[index]? = some (targets, task))
    (own : ∀ outcome, later.outcome? = some outcome →
      ∃ result, outcome = .ok result ∧ result.clusterUri = targets.clusterUri)
    (open_ : ∀ outcome, later ≠ .collected outcome) :
    Sound workers plans (pool.setTask index targets later) where
  workers := sound.workers
  plans := (plans_setTask later found).trans sound.plans
  outcomes place other current outcome foundLater isOutcome := by
    obtain ⟨_, rfl, rfl⟩ | ⟨_, before⟩ := getElem?_setTask foundLater
    · exact own outcome isOutcome
    · exact sound.outcomes place other current outcome before isOutcome
  results place other result foundLater := by
    obtain ⟨_, _, same⟩ | ⟨_, before⟩ := getElem?_setTask foundLater
    · exact absurd same.symm (open_ _)
    · exact sound.results place other result before

/-- Plans of different numbers concern different clusters. -/
theorem Sound.uri_ne {workers : Value} {plans : List Targets} (sound : Sound workers plans pool)
    (distinct : (plans.map Targets.clusterUri).Nodup) {first second : Nat}
    {targets other : Targets} {task current : Task} (different : first ≠ second)
    (foundFirst : pool.tasks[first]? = some (targets, task))
    (foundSecond : pool.tasks[second]? = some (other, current)) :
    targets.clusterUri ≠ other.clusterUri := by
  intro same
  rw [← sound.plans, List.map_map] at distinct
  have inside : first < (pool.tasks.map (Targets.clusterUri ∘ Prod.fst)).length := by
    rw [List.length_map]
    exact (List.getElem?_eq_some_iff.mp foundFirst).1
  refine different ((List.getElem?_inj inside distinct).mp ?_)
  rw [List.getElem?_map, List.getElem?_map, foundFirst, foundSecond]
  exact congrArg some same

theorem Sound.collect {workers : Value} {plans : List Targets}
    (sound : Sound workers plans pool)
    (distinct : (plans.map Targets.clusterUri).Nodup) {targets : Targets}
    {outcome : Except Fault RolloutResult}
    (found : pool.tasks[index]? = some (targets, .halfway (.ended outcome))) :
    Sound workers plans (pool.collect index targets outcome) := by
  obtain ⟨result, rfl, ownUri⟩ := sound.outcomes _ _ _ _ found rfl
  refine ⟨sound.workers, (plans_setTask _ found).trans sound.plans, ?_, ?_⟩
  · intro place other current outcome foundLater isOutcome
    obtain ⟨_, rfl, rfl⟩ | ⟨_, before⟩ := getElem?_setTask foundLater
    · cases isOutcome
      exact ⟨result, rfl, ownUri⟩
    · exact sound.outcomes place other current outcome before isOutcome
  · intro place other kept foundLater
    unfold Pool.collect
    dsimp only
    obtain ⟨_, rfl, same⟩ | ⟨elsewhere, before⟩ := getElem?_setTask foundLater
    · cases same
      rw [List.find?_cons, ownUri, beq_self_eq_true]
    · have otherUri := sound.uri_ne distinct elsewhere before found
      rw [List.find?_cons, ownUri, beq_false_of_ne otherUri.symm]
      exact sound.results place other kept before

/-- A step keeps a pool sound. -/
theorem Step.sound {workers : Value} {plans : List Targets}
    (step : Step rollout file pool session index next reached)
    (distinct : (plans.map Targets.clusterUri).Nodup) (sound : Sound workers plans pool) :
    Sound workers plans next := by
  cases step with
  | claim found =>
    refine sound.setTask found ?_ (by rintro _ ⟨⟩)
    rintro _ ⟨⟩
  | prepare found =>
    refine sound.setTask found ?_ (by rintro _ ⟨⟩)
    unfold halfwayOf
    intro outcome isOutcome
    split at isOutcome
    · cases isOutcome
      exact ⟨_, rfl, rfl⟩
    · split at isOutcome
      · cases isOutcome
        exact ⟨_, rfl, rfl⟩
      · cases isOutcome
  | complete found =>
    refine sound.setTask found ?_ (by rintro _ ⟨⟩)
    rintro _ ⟨⟩
    refine ⟨_, rfl, ?_⟩
    unfold completed
    split
    · rfl
    · rfl
  | collect found => exact sound.collect distinct found

theorem sound_submit (workers : Value) (plans : List Targets) :
    Sound workers plans (submit workers plans) where
  workers := rfl
  plans := by
    unfold submit
    rw [List.map_map]
    exact List.map_id _
  outcomes place targets task outcome found isOutcome := by
    unfold submit at found
    rw [List.getElem?_map] at found
    obtain ⟨_, _, pair⟩ := Option.map_eq_some_iff.mp found
    cases pair
    cases isOutcome
  results place targets result found := by
    unfold submit at found
    rw [List.getElem?_map] at found
    obtain ⟨_, _, pair⟩ := Option.map_eq_some_iff.mp found
    cases pair

/-! ### Rest -/

section Rest

variable {workers : Value} {plans : List Targets}

theorem Sound.fault?_eq_none (sound : Sound workers plans pool) : pool.fault? = none := by
  unfold fault?
  rw [List.findSome?_eq_none_iff]
  rintro ⟨targets, task⟩ member
  obtain ⟨place, found⟩ := List.mem_iff_getElem?.mp member
  cases task with
  | collected outcome =>
    obtain ⟨result, rfl, _⟩ := sound.outcomes _ _ _ _ found rfl
    rfl
  | waiting | claimed | halfway => rfl

theorem not_busy_of_rest (rest : pool.moves = []) : pool.tasks.countP (·.2.isBusy) = 0 := by
  rw [List.countP_eq_zero]
  rintro ⟨targets, task⟩ member busy
  obtain ⟨place, found⟩ := List.mem_iff_getElem?.mp member
  have can : place ∈ pool.moves := by
    rw [mem_moves, canMove, found]
    cases task with
    | claimed => rfl
    | halfway halfway =>
      cases halfway with
      | built configuration => rfl
      | ended outcome => cases busy
    | waiting | collected => cases busy
  rw [rest] at can
  cases can

theorem Sound.hasRoom (sound : Sound workers plans pool)
    (enough : ∀ count, workers.integer? = some count → 1 ≤ count) (rest : pool.moves = []) :
    pool.hasRoom = true := by
  unfold Pool.hasRoom
  rw [sound.workers, not_busy_of_rest rest]
  split
  · rename_i count isCount
    have := enough count isCount
    exact decide_eq_true (by omega)
  · rfl

/-- Nobody waits for ever: the first of those who wait could go on. -/
theorem Sound.not_waiting (sound : Sound workers plans pool)
    (enough : ∀ count, workers.integer? = some count → 1 ≤ count) (rest : pool.moves = [])
    (place : Nat) (targets : Targets) : pool.tasks[place]? ≠ some (targets, .waiting) := by
  induction place using Nat.strongRecOn generalizing targets with
  | ind place earlier =>
    intro found
    have none : (pool.tasks.take place).any (·.2.isWaiting) = false := by
      rw [List.any_eq_false]
      rintro ⟨other, task⟩ member waits
      obtain ⟨before, foundBefore⟩ := List.mem_iff_getElem?.mp member
      rw [List.getElem?_take] at foundBefore
      split at foundBefore
      · rename_i lower
        cases task with
        | waiting => exact earlier before lower other foundBefore
        | claimed | halfway | collected => cases waits
      · cases foundBefore
    have can : place ∈ pool.moves := by
      rw [mem_moves, canMove, found]
      dsimp only
      rw [sound.hasRoom enough rest, none]
      rfl
    rw [rest] at can
    cases can

/-- At rest every outcome is collected. -/
theorem Sound.collected_of_rest (sound : Sound workers plans pool)
    (enough : ∀ count, workers.integer? = some count → 1 ≤ count) (rest : pool.moves = [])
    {place : Nat} {targets : Targets} {task : Task}
    (found : pool.tasks[place]? = some (targets, task)) :
    ∃ result, task = .collected (.ok result) := by
  have still : pool.canMove place = false := by
    rw [← Bool.not_eq_true, ← mem_moves, rest]
    exact List.not_mem_nil
  rw [canMove, found] at still
  cases task with
  | waiting => exact absurd found (sound.not_waiting enough rest place targets)
  | claimed => cases still
  | halfway halfway =>
    cases halfway with
    | built configuration => cases still
    | ended outcome =>
      dsimp only at still
      rw [sound.fault?_eq_none] at still
      cases still
  | collected outcome =>
    obtain ⟨result, rfl, _⟩ := sound.outcomes _ _ _ _ found rfl
    exact ⟨result, rfl⟩

theorem exists_forall₂ {α β : Type} {related : α → β → Prop} {items : List α}
    (each : ∀ item ∈ items, ∃ other, related item other) :
    ∃ others, List.Forall₂ related items others := by
  induction items with
  | nil => exact ⟨[], .nil⟩
  | cons item rest ih =>
    obtain ⟨other, here⟩ := each item List.mem_cons_self
    obtain ⟨others, behind⟩ := ih fun later member => each later (List.mem_cons_of_mem _ member)
    exact ⟨other :: others, .cons here behind⟩

theorem resultsOf_eq_ok {uris : List String} {results : List RolloutResult}
    (each : List.Forall₂ (fun uri result => pool.resultOf uri = .ok result) uris results) :
    pool.resultsOf uris = .ok results := by
  induction each with
  | nil => rfl
  | cons here _ ih =>
    rw [resultsOf, here, ih]
    rfl

/-- **A sound pool at rest answers** with the collected results, in the order of the plans. -/
theorem answer_of_rest (sound : Sound workers plans pool)
    (enough : ∀ count, workers.integer? = some count → 1 ≤ count) (rest : pool.moves = []) :
    ∃ results, pool.answer = .ok results ∧
      List.Forall₂ (fun (entry : Targets × Task) result => entry.2 = .collected (.ok result))
        pool.tasks results := by
  have each : ∀ entry ∈ pool.tasks, ∃ result,
      entry.2 = .collected (.ok result) ∧ pool.resultOf entry.1.clusterUri = .ok result := by
    rintro ⟨targets, task⟩ member
    obtain ⟨place, found⟩ := List.mem_iff_getElem?.mp member
    obtain ⟨result, rfl⟩ := sound.collected_of_rest enough rest found
    refine ⟨result, rfl, ?_⟩
    rw [resultOf, sound.results place targets result found]
  obtain ⟨results, matched⟩ := exists_forall₂ each
  refine ⟨results, ?_, matched.imp fun _ _ both => both.1⟩
  unfold answer
  rw [sound.fault?_eq_none]
  dsimp only
  apply resultsOf_eq_ok
  rw [List.forall₂_map_left_iff]
  exact matched.imp fun _ _ both => both.2

/-- What a sound pool has collected is for its plans. -/
theorem Sound.answered {results : List RolloutResult} (sound : Sound workers plans pool)
    (matched : List.Forall₂ (fun (entry : Targets × Task) result =>
      entry.2 = .collected (.ok result)) pool.tasks results) :
    List.Forall₂ (fun targets result => result.clusterUri = targets.clusterUri) plans results := by
  have own : ∀ entry ∈ pool.tasks, ∀ outcome, entry.2.outcome? = some outcome →
      ∃ result, outcome = .ok result ∧ result.clusterUri = entry.1.clusterUri := by
    intro entry member outcome isOutcome
    obtain ⟨place, found⟩ := List.mem_iff_getElem?.mp member
    exact sound.outcomes place entry.1 entry.2 outcome found isOutcome
  rw [← sound.plans, List.forall₂_map_left_iff]
  refine ((List.forall₂_and_left _ _).mpr ⟨own, matched⟩).imp ?_
  rintro ⟨targets, task⟩ result ⟨isResult, rfl⟩
  obtain ⟨_, isOk, sameUri⟩ := isResult _ rfl
  cases isOk
  exact sameUri

end Rest

end Pool

end FleetSchema.Rollout
