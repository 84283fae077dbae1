/-
**What rollouts may do to a session.**

A rollout does what its generator and its applier do, apart from diagnostics, and a dry run does not
get to the applier.

* `WellPosed`: what rollouts on several clusters rely on;
* `Step.extends`: what one step of a pool does;
* `within_applyAll`: what rollouts on several clusters do;
* `within_generator`, `within_applier`: the job writer only writes files, the engine is a program
  that is started.
-/

import FleetSchema.Engine
import FleetSchema.Proofs.CommandLine.Stages
import FleetSchema.Proofs.Rollout.PoolRun

namespace FleetSchema

open FleetSchema.Action

variable {kinds : List EventKind} {writes : Bool}

/-! ### Diagnostics on the way -/

theorem kind_idleRecord (uri : String) : (Event.log (idleRecord uri)).kind = .idle := by
  have idle : warnsIdle (idleRecord uri).message = true := by
    unfold warnsIdle ClusterUri.startsAs idleRecord idleStart
    simp only [String.toList_append, List.append_assoc]
    exact List.isPrefixOf_iff_prefix.mpr (List.prefix_append _ _)
  change (if warnsIdle (idleRecord uri).message then EventKind.idle else .quiet) = .idle
  rw [idle]
  rfl

/-- No configuration is warned about among events that do not include such warnings. -/
theorem AreOf.idleRecord_not_mem {events : List Event} (are : AreOf kinds events)
    (absent : .idle ∉ kinds) (uri : String) : idleRecord uri ∉ recordsIn events := by
  rw [mem_recordsIn]
  have kind := kind_idleRecord uri
  refine are.not_mem ?_ ?_
  · rw [kind]
    decide
  · rw [kind]
    exact absent

/-- A generator is asked with a warning only when there are no databases. -/
theorem extends_askingSession (uri : String) {databases : List String} (session : Session)
    (warns : databases = [] → .idle ∈ kinds) :
    session.Extends kinds writes (askingSession uri databases session) := by
  unfold askingSession
  split
  · rename_i empty
    refine session.extends_noting (idleRecord uri) (Or.inr ?_)
    rw [kind_idleRecord]
    exact warns (List.isEmpty_iff.mp empty)
  · exact .refl session

theorem extends_notingUnbuilt (uri : String) (generated : Except Fault Value)
    (session : Session) : session.Extends kinds writes (notingUnbuilt uri generated session) := by
  cases generated with
  | error fault => exact session.extends_noting _ (Or.inl rfl)
  | ok value => exact .refl session

theorem extends_notingUnapplied (uri : String) (applied : Except Fault Unit) (session : Session) :
    session.Extends kinds writes (notingUnapplied uri applied session) := by
  cases applied with
  | error fault => exact session.extends_noting _ (Or.inl rfl)
  | ok value => exact .refl session

/-! ### Pools -/

namespace Rollout

/-- What rollouts on several clusters rely on: there are workers and plans, the plans are for
distinct clusters, and each of them names databases, none of them twice. -/
structure WellPosed (workers : Int) (plans : List Targets) : Prop where
  enough : 1 ≤ workers
  nonempty : plans ≠ []
  distinct : (plans.map Targets.clusterUri).Nodup
  filled : ∀ targets ∈ plans, targets.databases ≠ []
  once : ∀ targets ∈ plans, targets.databases.Nodup

/-- No job of a pool waits to be applied. -/
def Pool.IsDry (pool : Pool) : Prop :=
  ∀ entry ∈ pool.tasks, ∀ configuration, entry.2 ≠ .halfway (.built configuration)

section Pools

variable {rollout : Rollout} {file : String} {pool next : Pool} {session reached : Session}
  {index : Nat}

theorem Pool.IsDry.setTask {targets : Targets} {later : Task} (dry : pool.IsDry)
    (settled : ∀ configuration, later ≠ .halfway (.built configuration)) :
    (pool.setTask index targets later).IsDry := by
  intro entry member
  obtain before | rfl := List.mem_or_eq_of_mem_set member
  · exact dry entry before
  · exact settled

theorem Pool.isDry_submit (workers : Value) (plans : List Targets) :
    (submit workers plans).IsDry := by
  intro entry member configuration
  obtain ⟨targets, _, rfl⟩ := List.mem_map.mp member
  rintro ⟨⟩

/-- In a dry run no job comes to wait to be applied. -/
theorem Pool.Step.isDry (step : Pool.Step rollout file pool session index next reached)
    (dryRun : rollout.dryRun = true) (dry : pool.IsDry) : next.IsDry := by
  cases step with
  | claim => exact dry.setTask (by rintro _ ⟨⟩)
  | prepare found =>
    refine dry.setTask ?_
    intro configuration same
    unfold halfwayOf at same
    split at same
    · cases same
    · rw [if_pos dryRun] at same
      cases same
  | complete => exact dry.setTask (by rintro _ ⟨⟩)
  | collect => exact dry.setTask (by rintro _ ⟨⟩)

/-- A step leaves the plans as they are. -/
theorem Pool.Step.plans (step : Pool.Step rollout file pool session index next reached) :
    next.tasks.map Prod.fst = pool.tasks.map Prod.fst := by
  cases step with
  | claim found => exact Pool.plans_setTask _ found
  | prepare found => exact Pool.plans_setTask _ found
  | complete found => exact Pool.plans_setTask _ found
  | collect found => exact Pool.plans_setTask _ found

/-- A step does what the generator or the applier does. -/
theorem Pool.Step.extends (step : Pool.Step rollout file pool session index next reached)
    (warns : ∀ targets ∈ pool.tasks.map Prod.fst, targets.databases = [] → .idle ∈ kinds)
    (generates : ∀ uri databases path flag,
      (rollout.generator.generate uri databases path flag).Within kinds writes)
    (applies : rollout.dryRun = false → ∀ job, (rollout.applier.apply job).Within kinds writes)
    (dry : rollout.dryRun = true → pool.IsDry) : session.Extends kinds writes reached := by
  cases step with
  | claim => exact .refl session
  | @prepare targets found =>
    have planned := List.mem_map_of_mem (f := Prod.fst) (List.mem_of_getElem? found)
    exact ((extends_askingSession _ session (warns targets planned)).trans
      (generates _ _ _ _ _)).trans (extends_notingUnbuilt _ _ _)
  | @complete targets configuration found =>
    have wet : rollout.dryRun = false := by
      by_contra isDry
      exact dry (Bool.not_eq_false _ ▸ isDry) _ (List.mem_of_getElem? found) configuration rfl
    exact ((session.extends_noting _ (Or.inl rfl)).trans (applies wet _ _)).trans
      (extends_notingUnapplied _ _ _)
  | collect => exact .refl session

/-- **Rollouts on several clusters do what their generator and applier do**, besides setting up
workers and warning about plans without databases; dry runs do only what the generator does. -/
theorem within_applyAll (stored : rollout.schemaFile = .path file)
    (generates : ∀ uri databases path flag,
      (rollout.generator.generate uri databases path flag).Within kinds writes)
    (applies : rollout.dryRun = false → ∀ job, (rollout.applier.apply job).Within kinds writes)
    (pools : .pool ∈ kinds) (workers : Value) (plans : List Targets)
    (warns : ∀ targets ∈ plans, targets.databases = [] → .idle ∈ kinds) :
    (rollout.applyAll workers plans).Within kinds writes := by
  have run : ((Pool.submit workers plans).run rollout : Action Fault Pool).Within kinds writes := by
    intro session
    obtain ⟨final, last, performed, ⟨extended, _⟩, _⟩ := Pool.run_induction Fault
      (fun pool later => session.Extends kinds writes later ∧ pool.tasks.map Prod.fst = plans ∧
        (rollout.dryRun = true → pool.IsDry)) stored
      (fun _ _ _ ⟨extended, same, dry⟩ => ⟨extended.trans (.of_same rfl rfl rfl rfl), same, dry⟩)
      (fun _ _ _ _ _ ⟨extended, same, dry⟩ _ step =>
        ⟨extended.trans (step.extends (same ▸ warns) generates applies dry),
          step.plans.trans same, fun dryRun => step.isDry dryRun (dry dryRun)⟩)
      ⟨.refl session, (Pool.sound_submit workers plans).plans,
        fun _ => Pool.isDry_submit workers plans⟩
    rw [performed]
    exact extended
  have applying : (do
      if plans.isEmpty then return []
      Action.call (.pooled workers)
      let pool ← (Pool.submit workers plans).run rollout
      Action.ofExcept pool.answer : Action Fault (List RolloutResult)).Within kinds writes :=
    Within.ite (within_pure _) ((within_call (Or.inr pools)).bind fun _ =>
      run.bind fun _ => within_ofExcept _)
  exact Within.ite (within_throw_bind _ _)
    (Within.ite applying (within_throw_bind _ _))

end Pools

end Rollout

/-! ### The job writer and the engine -/

theorem JobWriter.within_generator (writer : JobWriter) (uri : String) (databases : List String)
    (path : Path) (flag : Value) :
    (writer.generator.generate uri databases path flag).Within kinds true :=
  (writer.within_generate uri databases _ flag).bind fun _ => within_pure _

theorem Engine.within_applier (engine : Engine) (job : String) (starts : .start ∈ kinds) :
    (engine.applier.apply job).Within kinds writes := by
  have run : (engine.run job).Within kinds writes := by
    refine (within_call (Or.inr starts)).bind fun _ => ?_
    split
    · exact within_pure _
    · exact within_throw _
  refine (within_log _ _ _ _ (by decide)).bind fun _ => run.bind fun ended => ?_
  have verdict : (if ended.code == 0 then pure ()
      else throw (.exited engine.binary ended.code job (tailOf ended.complaint)) :
        Action Fault Unit).Within kinds writes := Within.ite (within_pure _) (within_throw _)
  exact Within.ite verdict ((within_log _ _ _ _ (by decide)).bind fun _ => verdict)

end FleetSchema
