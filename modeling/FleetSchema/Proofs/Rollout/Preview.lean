/-
**Dry runs as previews.**

A dry run ends between the two halves of a rollout. With a generator and an applier that answer as
functions say it asks for the same jobs as the run proper, applies none of them, and tells of each
cluster what the run proper tells up to its job:

* `Previews`: what the result of a dry run tells of the result of the run proper;
* `previews_ownResult`: the results of one cluster;
* `perform_applyAll_answering`: the results and the calls of several clusters;
* `applyAll_previews`: the two runs on several clusters side by side.
-/

import FleetSchema.Proofs.Rollout.Interleaving
import FleetSchema.Proofs.Targets.Pairs

namespace FleetSchema

/-! ### Calls of the two plug-ins -/

/-- Whether a call asks for a job. -/
def Call.generates : Call → Bool
  | .generated .. => true
  | _ => false

/-- Whether a call applies a job. -/
def Call.applies : Call → Bool
  | .applied _ => true
  | _ => false

namespace Rollout

/-! ### One cluster -/

/-- What a dry run tells of the run proper on the same targets, whose generator ended in `generated`
both times: the same job or the same reason why there is none. -/
structure Previews (targets : Targets) (generated : Except Fault Value)
    (preview result : RolloutResult) : Prop where
  clusterUri : preview.clusterUri = targets.clusterUri ∧ result.clusterUri = targets.clusterUri
  databases : preview.databases = targets.databases ∧ result.databases = targets.databases
  jobFile : preview.jobFile = result.jobFile
  built : (∃ job, Refers generated job) ↔
    result.status = .success ∨ result.status = .failed ∧ result.jobFile ≠ none
  skipped : preview.status = .skipped ↔ ∃ job, Refers generated job
  failed : preview.status = .failed ↔ ∀ job, ¬ Refers generated job
  error : (∀ job, ¬ Refers generated job) →
    ∃ text, preview.error = some text ∧ result.error = some text

theorem previews_unbuilt (targets : Targets) {generated : Except Fault Value}
    (none : referenceIn generated = none) :
    Previews targets generated (unbuilt targets generated) (unbuilt targets generated) where
  clusterUri := ⟨rfl, rfl⟩
  databases := ⟨rfl, rfl⟩
  jobFile := rfl
  built := by
    have noJob : ¬ ∃ job, Refers generated job := fun ⟨job, refers⟩ =>
      not_refers_of_none none job refers
    simp [noJob, unbuilt, result]
  skipped := by
    have noJob : ¬ ∃ job, Refers generated job := fun ⟨job, refers⟩ =>
      not_refers_of_none none job refers
    simp [noJob, unbuilt, result]
  failed := ⟨fun _ => not_refers_of_none none, fun _ => rfl⟩
  error _ := ⟨_, rfl, rfl⟩

theorem previews_completed (targets : Targets) {generated : Except Fault Value} {job : String}
    (refers : Refers generated job) (applied : Except Fault Unit) :
    Previews targets generated (result targets .skipped (some job) none)
      (completed targets job targets.clusterUri applied) := by
  have some : ∃ job, Refers generated job := ⟨job, refers⟩
  have notNone : ¬ ∀ job, ¬ Refers generated job := fun none => none job refers
  unfold completed
  cases applied with
  | error fault =>
    refine ⟨⟨rfl, rfl⟩, ⟨rfl, rfl⟩, rfl, ?_, ?_, ?_, fun none => absurd none notNone⟩
    · simp [some, result]
    · simp [some, result]
    · simp [some, result]
  | ok value =>
    refine ⟨⟨rfl, rfl⟩, ⟨rfl, rfl⟩, rfl, ?_, ?_, ?_, fun none => absurd none notNone⟩
    · simp [some, result]
    · simp [some, result]
    · simp [some, result]

/-- **The result of a dry run previews the one of the run proper.** -/
theorem previews_ownResult (targets : Targets) (generated : Except Fault Value)
    (applied : String → Except Fault Unit) :
    Previews targets generated (ownResult true targets generated applied)
      (ownResult false targets generated applied) := by
  unfold ownResult
  cases found : referenceIn generated with
  | none => exact previews_unbuilt targets found
  | some job => exact previews_completed targets ((referenceIn_eq_some_iff _ _).mp found) _

/-- A rollout asks for its job once. -/
theorem filter_generates_ownCalls (rollout : Rollout) (targets : Targets) (file : String)
    (generated : Except Fault Value) :
    (rollout.ownCalls targets file generated).filter Call.generates =
      [rollout.generation targets file] := by
  unfold ownCalls
  rw [List.filter_cons_of_pos rfl]
  cases referenceIn generated with
  | none => rfl
  | some job =>
    dsimp only
    split
    · rfl
    · rfl

/-- A dry run applies nothing. -/
theorem filter_applies_ownCalls {rollout : Rollout} (dry : rollout.dryRun = true)
    (targets : Targets) (file : String) (generated : Except Fault Value) :
    (rollout.ownCalls targets file generated).filter Call.applies = [] := by
  unfold ownCalls
  rw [List.filter_cons_of_neg (by simp [generation, Call.applies])]
  cases referenceIn generated with
  | none => rfl
  | some job =>
    dsimp only
    rw [if_pos dry]
    rfl

/-! ### Several clusters -/

section Fleet

variable {rollout : Rollout} {file : String}
  {generate : String → List String → Path → Value → Except Fault Value}
  {apply : String → Except Fault Unit} {plans : List Targets}

/-- What the generator ends in for targets. -/
def answerFor (rollout : Rollout) (file : String)
    (generate : String → List String → Path → Value → Except Fault Value) (targets : Targets) :
    Except Fault Value :=
  generate targets.clusterUri targets.databases (.ofText file) rollout.lossFlag

/-- Valid rollouts come to the rollouts' own results, with the rollouts' own calls behind the one
that sets up workers. -/
theorem perform_applyAll_answering (rollout : Rollout) (stored : rollout.schemaFile = .path file)
    (isGenerator : rollout.generator = .answering generate)
    (isApplier : rollout.applier = .answering apply) {workers : Int} (enough : 1 ≤ workers)
    (distinct : (plans.map Targets.clusterUri).Nodup) (session : Session) :
    ∃ reached pooled trace,
      (rollout.applyAll (.int workers) plans).perform session =
        (.ok (plans.map fun targets => ownResult rollout.dryRun targets
          (rollout.answerFor file generate targets) apply), reached) ∧
      callsIn reached.events = callsIn session.events ++ (pooled ++ trace) ∧
      (pooled = [] ∨ pooled = [.pooled (.int workers)]) ∧
      trace.Perm (plans.flatMap fun targets =>
        rollout.ownCalls targets file (rollout.answerFor file generate targets)) := by
  by_cases empty : plans = []
  · subst empty
    exact ⟨session, [], [], perform_applyAll_nil rollout session enough,
      (List.append_nil _).symm, Or.inl rfl, .refl _⟩
  · obtain ⟨results, reached, trace, performed, matched, made, interleaving⟩ :=
      perform_run_answer rollout (.int workers) stored isGenerator isApplier
        (by rintro _ ⟨⟩; exact enough) distinct
        (session.adding (.call (.pooled (.int workers))))
    refine ⟨reached, [.pooled (.int workers)], trace, ?_, ?_, Or.inr rfl, ?_⟩
    · rw [perform_applyAll rollout session enough distinct empty, performed]
      have own : results.map id = plans.map fun targets => ownResult rollout.dryRun targets
          (rollout.answerFor file generate targets) apply :=
        map_eq_of_forall₂ matched fun targets result same => same
      rw [← own, List.map_id]
    · rw [made, Session.callsIn_adding_call, List.append_assoc]
    · rw [List.flatMap_def]
      exact interleaving.perm

/-- One job is asked for in the name of each plan. -/
theorem generations_perm {pooled trace : List Call} {workers : Int}
    (pools : pooled = [] ∨ pooled = [.pooled (.int workers)])
    (perm : trace.Perm (plans.flatMap fun targets =>
      rollout.ownCalls targets file (rollout.answerFor file generate targets))) :
    ((pooled ++ trace).filter Call.generates).Perm
      (plans.map fun targets => rollout.generation targets file) := by
  have none : pooled.filter Call.generates = [] := by
    obtain rfl | rfl := pools
    · rfl
    · rfl
  rw [List.filter_append, none, List.nil_append]
  refine (perm.filter _).trans (List.Perm.of_eq ?_)
  rw [List.filter_flatMap]
  calc plans.flatMap _
      = plans.flatMap fun targets => [rollout.generation targets file] :=
        List.flatMap_congr fun targets _ => filter_generates_ownCalls rollout targets file _
    _ = _ := List.map_eq_flatMap.symm

/-- No job is applied when no plan applies one. -/
theorem applications_eq_nil {pooled trace : List Call} {workers : Int}
    (dry : rollout.dryRun = true) (pools : pooled = [] ∨ pooled = [.pooled (.int workers)])
    (perm : trace.Perm (plans.flatMap fun targets =>
      rollout.ownCalls targets file (rollout.answerFor file generate targets))) :
    (pooled ++ trace).filter Call.applies = [] := by
  have none : pooled.filter Call.applies = [] := by
    obtain rfl | rfl := pools
    · rfl
    · rfl
  rw [List.filter_append, none, List.nil_append]
  refine ((perm.filter _).trans (List.Perm.of_eq ?_)).eq_nil
  rw [List.filter_flatMap, List.flatMap_eq_nil_iff]
  exact fun targets _ => filter_applies_ownCalls dry targets file _

end Fleet

/-- **A dry run is a faithful preview.** With plug-ins that answer as functions say, and whatever
turns the workers take in either run, a dry run asks for the same jobs as the run proper, one for
each plan, and applies nothing. Its result for a plan has the same cluster, databases and job as the
one of the run proper. It is skipped exactly when the job was built, which is when the run proper
succeeds or fails with a job; and it has failed, for the same reason, exactly when the job was not
built. Invalid rollouts are refused alike. -/
theorem applyAll_previews (file : String)
    (generate : String → List String → Path → Value → Except Fault Value)
    (apply : String → Except Fault Unit) (lossFlag : Value) (workers : Int) (plans : List Targets)
    (session other : Session) :
    let rollout (dryRun : Bool) : Rollout :=
      ⟨.path file, .answering generate, .answering apply, lossFlag, dryRun⟩
    let generations := plans.map fun targets =>
      Call.generated targets.clusterUri targets.databases (Path.ofText file).toText lossFlag
    (1 ≤ workers → (plans.map Targets.clusterUri).Nodup →
      ∃ (results : List (RolloutResult × RolloutResult)) (previewed applied : Session)
          (asked made : List Call),
        ((rollout true).applyAll (.int workers) plans).perform session =
          (.ok (results.map Prod.fst), previewed) ∧
        ((rollout false).applyAll (.int workers) plans).perform other =
          (.ok (results.map Prod.snd), applied) ∧
        List.Forall₂ (fun targets (both : RolloutResult × RolloutResult) =>
          Previews targets (generate targets.clusterUri targets.databases (.ofText file) lossFlag)
            both.1 both.2) plans results ∧
        callsIn previewed.events = callsIn session.events ++ asked ∧
        callsIn applied.events = callsIn other.events ++ made ∧
        (asked.filter Call.generates).Perm generations ∧
        (made.filter Call.generates).Perm generations ∧
        asked.filter Call.applies = []) ∧
    (workers < 1 ∨ ¬ (plans.map Targets.clusterUri).Nodup →
      ∃ fault,
        ((rollout true).applyAll (.int workers) plans).perform session = (.error fault, session) ∧
        ((rollout false).applyAll (.int workers) plans).perform other = (.error fault, other)) := by
  intro rollout generations
  refine ⟨fun enough distinct => ?_, fun invalid => ?_⟩
  · obtain ⟨previewed, dryPool, dryTrace, dryRun, dryCalls, dryPools, dryPerm⟩ :=
      perform_applyAll_answering (rollout true) rfl rfl rfl enough distinct session
    obtain ⟨applied, pool, trace, run, calls, pools, perm⟩ :=
      perform_applyAll_answering (rollout false) rfl rfl rfl enough distinct other
    refine ⟨plans.map fun targets =>
        (ownResult true targets ((rollout true).answerFor file generate targets) apply,
          ownResult false targets ((rollout false).answerFor file generate targets) apply),
      previewed, applied, dryPool ++ dryTrace, pool ++ trace, ?_, ?_, ?_, dryCalls, calls,
      generations_perm dryPools dryPerm, generations_perm pools perm,
      applications_eq_nil rfl dryPools dryPerm⟩
    · rw [List.map_map]
      exact dryRun
    · rw [List.map_map]
      exact run
    · rw [List.forall₂_map_right_iff, List.forall₂_same]
      exact fun targets _ => previews_ownResult targets _ apply
  · exact ⟨_, perform_applyAll_invalid (rollout true) session invalid,
      perform_applyAll_invalid (rollout false) other invalid⟩

/-- A cluster whose job is not built, one whose job cannot be applied, and one that goes well. -/
theorem applyAll_previews_mixed :
    let plans : List Targets :=
      [⟨"https://a", ["X"], .all⟩, ⟨"https://b", ["Y"], .all⟩, ⟨"https://c", [], .all⟩]
    let generate (uri : String) (_ : List String) (_ : Path) (_ : Value) : Except Fault Value :=
      if uri = "https://a" then .error (.stated .storage "full") else .ok (.text uri)
    let apply (job : String) : Except Fault Unit :=
      if job = "https://b" then .error (.stated .query "lost") else .ok ()
    let rollout (dryRun : Bool) : Rollout :=
      ⟨.path "s.kql", .answering generate, .answering apply, .bool true, dryRun⟩
    let session : Session := { Session.start ⟨[], []⟩ with turns := [0, 1, 1, 2, 1] }
    (1 : Int) ≤ 2 ∧ (plans.map Targets.clusterUri).Nodup ∧
      ∃ results previewed applied,
        ((rollout true).applyAll (.int 2) plans).perform session =
          (.ok (results.map Prod.fst), previewed) ∧
        ((rollout false).applyAll (.int 2) plans).perform session =
          (.ok (results.map Prod.snd), applied) ∧
        List.Forall₂ (fun targets (both : RolloutResult × RolloutResult) =>
          Previews targets
            (generate targets.clusterUri targets.databases (.ofText "s.kql") (.bool true))
            both.1 both.2) plans results := by
  intro plans generate apply rollout session
  have distinct : (plans.map Targets.clusterUri).Nodup := by decide
  obtain ⟨results, previewed, applied, _, _, dry, proper, previews, _⟩ :=
    (applyAll_previews "s.kql" generate apply (.bool true) 2 plans session session).1 (by decide)
      distinct
  exact ⟨by decide, distinct, results, previewed, applied, dry, proper, previews⟩

end Rollout

end FleetSchema
