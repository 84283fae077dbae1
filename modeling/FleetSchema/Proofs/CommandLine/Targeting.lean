/-
**What a request targets.**

The targets of a request are resolved cluster by cluster, narrowed down cluster by cluster, and
passed over where nothing is left. None of these steps brings a database in twice.

* `pickEach_eq_ok`: what narrowing comes to;
* `targets_eq_ok`: the plans of a request;
* `Narrowed.nodup_pairsOf`: plans name no database twice;
* `Narrowed.wellPosed`: plans are what rollouts rely on.
-/

import FleetSchema.Proofs.CommandLine.Course
import FleetSchema.Proofs.Targets.Pairs
import Mathlib.Data.List.Forall2

namespace FleetSchema

open FleetSchema.Action

variable {first last : Session}

theorem length_pairsOf (plans : List Targets) :
    (pairsOf plans).length = ApplyRequest.databaseCount plans := by
  induction plans with
  | nil => rfl
  | cons targets rest ih =>
    unfold pairsOf at *
    rw [List.flatMap_cons, List.length_append, ih, Targets.pairs, List.length_map]
    rfl

/-- Narrowing keeps some databases of each cluster. -/
theorem pickEach_eq_ok {found picked : List Targets}
    (performed : (ApplyRequest.pickEach found).perform first = (.ok picked, last)) :
    List.Forall₂ (fun targets narrowed => ∃ values, narrowed = targets.keep values) found
      picked := by
  induction found generalizing picked first last with
  | nil =>
    cases performed
    exact .nil
  | cons targets rest ih =>
    unfold ApplyRequest.pickEach at performed
    obtain ⟨narrowed, _, picking, after⟩ := perform_bind_eq_ok performed
    obtain ⟨others, _, all, after⟩ := perform_bind_eq_ok after
    cases after
    unfold Targets.pick at picking
    obtain ⟨_, _, _, inner⟩ := perform_bind_eq_ok picking
    obtain ⟨values, _, _, inner⟩ := perform_bind_eq_ok inner
    cases inner
    exact .cons ⟨values, rfl⟩ (ih all)

namespace ApplyRequest

variable {request : ApplyRequest} {surroundings : Surroundings} {filter : TargetFilter}
  {clusters : List Cluster} {found picked plans : List Targets}

/-- Targets come out of other ones by the user's picking when that is asked for, and are the same
otherwise. -/
def Picked (request : ApplyRequest) (found picked : List Targets) : Prop :=
  if request.narrows then
    List.Forall₂ (fun targets narrowed => ∃ values, narrowed = targets.keep values) found picked
  else picked = found

/-- Picking leaves each cluster some of its databases. -/
theorem Picked.sublist (picking : request.Picked found picked) :
    List.Forall₂ (fun targets narrowed => narrowed.clusterUri = targets.clusterUri ∧
      narrowed.databases.Sublist targets.databases) found picked := by
  unfold Picked at picking
  split at picking
  · refine picking.imp ?_
    rintro targets _ ⟨values, rfl⟩
    exact ⟨rfl, targets.keep_sublist values⟩
  · rw [picking]
    exact List.forall₂_same.mpr fun targets _ => ⟨rfl, List.Sublist.refl _⟩

variable [Interpreter]

/-- The plans of a request are what the filter gives on the clusters, narrowed down by the user when
that is asked for, without the clusters on which nothing is left. -/
structure Narrowed (request : ApplyRequest) (surroundings : Surroundings) (filter : TargetFilter)
    (clusters : List Cluster) (found picked plans : List Targets) : Prop where
  resolved : ∃ before after,
    (resolveAll filter (some surroundings.lookupService) clusters).perform before =
      (.ok found, after)
  narrowed : request.Picked found picked
  remaining : plans = picked.filter fun targets => !targets.databases.isEmpty
  nonempty : plans ≠ []

/-- What is looked up for a plan is what the filter gives on the clusters. -/
theorem plan_eq_ok
    (performed : (CommandLine.plan surroundings filter clusters).perform first =
      (.ok found, last)) :
    ∃ before after, (resolveAll filter (some surroundings.lookupService) clusters).perform before =
      (.ok found, after) := by
  have announced := Stop.expecting_eq_ok performed
  rw [perform_status] at announced
  cases shown : first.refusal (.statusBegin "Resolving targets...") with
  | some defect =>
    rw [shown] at announced
    cases announced
  | none =>
    rw [shown] at announced
    exact ⟨_, _, Prod.ext (Prod.mk.inj announced).1 rfl⟩

theorem targets_eq_ok
    (performed : (request.targets surroundings filter clusters).perform first =
      (.ok plans, last)) :
    ∃ found picked, Narrowed request surroundings filter clusters found picked plans := by
  unfold targets at performed
  obtain ⟨found, middle, planned, rest⟩ := perform_bind_eq_ok performed
  obtain ⟨picked, narrowing, picking, rest⟩ : ∃ picked narrowing,
      request.Picked found picked ∧ (do
        Stop.plainly (warnSkipped picked)
        let plans := picked.filter fun targets => !targets.databases.isEmpty
        if plans.isEmpty then Stop.warnExit "No target databases" 0
        return plans : Action Stop (List Targets)).perform narrowing = (.ok plans, last) := by
    split at rest
    · rename_i narrows
      obtain ⟨picked, narrowing, isPicked, rest⟩ := perform_bind_eq_ok rest
      refine ⟨picked, narrowing, ?_, rest⟩
      unfold Picked
      rw [if_pos narrows]
      exact pickEach_eq_ok (Stop.plainly_eq_ok isPicked)
    · rename_i whole
      refine ⟨found, middle, ?_, rest⟩
      unfold Picked
      rw [if_neg whole]
  obtain ⟨_, _, _, rest⟩ := perform_bind_eq_ok rest
  dsimp only at rest
  split at rest
  · rw [perform_bind, Stop.perform_warnExit] at rest
    cases rest
  · rename_i some
    cases rest
    exact ⟨found, picked, plan_eq_ok planned, picking, rfl,
      fun none => some (List.isEmpty_iff.mpr none)⟩

/-! ### No database twice -/

theorem Narrowed.uris
    (narrowed : Narrowed request surroundings filter clusters found picked plans) :
    (plans.map Targets.clusterUri).Sublist (clusters.map Cluster.uri) := by
  obtain ⟨_, _, resolved⟩ := narrowed.resolved
  have ofFound : found.map Targets.clusterUri = clusters.map Cluster.uri :=
    map_eq_of_forall₂ (resolveAll_eq_ok resolved) fun _ _ both => both.1
  have ofPicked : picked.map Targets.clusterUri = found.map Targets.clusterUri :=
    map_eq_of_forall₂ narrowed.narrowed.sublist fun _ _ both => both.1
  rw [narrowed.remaining, ← ofFound, ← ofPicked]
  exact List.filter_sublist.map _

/-- No plan names a database twice. -/
theorem Narrowed.databases
    (narrowed : Narrowed request surroundings filter clusters found picked plans) :
    ∀ targets ∈ plans, targets.databases.Nodup := by
  obtain ⟨_, _, resolved⟩ := narrowed.resolved
  intro targets member
  rw [narrowed.remaining] at member
  have isPicked := (List.mem_filter.mp member).1
  obtain ⟨whole, isFound, _, sublist⟩ :=
    exists_left_of_forall₂ narrowed.narrowed.sublist isPicked
  obtain ⟨_, _, _, distinct⟩ := exists_left_of_forall₂ (resolveAll_eq_ok resolved) isFound
  exact distinct.sublist sublist

/-- Every plan names a database. -/
theorem Narrowed.filled
    (narrowed : Narrowed request surroundings filter clusters found picked plans) :
    ∀ targets ∈ plans, targets.databases ≠ [] := by
  intro targets member empty
  rw [narrowed.remaining, List.mem_filter, empty] at member
  exact Bool.noConfusion member.2

/-- **The plans of a request with workers are what rollouts rely on**, if they are on distinct
clusters. -/
theorem Narrowed.wellPosed
    (narrowed : Narrowed request surroundings filter clusters found picked plans)
    (distinct : (clusters.map Cluster.uri).Nodup) (enough : 1 ≤ request.workers) :
    Rollout.WellPosed request.workers plans where
  enough := enough
  nonempty := narrowed.nonempty
  distinct := distinct.sublist narrowed.uris
  filled := narrowed.filled
  once := narrowed.databases

/-- **Plans on distinct clusters name no database twice.** -/
theorem Narrowed.nodup_pairsOf
    (narrowed : Narrowed request surroundings filter clusters found picked plans)
    (distinct : (clusters.map Cluster.uri).Nodup) : (pairsOf plans).Nodup :=
  FleetSchema.nodup_pairsOf (distinct.sublist narrowed.uris) narrowed.databases

end ApplyRequest

end FleetSchema
