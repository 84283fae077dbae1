/-
**Databases with their clusters.**

A database is told apart by its name together with the address of its cluster.

* `pairsOf`: the databases of plans, each with its cluster;
* `nodup_pairsOf`: plans for distinct clusters name none of them twice;
* `resolveAll_eq_ok`: resolving names no database of a cluster twice.
-/

import FleetSchema.Targets
import Mathlib.Data.List.Flatten
import Mathlib.Data.List.Forall2
import Mathlib.Data.List.Nodup

namespace FleetSchema

open FleetSchema.Action

/-! ### Databases with their clusters -/

/-- The databases of targets, each with the address of its cluster. -/
def Targets.pairs (targets : Targets) : List (String × String) :=
  targets.databases.map (targets.clusterUri, ·)

/-- The databases of plans, each with the address of its cluster. -/
def pairsOf (plans : List Targets) : List (String × String) := plans.flatMap Targets.pairs

theorem mem_pairsOf {plans : List Targets} {pair : String × String} :
    pair ∈ pairsOf plans ↔
      ∃ targets ∈ plans, targets.clusterUri = pair.1 ∧ pair.2 ∈ targets.databases := by
  unfold pairsOf Targets.pairs
  rw [List.mem_flatMap]
  constructor
  · rintro ⟨targets, member, inside⟩
    obtain ⟨database, isDatabase, rfl⟩ := List.mem_map.mp inside
    exact ⟨targets, member, rfl, isDatabase⟩
  · rintro ⟨targets, member, uri, isDatabase⟩
    exact ⟨targets, member, List.mem_map.mpr ⟨pair.2, isDatabase, Prod.ext uri rfl⟩⟩

/-- Plans for distinct clusters, none of which names a database twice, name none twice together. -/
theorem nodup_pairsOf {plans : List Targets} (clusters : (plans.map Targets.clusterUri).Nodup)
    (databases : ∀ targets ∈ plans, targets.databases.Nodup) : (pairsOf plans).Nodup := by
  induction plans with
  | nil => exact List.nodup_nil
  | cons targets rest ih =>
    rw [List.map_cons, List.nodup_cons] at clusters
    unfold pairsOf
    rw [List.flatMap_cons, List.nodup_append]
    refine ⟨(databases _ List.mem_cons_self).map fun _ _ same => (Prod.mk.inj same).2,
      ih clusters.2 fun other member => databases other (List.mem_cons_of_mem _ member), ?_⟩
    intro pair here other behind same
    obtain ⟨database, _, rfl⟩ := List.mem_map.mp here
    obtain ⟨later, member, uri, _⟩ := mem_pairsOf.mp behind
    rw [← same] at uri
    exact clusters.1 (List.mem_map.mpr ⟨later, member, uri⟩)

/-! ### Lists side by side -/

section Beside

variable {α β γ : Type} {related : α → β → Prop} {items : List α} {others : List β}

theorem exists_left_of_forall₂ (beside : List.Forall₂ related items others) {other : β}
    (member : other ∈ others) : ∃ item ∈ items, related item other := by
  induction beside with
  | nil => cases member
  | cons here _ ih =>
    obtain rfl | behind := List.mem_cons.mp member
    · exact ⟨_, List.mem_cons_self, here⟩
    · obtain ⟨item, isItem, holds⟩ := ih behind
      exact ⟨item, List.mem_cons_of_mem _ isItem, holds⟩

/-- Lists that give the same texts side by side give the same texts. -/
theorem map_eq_of_forall₂ {left : α → γ} {right : β → γ}
    (beside : List.Forall₂ related items others)
    (same : ∀ item other, related item other → right other = left item) :
    others.map right = items.map left := by
  induction beside with
  | nil => rfl
  | cons here _ ih => rw [List.map_cons, List.map_cons, ih, same _ _ here]

end Beside

/-! ### Resolving -/

variable {first last : Session}

variable [Interpreter]

theorem resolve_eq_ok {cluster : Cluster} {filter : TargetFilter}
    {service : Option LookupService} {targets : Targets}
    (performed : (resolve cluster filter service).perform first = (.ok targets, last)) :
    targets.clusterUri = cluster.uri ∧ targets.databases.Nodup := by
  unfold resolve at performed
  obtain ⟨_, _, _, rest⟩ := perform_bind_eq_ok performed
  obtain ⟨names, _, _, rest⟩ := perform_bind_eq_ok rest
  cases rest
  exact ⟨rfl, nodup_unique names⟩

/-- Resolving gives targets for each cluster, which name no database twice. -/
theorem resolveAll_eq_ok {filter : TargetFilter} {service : Option LookupService}
    {clusters : List Cluster} {found : List Targets}
    (performed : (resolveAll filter service clusters).perform first = (.ok found, last)) :
    List.Forall₂ (fun cluster targets =>
      targets.clusterUri = cluster.uri ∧ targets.databases.Nodup) clusters found := by
  induction clusters generalizing found first last with
  | nil =>
    cases performed
    exact .nil
  | cons cluster rest ih =>
    unfold resolveAll at performed
    obtain ⟨targets, _, resolved, after⟩ := perform_bind_eq_ok performed
    obtain ⟨others, _, all, after⟩ := perform_bind_eq_ok after
    cases after
    exact .cons (resolve_eq_ok resolved) (ih all)

end FleetSchema
