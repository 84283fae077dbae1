/-
**What rollouts file in the end.**

* `JobWriter.filesOf`: the job files that results tell of;
* `Serves`: what the document of a job file says;
* `perform_applyAll_ofFiles`: rollouts leave these files and no other one that the disk takes, and
  start the engine once on each.
-/

import FleetSchema.Proofs.Rollout.Filing
import FleetSchema.Proofs.Targets.Pairs

namespace FleetSchema

open FileTree

/-! ### Job files -/

/-- A job file: the targets that it is for, where it is, and the document in it. -/
structure JobFile where
  targets : Targets
  path : Path
  document : JobDocument

/-- The job files that results tell of, in the order of the plans. -/
def JobWriter.filesOf (writer : JobWriter) (script : Path) (flag : Bool) (plans : List Targets)
    (results : List RolloutResult) : List JobFile :=
  (plans.zip results).filterMap fun (targets, result) =>
    result.jobFile.map fun job => ⟨targets, .ofText job, writer.documentFor script flag targets⟩

/-- What the document of a job file says: it brings each database of the targets to the script at a
path, in a job of its own. -/
structure JobFile.Serves (file : JobFile) (script : Path) (flag : Bool) : Prop where
  lossFlag : file.document.lossFlag = .bool flag
  keys : (file.document.jobs.map Prod.fst).Nodup
  pairs : file.document.pairs = file.targets.pairs
  scripts : ∀ entry ∈ file.document.jobs, entry.2.script = script.toText

namespace Rollout

/-- What rollouts that file jobs leave in a tree and among events: a result for each cluster, a job
file for each result that tells of one, and the engine started once on each job file, unless it is a
dry run. -/
structure Filed (engine : Engine) (script : Path) (flag dryRun : Bool) (plans : List Targets)
    (results : List RolloutResult) (files : List JobFile) (events : List Event) (tree : FileTree) :
    Prop where
  answered : List.Forall₂ (fun targets result => result.clusterUri = targets.clusterUri) plans
    results
  told : List.Forall₂ (fun (file : JobFile) (entry : Targets × RolloutResult) =>
    file.targets = entry.1 ∧ entry.2.jobFile = some file.path.toText) files
      ((plans.zip results).filter (·.2.jobFile.isSome))
  serves : ∀ file ∈ files, file.Serves script flag
  held : ∀ file ∈ files, tree.HoldsDocument file.path file.document
  started : (startsIn events).Perm
    (if dryRun then [] else files.map fun file => engine.arguments file.path.toText)

section Rest

variable {tasks : List (Targets × Task)} {results : List RolloutResult}

theorem filterMap_collected {f : Task → Option String}
    (isJobFile : ∀ result : RolloutResult, f (.collected (.ok result)) = result.jobFile)
    (matched : List.Forall₂
      (fun (entry : Targets × Task) result => entry.2 = .collected (.ok result)) tasks results) :
    tasks.filterMap (fun entry => f entry.2) = results.filterMap RolloutResult.jobFile := by
  induction matched with
  | nil => rfl
  | cons here _ ih => rw [List.filterMap_cons, List.filterMap_cons, here, isJobFile, ih]

theorem mem_of_mem_zip {targets : Targets} {result : RolloutResult}
    (matched : List.Forall₂
      (fun (entry : Targets × Task) result => entry.2 = .collected (.ok result)) tasks results)
    (member : (targets, result) ∈ (tasks.map Prod.fst).zip results) :
    (targets, .collected (.ok result)) ∈ tasks := by
  induction matched with
  | nil => cases member
  | @cons entry other _ _ here _ ih =>
    rw [List.map_cons, List.zip_cons_cons] at member
    obtain same | behind := List.mem_cons.mp member
    · obtain ⟨rfl, rfl⟩ := Prod.mk.inj same
      rw [← here]
      exact List.mem_cons_self
    · exact List.mem_cons_of_mem _ (ih behind)

end Rest

variable {writer : JobWriter} {engine : Engine} {script : Path} {flag dryRun : Bool}
  {plans : List Targets}

theorem mem_filesOf {results : List RolloutResult} {file : JobFile} :
    file ∈ writer.filesOf script flag plans results ↔ ∃ targets result job,
      (targets, result) ∈ plans.zip results ∧ result.jobFile = some job ∧
        file = ⟨targets, .ofText job, writer.documentFor script flag targets⟩ := by
  unfold JobWriter.filesOf
  rw [List.mem_filterMap]
  constructor
  · rintro ⟨⟨targets, result⟩, member, isFile⟩
    obtain ⟨job, isJob, same⟩ := Option.map_eq_some_iff.mp isFile
    exact ⟨targets, result, job, member, isJob, same.symm⟩
  · rintro ⟨targets, result, job, member, isJob, rfl⟩
    exact ⟨(targets, result), member, Option.map_eq_some_iff.mpr ⟨job, isJob, rfl⟩⟩

/-- There is a job file for each result that tells of one. -/
theorem beside_filesOf {results : List RolloutResult}
    (read : ∀ job ∈ results.filterMap RolloutResult.jobFile, (Path.ofText job).toText = job) :
    List.Forall₂ (fun (file : JobFile) (entry : Targets × RolloutResult) =>
      file.targets = entry.1 ∧ entry.2.jobFile = some file.path.toText)
      (writer.filesOf script flag plans results)
      ((plans.zip results).filter (·.2.jobFile.isSome)) := by
  unfold JobWriter.filesOf
  induction plans generalizing results with
  | nil => exact .nil
  | cons targets rest ih =>
    cases results with
    | nil => exact .nil
    | cons result others =>
      rw [List.zip_cons_cons, List.filterMap_cons, List.filter_cons]
      cases isJob : result.jobFile with
      | none =>
        rw [List.filterMap_cons, isJob] at read
        dsimp only
        rw [isJob]
        exact ih read
      | some job =>
        rw [List.filterMap_cons, isJob] at read
        dsimp only
        rw [isJob]
        refine .cons ⟨rfl, isJob.trans ?_⟩ (ih fun other member => read other ?_)
        · exact congrArg some (read job List.mem_cons_self).symm
        · exact List.mem_cons_of_mem _ member

/-- The document for targets says what it should. -/
theorem serves_of_mem_filesOf {results : List RolloutResult} {file : JobFile}
    (member : file ∈ writer.filesOf script flag plans results) : file.Serves script flag := by
  obtain ⟨targets, result, job, _, _, rfl⟩ := mem_filesOf.mp member
  exact ⟨rfl, JobDocument.nodup_keys_make _ _ _ _ _, JobDocument.pairs_make _ _ _ _ _,
    fun entry isEntry => JobDocument.script_of_mem_make isEntry⟩

/-- The paths of the job files are what the results tell. -/
theorem texts_filesOf {results : List RolloutResult} (beside : plans.length = results.length)
    (read : ∀ job ∈ results.filterMap RolloutResult.jobFile, (Path.ofText job).toText = job) :
    (writer.filesOf script flag plans results).map (·.path.toText) =
      results.filterMap RolloutResult.jobFile := by
  have snd : (plans.zip results).map Prod.snd = results :=
    List.map_snd_zip (Nat.le_of_eq beside.symm)
  have texts : (writer.filesOf script flag plans results).map (·.path.toText) =
      (results.filterMap RolloutResult.jobFile).map fun job => (Path.ofText job).toText := by
    unfold JobWriter.filesOf
    rw [← snd, List.filterMap_map, List.map_filterMap, List.map_filterMap, snd]
    refine List.filterMap_congr fun entry _ => ?_
    rw [Option.map_map]
    rfl
  rw [texts]
  exact (List.map_congr_left read).trans (List.map_id _)

/-- Only the programs that are started count among events. -/
theorem Filed.of_starts {results : List RolloutResult} {files : List JobFile}
    {events others : List Event} {tree : FileTree}
    (filed : Filed engine script flag dryRun plans results files events tree)
    (same : startsIn others = startsIn events) :
    Filed engine script flag dryRun plans results files others tree where
  answered := filed.answered
  told := filed.told
  serves := filed.serves
  held := filed.held
  started := same ▸ filed.started

section AtRest

variable {workers : Value} {pool : Pool} {results : List RolloutResult} {first last : Session}

/-- The jobs of a pool at rest are the paths of the job files that its results tell of. -/
theorem jobs_of_rest (sound : Pool.Sound workers plans pool)
    (filing : Pool.Filing writer engine script flag dryRun first pool last)
    (matched : List.Forall₂ (fun (entry : Targets × Task) result =>
      entry.2 = .collected (.ok result)) pool.tasks results) :
    pool.jobs = results.filterMap RolloutResult.jobFile ∧
      pool.jobs = (writer.filesOf script flag plans results).map (·.path.toText) := by
  have jobs : pool.jobs = results.filterMap RolloutResult.jobFile :=
    filterMap_collected (fun _ => rfl) matched
  refine ⟨jobs, jobs.trans ?_⟩
  refine (texts_filesOf (sound.answered matched).length_eq fun job member => ?_).symm
  rw [← jobs] at member
  exact filing.toText_ofText member

/-- A sound pool at rest has filed what its results tell of. -/
theorem filed_of_rest (sound : Pool.Sound workers plans pool)
    (filing : Pool.Filing writer engine script flag dryRun first pool last)
    (matched : List.Forall₂ (fun (entry : Targets × Task) result =>
      entry.2 = .collected (.ok result)) pool.tasks results) :
    Filed engine script flag dryRun plans results (writer.filesOf script flag plans results)
      (first.since last) last.tree := by
  obtain ⟨jobs, texts⟩ := jobs_of_rest sound filing matched
  have finished : pool.finished = results.filterMap RolloutResult.jobFile :=
    filterMap_collected (fun _ => rfl) matched
  have read : ∀ job ∈ results.filterMap RolloutResult.jobFile,
      (Path.ofText job).toText = job := by
    rw [← jobs]
    exact fun job member => filing.toText_ofText member
  refine ⟨sound.answered matched, beside_filesOf read,
    fun file member => serves_of_mem_filesOf member, ?_, ?_⟩
  · intro file member
    obtain ⟨targets, result, job, isPair, isJob, rfl⟩ := mem_filesOf.mp member
    rw [← sound.plans] at isPair
    obtain ⟨path, normal, rfl, held⟩ :=
      filing.filed targets _ job (mem_of_mem_zip matched isPair) isJob
    dsimp only
    rw [Path.ofText_toText normal]
    exact held
  · have started := filing.started
    rw [finished, ← jobs, texts, List.map_map] at started
    exact started

/-- The job files that the results of a pool at rest tell of are the new files. -/
theorem newFiles_of_rest (sound : Pool.Sound workers plans pool)
    (filing : Pool.Filing writer engine script flag dryRun first pool last)
    (matched : List.Forall₂ (fun (entry : Targets × Task) result =>
      entry.2 = .collected (.ok result)) pool.tasks results) :
    NewFiles first.devices.disk ((writer.filesOf script flag plans results).map JobFile.path)
      first.tree last.tree := by
  obtain ⟨_, texts⟩ := jobs_of_rest sound filing matched
  obtain ⟨paths, gains, known⟩ := filing.gains
  refine ⟨⟨paths, gains, fun path member => (known path member).imp_left ?_⟩, ?_, ?_⟩
  · rintro ⟨normal, isJob⟩
    rw [texts] at isJob
    obtain ⟨file, isFile, same⟩ := List.mem_map.mp isJob
    obtain ⟨targets, result, job, isPair, hasJob, rfl⟩ := mem_filesOf.mp isFile
    refine List.mem_map.mpr ⟨_, isFile, ?_⟩
    dsimp only at same ⊢
    rw [← Path.ofText_toText (Path.isNormal_ofText job), same, Path.ofText_toText normal]
  · have distinct := filing.distinct
    rw [texts, ← Function.comp_def, ← List.map_map] at distinct
    exact distinct.of_map
  · intro path member
    obtain ⟨file, isFile, rfl⟩ := List.mem_map.mp member
    have isJob := List.mem_map_of_mem (f := fun file : JobFile => file.path.toText) isFile
    rw [← texts] at isJob
    obtain ⟨_, _, job, _, _, rfl⟩ := mem_filesOf.mp isFile
    exact filing.fresh _ (Path.isNormal_ofText job) isJob

end AtRest

/-- **Rollouts that file jobs file one for each cluster** whose job is generated, and start the
engine once on each. -/
theorem perform_applyAll_ofFiles (engine : Engine) (flag dryRun : Bool) (form : writer.HasForm)
    (normal : script.IsNormal) {workers : Int} (posed : WellPosed workers plans)
    (session : Session) :
    ∃ results last,
      ((ofFiles writer engine script flag dryRun).applyAll (.int workers) plans).perform session =
        (.ok results, last) ∧
      session.Extends [.pool, .start] true last ∧
      Filed engine script flag dryRun plans results (writer.filesOf script flag plans results)
        (session.since last) last.tree ∧
      NewFiles session.devices.disk
        ((writer.filesOf script flag plans results).map JobFile.path) session.tree last.tree := by
  have stored : (ofFiles writer engine script flag dryRun).schemaFile = .path script.toText := rfl
  obtain ⟨final, last, ran, ⟨sound, filing, _⟩, rest⟩ :=
    Pool.run_induction Fault
      (fun pool later => Pool.Sound (.int workers) plans pool ∧
        Pool.Filing writer engine script flag dryRun
          (session.adding (.call (.pooled (.int workers)))) pool later ∧
        (dryRun = true → pool.IsDry))
      stored
      (fun _ _ _ ⟨sound, filing, dry⟩ => ⟨sound, filing.turns _, dry⟩)
      (fun _ _ _ _ _ ⟨sound, filing, dry⟩ _ step =>
        ⟨step.sound posed.distinct sound,
          step.filing form normal (sound.plans.symm ▸ posed.filled) dry filing,
          fun dryRun => step.isDry dryRun (dry dryRun)⟩)
      ⟨Pool.sound_submit (.int workers) plans,
        Pool.filing_submit writer engine script flag dryRun _ (.int workers) plans,
        fun _ => Pool.isDry_submit (.int workers) plans⟩
  have someWorkers : ∀ count, Value.integer? (.int workers) = some count → 1 ≤ count := by
    intro count isCount
    cases isCount
    exact posed.enough
  obtain ⟨results, answered, matched⟩ := Pool.answer_of_rest sound someWorkers rest
  have pooled : session.Extends [.pool] false (session.adding (.call (.pooled (.int workers)))) :=
    session.extends_adding (Or.inr List.mem_cons_self) rfl
  have filed := filed_of_rest sound filing matched
  have newFiles := newFiles_of_rest sound filing matched
  refine ⟨results, last, ?_, ?_, ?_, newFiles⟩
  · rw [perform_applyAll _ session posed.enough posed.distinct posed.nonempty, Action.perform_bind,
      ran]
    dsimp only
    rw [Action.perform_ofExcept, answered]
  · exact (pooled.mono (by decide) fun _ => rfl).trans (filing.grown.mono (by decide) id)
  · exact filed.of_starts (pooled.startsIn_behind (by decide) filing.grown)

/-! ### Every database once -/

section Once

variable {results : List RolloutResult} {files : List JobFile} {events : List Event}
  {tree : FileTree}

theorem Filed.targets_sublist
    (filed : Filed engine script flag dryRun plans results files events tree) :
    (files.map JobFile.targets).Sublist plans := by
  have same : ((plans.zip results).filter (·.2.jobFile.isSome)).map Prod.fst =
      files.map JobFile.targets := map_eq_of_forall₂ filed.told fun _ _ both => both.1.symm
  have fst : (plans.zip results).map Prod.fst = plans :=
    List.map_fst_zip (Nat.le_of_eq filed.answered.length_eq)
  have sublist : (((plans.zip results).filter (·.2.jobFile.isSome)).map Prod.fst).Sublist
      ((plans.zip results).map Prod.fst) := List.filter_sublist.map Prod.fst
  rw [same, fst] at sublist
  exact sublist

theorem Filed.pairs (filed : Filed engine script flag dryRun plans results files events tree) :
    files.flatMap (·.document.pairs) = pairsOf (files.map JobFile.targets) := by
  unfold pairsOf
  rw [List.flatMap_map]
  exact List.flatMap_congr fun file member => (filed.serves file member).pairs

/-- **A document is for nothing that is not in the plans.** -/
theorem Filed.pairs_subset (filed : Filed engine script flag dryRun plans results files events tree)
    {file : JobFile} (member : file ∈ files) : file.document.pairs ⊆ pairsOf plans := by
  intro pair inside
  have known : pair ∈ files.flatMap (·.document.pairs) :=
    List.mem_flatMap.mpr ⟨file, member, inside⟩
  rw [filed.pairs] at known
  exact (filed.targets_sublist.flatMap Targets.pairs).subset known

/-- **A database of a cluster whose job file is generated is in one job of one document.** -/
theorem Filed.count_eq_one (filed : Filed engine script flag dryRun plans results files events tree)
    (distinct : (pairsOf plans).Nodup) {targets : Targets} {result : RolloutResult}
    (beside : (targets, result) ∈ plans.zip results) (generated : result.jobFile ≠ none)
    {pair : String × String} (member : pair ∈ targets.pairs) :
    (files.flatMap (·.document.pairs)).count pair = 1 := by
  rw [filed.pairs]
  have kept : (targets, result) ∈ (plans.zip results).filter (·.2.jobFile.isSome) :=
    List.mem_filter.mpr ⟨beside, Option.isSome_iff_ne_none.mpr generated⟩
  obtain ⟨file, isFile, sameTargets, _⟩ := exists_left_of_forall₂ filed.told kept
  refine List.count_eq_one_of_mem
    (distinct.sublist (filed.targets_sublist.flatMap Targets.pairs)) ?_
  refine List.mem_flatMap.mpr ⟨targets, ?_, member⟩
  rw [← show file.targets = targets from sameTargets]
  exact List.mem_map_of_mem isFile

end Once

end Rollout

end FleetSchema
