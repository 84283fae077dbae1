/-
**Job files of a rollout.**

A pool whose generator writes job files and whose applier is an engine leaves one new job file for
each cluster whose job was generated, with the document for its targets, and it has started the
engine once on each job file, unless it is a dry run.

* `Rollout.ofFiles`: such a rollout;
* `Filing`: what a pool has filed and started so far;
* `Step.filing`: a step keeps account of it.
-/

import FleetSchema.Proofs.Files.Written
import FleetSchema.Proofs.Rollout.Bounds
import FleetSchema.Proofs.Rollout.Interleaving
import FleetSchema.Proofs.Rollout.Verdict

namespace FleetSchema

open FileTree

/-! ### Starting the engine -/

namespace Engine

/-- **The engine is started once** when it is run on a job, however it ends. -/
theorem startsIn_apply (engine : Engine) (job : String) (session : Session) :
    startsIn (session.since ((engine.applier.apply job).perform session).2) =
      [engine.arguments job] := by
  obtain ⟨reached, performed, calls⟩ := engine.perform_apply job session
  have grown : session.Extends [.start] false ((engine.applier.apply job).perform session).2 :=
    engine.within_applier job List.mem_cons_self session
  rw [performed] at grown ⊢
  dsimp only at grown ⊢
  rw [grown.events, callsIn_append] at calls
  rw [startsIn_eq_filterMap, List.append_cancel_left calls]
  rfl

end Engine

/-! ### Lists with one item replaced -/

section Replaced

variable {α β : Type} {f : α → Option β} {items : List α} {old new : α} {value : β}

theorem filterMap_set_of_eq (index : Nat) (found : items[index]? = some old)
    (same : f new = f old) : (items.set index new).filterMap f = items.filterMap f := by
  induction items generalizing index with
  | nil => cases found
  | cons first rest ih =>
    cases index with
    | zero =>
      obtain rfl : first = old := Option.some.inj found
      rw [List.set_cons_zero, List.filterMap_cons, List.filterMap_cons, same]
    | succ place =>
      rw [List.set_cons_succ, List.filterMap_cons, List.filterMap_cons, ih place found]

/-- An item that comes to a value adds the value, wherever it stands. -/
theorem filterMap_set_perm (index : Nat) (found : items[index]? = some old)
    (before : f old = none) (now : f new = some value) :
    ((items.set index new).filterMap f).Perm (value :: items.filterMap f) := by
  induction items generalizing index with
  | nil => cases found
  | cons first rest ih =>
    cases index with
    | zero =>
      obtain rfl : first = old := Option.some.inj found
      rw [List.set_cons_zero, List.filterMap_cons, List.filterMap_cons, before, now]
    | succ place =>
      rw [List.set_cons_succ, List.filterMap_cons, List.filterMap_cons]
      cases f first with
      | none => exact ih place found
      | some kept => exact ((ih place found).cons kept).trans (.swap value kept _)

end Replaced

/-! ### Job files -/

/-- A tree holds a document at a path. -/
def FileTree.HoldsDocument (tree : FileTree) (path : Path) (document : JobDocument) : Prop :=
  ∃ text, Yaml.writeFields document.fields = .ok text ∧
    tree.read path = .ok (Text.Utf8.encode text)

theorem FileTree.Gains.holdsDocument {paths : List Path} {first last : FileTree} {path : Path}
    {document : JobDocument} (gains : Gains paths first last)
    (held : first.HoldsDocument path document) : last.HoldsDocument path document := by
  obtain ⟨text, isText, read⟩ := held
  exact ⟨text, isText, gains.read read⟩

namespace JobWriter

/-- The document for targets and the script at a path. -/
def documentFor (writer : JobWriter) (script : Path) (flag : Bool) (targets : Targets) :
    JobDocument :=
  writer.document targets.clusterUri targets.databases script.toText (.bool flag)

/-- The way to sign in has a form in a document. -/
def HasForm (writer : JobWriter) : Prop :=
  ∀ fields, writer.tokenProvider = some fields → Yaml.formlessField? fields = none

/-- A job file for targets is in a tree, with this text as its path. -/
def IsFiled (writer : JobWriter) (script : Path) (flag : Bool) (tree : FileTree)
    (targets : Targets) (job : String) : Prop :=
  ∃ path : Path, path.IsNormal ∧ path.toText = job ∧
    tree.HoldsDocument path (writer.documentFor script flag targets)

theorem IsFiled.later {writer : JobWriter} {script : Path} {flag : Bool} {targets : Targets}
    {job : String} {paths : List Path} {first last : FileTree}
    (filed : writer.IsFiled script flag first targets job) (gains : Gains paths first last) :
    writer.IsFiled script flag last targets job := by
  obtain ⟨path, normal, same, held⟩ := filed
  exact ⟨path, normal, same, gains.holdsDocument held⟩

/-- **What a writer is asked for and gives**: a new file with the document for the targets and the
path of it, or no file that the disk takes. -/
theorem perform_generator {writer : JobWriter} {script : Path} {flag : Bool} {targets : Targets}
    {session last : Session} {outcome : Except Fault Value} (form : writer.HasForm)
    (performed : (writer.generator.generate targets.clusterUri targets.databases script
      (.bool flag)).perform session = (outcome, last)) :
    (∃ fault, outcome = .error fault ∧
        GainsTorn session.devices.disk session.tree last.tree) ∨
      ∃ path text, outcome = .ok (.path path.toText) ∧
        Yaml.writeFields (writer.documentFor script flag targets).fields = .ok text ∧
        Fresh path (Text.Utf8.encode text) session.tree last.tree := by
  obtain ⟨text, isText⟩ := (writer.documentFor script flag targets).exists_text rfl form
  obtain ⟨fault, ended, rfl⟩ | ⟨path, middle, wrote, rest⟩ := Action.perform_bind_cases performed
  · obtain ⟨_, _, spares⟩ | ⟨_, isOk, _⟩ := perform_generate isText ended
    · exact Or.inl ⟨fault, rfl, spares.gainsTorn⟩
    · cases isOk
  · obtain ⟨_, isError, _⟩ | ⟨_, isOk, fresh⟩ := perform_generate isText wrote
    · cases isError
    · cases isOk
      cases rest
      exact Or.inr ⟨path, text, rfl, isText, fresh⟩

end JobWriter

/-! ### What a pool has filed -/

namespace Rollout

/-- The rollout that writes job files for the script at a path and applies them with an engine. -/
def ofFiles (writer : JobWriter) (engine : Engine) (script : Path) (flag dryRun : Bool) : Rollout :=
  ⟨.path script.toText, writer.generator, engine.applier, .bool flag, dryRun⟩

/-- The job of a task with which nothing is left to be done. -/
def Task.finished? : Task → Option String
  | .halfway (.ended (.ok result)) | .collected (.ok result) => result.jobFile
  | _ => none

/-- The job that a task has come to. -/
def Task.job? : Task → Option String
  | .halfway (.built configuration) => some configuration.jobFile
  | task => task.finished?

namespace Pool

/-- The jobs that a pool has come to. -/
def jobs (pool : Pool) : List String := pool.tasks.filterMap (·.2.job?)

/-- The jobs of a pool with which nothing is left to be done. -/
def finished (pool : Pool) : List String := pool.tasks.filterMap (·.2.finished?)

/-- What a pool has filed and started since a session: a job file for each job, no other file but
those that the disk refuses to take, and the engine on each job that is finished, unless it is a dry
run. -/
structure Filing (writer : JobWriter) (engine : Engine) (script : Path) (flag dryRun : Bool)
    (first : Session) (pool : Pool) (session : Session) : Prop where
  grown : first.Extends [.start] true session
  gains : ∃ paths, Gains paths first.tree session.tree ∧
    ∀ path ∈ paths, (path.IsNormal ∧ path.toText ∈ pool.jobs) ∨ first.devices.disk path ≠ none
  filed : ∀ targets task job, (targets, task) ∈ pool.tasks → task.job? = some job →
    writer.IsFiled script flag session.tree targets job
  fresh : ∀ path : Path, path.IsNormal → path.toText ∈ pool.jobs → first.tree.isThere path = false
  distinct : pool.jobs.Nodup
  started : (startsIn (first.since session)).Perm
    (if dryRun then [] else pool.finished.map engine.arguments)

section Steps

variable {writer : JobWriter} {engine : Engine} {script : Path} {flag dryRun : Bool}
  {first session reached : Session} {pool other : Pool} {index : Nat} {targets : Targets}
  {task later : Task}

/-- Only the tasks of a pool count. -/
theorem Filing.of_tasks (filing : Filing writer engine script flag dryRun first pool session)
    (same : other.tasks = pool.tasks) :
    Filing writer engine script flag dryRun first other session := by
  have jobs : other.jobs = pool.jobs := congrArg (List.filterMap _) same
  have finished : other.finished = pool.finished := congrArg (List.filterMap _) same
  obtain ⟨grown, gains, filed, fresh, distinct, started⟩ := filing
  rw [← same] at filed
  rw [← jobs] at gains fresh distinct
  rw [← finished] at started
  exact ⟨grown, gains, filed, fresh, distinct, started⟩

theorem Filing.turns (filing : Filing writer engine script flag dryRun first pool session)
    (turns : List Nat) :
    Filing writer engine script flag dryRun first pool { session with turns := turns } where
  grown := filing.grown.trans (.of_same rfl rfl rfl rfl)
  gains := filing.gains
  filed := filing.filed
  fresh := filing.fresh
  distinct := filing.distinct
  started := filing.started

/-- Every job is the text of a path. -/
theorem Filing.toText_ofText (filing : Filing writer engine script flag dryRun first pool session)
    {job : String} (member : job ∈ pool.jobs) : (Path.ofText job).toText = job := by
  obtain ⟨⟨targets, task⟩, isTask, isJob⟩ := List.mem_filterMap.mp member
  obtain ⟨path, normal, rfl, _⟩ := filing.filed targets task job isTask isJob
  rw [Path.ofText_toText normal]

/-- A job that stands in a tree is no path to which nothing led. -/
theorem Filing.not_mem_jobs (filing : Filing writer engine script flag dryRun first pool session)
    {path : Path} (normal : path.IsNormal) (absent : session.tree.isThere path = false) :
    path.toText ∉ pool.jobs := by
  intro member
  obtain ⟨⟨targets, task⟩, isTask, isJob⟩ := List.mem_filterMap.mp member
  obtain ⟨known, isNormal, same, held⟩ := filing.filed targets task _ isTask isJob
  have samePath : known = path := by
    rw [← Path.ofText_toText isNormal, same, Path.ofText_toText normal]
  obtain ⟨_, _, read⟩ := held
  rw [samePath] at read
  rw [isThere_of_read read] at absent
  cases absent

/-- A task that stays with its job while nothing is filed or started. -/
theorem Filing.same (filing : Filing writer engine script flag dryRun first pool session)
    (found : pool.tasks[index]? = some (targets, task)) (sameJob : later.job? = task.job?)
    (sameFinished : later.finished? = task.finished?)
    (quiet : session.Extends [] true reached)
    (torn : GainsTorn first.devices.disk session.tree reached.tree) :
    Filing writer engine script flag dryRun first (pool.setTask index targets later) reached := by
  have jobs : (pool.setTask index targets later).jobs = pool.jobs :=
    filterMap_set_of_eq index found sameJob
  have finished : (pool.setTask index targets later).finished = pool.finished :=
    filterMap_set_of_eq index found sameFinished
  have onwards : session.Extends [.start] true reached := quiet.mono (List.nil_subset _) id
  obtain ⟨paths, gains, isJob⟩ := filing.gains
  obtain ⟨gained, more, refused⟩ := torn
  refine ⟨filing.grown.trans onwards, ⟨paths ++ gained, gains.trans more, ?_⟩, ?_, ?_, ?_, ?_⟩
  · rw [jobs]
    intro path member
    obtain before | now := List.mem_append.mp member
    · exact isJob path before
    · exact Or.inr (refused path now)
  · intro others current job member isJob
    obtain before | now := List.mem_or_eq_of_mem_set member
    · exact (filing.filed others current job before isJob).later more
    · obtain ⟨rfl, rfl⟩ := Prod.mk.inj now
      rw [sameJob] at isJob
      exact (filing.filed _ task job (List.mem_of_getElem? found) isJob).later more
  · rw [jobs]
    exact filing.fresh
  · rw [jobs]
    exact filing.distinct
  · rw [finished, filing.grown.startsIn_before quiet List.not_mem_nil]
    exact filing.started

/-- A task that comes to a job while the job file is written. -/
theorem Filing.prepared {path : Path} {text : String}
    (filing : Filing writer engine script flag dryRun first pool session)
    (found : pool.tasks[index]? = some (targets, task)) (noJob : task.job? = none)
    (isJob : later.job? = some path.toText)
    (sameFinished : dryRun = false → later.finished? = task.finished?)
    (quiet : session.Extends [] true reached)
    (isText : Yaml.writeFields (writer.documentFor script flag targets).fields = .ok text)
    (fresh : Fresh path (Text.Utf8.encode text) session.tree reached.tree) :
    Filing writer engine script flag dryRun first (pool.setTask index targets later) reached := by
  have jobs : (pool.setTask index targets later).jobs.Perm (path.toText :: pool.jobs) :=
    filterMap_set_perm index found noJob isJob
  have onwards : session.Extends [.start] true reached := quiet.mono (List.nil_subset _) id
  obtain ⟨paths, gains, known⟩ := filing.gains
  refine ⟨filing.grown.trans onwards, ⟨paths ++ [path], gains.trans fresh.gains, ?_⟩, ?_, ?_, ?_,
    ?_⟩
  · intro other member
    rw [jobs.mem_iff]
    obtain before | now := List.mem_append.mp member
    · exact (known other before).imp_left fun ⟨normal, isJob⟩ =>
        ⟨normal, List.mem_cons_of_mem _ isJob⟩
    · rw [List.mem_singleton.mp now]
      exact Or.inl ⟨fresh.normal, List.mem_cons_self⟩
  · intro others current job member hasJob
    obtain before | now := List.mem_or_eq_of_mem_set member
    · exact (filing.filed others current job before hasJob).later fresh.gains
    · obtain ⟨rfl, rfl⟩ := Prod.mk.inj now
      rw [isJob] at hasJob
      exact ⟨path, fresh.normal, Option.some.inj hasJob, text, isText, fresh.held⟩
  · intro other normal member
    obtain now | before := List.mem_cons.mp (jobs.mem_iff.mp member)
    · rw [← Path.ofText_toText normal, now, Path.ofText_toText fresh.normal]
      exact gains.isThere fresh.absent
    · exact filing.fresh other normal before
  -- nothing was at the path before, so no earlier job is there
  · rw [jobs.nodup_iff, List.nodup_cons]
    exact ⟨filing.not_mem_jobs fresh.normal fresh.absent, filing.distinct⟩
  · rw [filing.grown.startsIn_before quiet List.not_mem_nil]
    cases isDry : dryRun with
    | true =>
      have none := filing.started
      rw [isDry] at none
      exact none
    | false =>
      have finished : (pool.setTask index targets later).finished = pool.finished :=
        filterMap_set_of_eq index found (sameFinished isDry)
      have started := filing.started
      rw [isDry] at started
      rw [finished]
      exact started

/-- A task with whose job nothing is left to be done once the engine was started on it. -/
theorem Filing.completed {job : String}
    (filing : Filing writer engine script flag dryRun first pool session)
    (found : pool.tasks[index]? = some (targets, task)) (wet : dryRun = false)
    (sameJob : later.job? = task.job?) (unfinished : task.finished? = none)
    (isFinished : later.finished? = some job) (grown : session.Extends [.start] false reached)
    (started : startsIn (session.since reached) = [engine.arguments job]) :
    Filing writer engine script flag dryRun first (pool.setTask index targets later) reached := by
  have jobs : (pool.setTask index targets later).jobs = pool.jobs :=
    filterMap_set_of_eq index found sameJob
  have finished : (pool.setTask index targets later).finished.Perm (job :: pool.finished) :=
    filterMap_set_perm index found unfinished isFinished
  have onwards : session.Extends [.start] true reached :=
    grown.mono (List.Subset.refl _) fun _ => rfl
  have sameTree : reached.tree = session.tree := grown.tree rfl
  refine ⟨filing.grown.trans onwards, ?_, ?_, ?_, ?_, ?_⟩
  · rw [sameTree, jobs]
    exact filing.gains
  · intro others current other member isJob
    rw [sameTree]
    obtain before | now := List.mem_or_eq_of_mem_set member
    · exact filing.filed others current other before isJob
    · obtain ⟨rfl, rfl⟩ := Prod.mk.inj now
      rw [sameJob] at isJob
      exact filing.filed _ task other (List.mem_of_getElem? found) isJob
  · rw [jobs]
    exact filing.fresh
  · rw [jobs]
    exact filing.distinct
  · have before := filing.started
    rw [wet] at before ⊢
    rw [filing.grown.since_append onwards, startsIn_append, started]
    exact ((before.append_right _).trans List.perm_append_comm).trans (finished.map _).symm

theorem jobFile_completed (targets : Targets) (job uri : String) (applied : Except Fault Unit) :
    (Rollout.completed targets job uri applied).jobFile = some job := by
  unfold Rollout.completed
  split
  · rfl
  · rfl

/-- What the first half of a rollout comes to with a generator that gives the path of a job file. -/
theorem job?_halfwayOf_path (rollout : Rollout) (targets : Targets) (file job : String) :
    (Task.halfway (rollout.halfwayOf targets file (.ok (.path job)))).job? = some job ∧
      (rollout.dryRun = false →
        (Task.halfway (rollout.halfwayOf targets file (.ok (.path job)))).finished? = none) := by
  have refers : referenceIn (.ok (.path job)) = some job := rfl
  unfold halfwayOf
  rw [refers]
  dsimp only
  cases rollout.dryRun with
  | true => exact ⟨rfl, fun wet => Bool.noConfusion wet⟩
  | false => exact ⟨rfl, fun _ => rfl⟩

/-- What comes of asking for a job file. -/
theorem asked_ofFiles {outcome : Except Fault Value} (form : writer.HasForm)
    (normal : script.IsNormal) (filled : targets.databases ≠ [])
    (asked : (ofFiles writer engine script flag dryRun).asked targets script.toText session =
      (outcome, reached)) :
    session.Extends [] true reached ∧
      ((∃ fault, outcome = .error fault ∧
          GainsTorn session.devices.disk session.tree reached.tree) ∨
        ∃ path text, outcome = .ok (.path path.toText) ∧
          Yaml.writeFields (writer.documentFor script flag targets).fields = .ok text ∧
          Fresh path (Text.Utf8.encode text) session.tree reached.tree) := by
  have asking : session.Extends [] false
      (askingSession targets.clusterUri targets.databases session) :=
    extends_askingSession _ session fun empty => absurd empty filled
  unfold Rollout.asked at asked
  rw [Path.ofText_toText normal] at asked
  have writing : (askingSession targets.clusterUri targets.databases session).Extends [] true
      reached := (writer.within_generator _ _ _ _).of_perform asked
  refine ⟨asking.loosen.trans writing, ?_⟩
  rw [← asking.tree rfl, ← asking.devices]
  exact JobWriter.perform_generator form asked

/-- What comes of applying a job. -/
theorem applied_ofFiles (configuration : Configuration) {outcome : Except Fault Unit}
    (applied : (ofFiles writer engine script flag dryRun).applied configuration session =
      (outcome, reached)) :
    session.Extends [.start] false reached ∧
      startsIn (session.since reached) = [engine.arguments configuration.jobFile] := by
  have noting : session.Extends [] false (session.noting (applyingRecord configuration)) :=
    session.extends_noting _ (Or.inl rfl)
  have starting : (session.noting (applyingRecord configuration)).Extends [.start] false reached :=
    (engine.within_applier configuration.jobFile List.mem_cons_self).of_perform applied
  refine ⟨noting.loosen.trans starting, ?_⟩
  have once := engine.startsIn_apply configuration.jobFile
    (session.noting (applyingRecord configuration))
  have isReached := congrArg Prod.snd applied
  rw [noting.startsIn_behind List.not_mem_nil starting, ← once]
  exact congrArg (fun later => startsIn (Session.since _ later)) isReached.symm

/-- **A step keeps account of what is filed and started.** -/
theorem Step.filing
    (step : Step (ofFiles writer engine script flag dryRun) script.toText pool session index other
      reached)
    (form : writer.HasForm) (normal : script.IsNormal)
    (filled : ∀ targets ∈ pool.tasks.map Prod.fst, targets.databases ≠ [])
    (dry : dryRun = true → pool.IsDry)
    (filing : Filing writer engine script flag dryRun first pool session) :
    Filing writer engine script flag dryRun first other reached := by
  cases step with
  | claim found => exact filing.same found rfl rfl (.refl session) (gainsTorn_refl _ _)
  | @prepare targets found =>
    generalize generated : (ofFiles writer engine script flag dryRun).asked targets script.toText
      session = both
    obtain ⟨outcome, asked⟩ := both
    have planned := List.mem_map_of_mem (f := Prod.fst) (List.mem_of_getElem? found)
    obtain ⟨asking, comes⟩ := asked_ofFiles form normal (filled targets planned) generated
    have noting : asked.Extends [] false (notingUnbuilt targets.clusterUri outcome asked) :=
      extends_notingUnbuilt _ _ _
    have quiet := asking.trans noting.loosen
    dsimp only
    rw [← noting.tree rfl, filing.grown.devices] at comes
    obtain ⟨fault, rfl, torn⟩ | ⟨path, text, rfl, isText, fresh⟩ := comes
    · exact filing.same found rfl rfl quiet torn
    · obtain ⟨isJob, unfinished⟩ := job?_halfwayOf_path
        (ofFiles writer engine script flag dryRun) targets script.toText path.toText
      exact filing.prepared found rfl isJob unfinished quiet isText fresh
  | @complete targets configuration found =>
    have wet : dryRun = false := by
      by_contra isDry
      exact dry (Bool.not_eq_false _ ▸ isDry) _ (List.mem_of_getElem? found) configuration rfl
    generalize isApplied : (ofFiles writer engine script flag dryRun).applied configuration
      session = both
    obtain ⟨outcome, applied⟩ := both
    obtain ⟨applying, once⟩ := applied_ofFiles configuration isApplied
    have noting : applied.Extends [] false
        (notingUnapplied configuration.clusterUri outcome applied) :=
      extends_notingUnapplied _ _ _
    have isJob := jobFile_completed targets configuration.jobFile configuration.clusterUri outcome
    exact filing.completed found wet isJob rfl isJob (applying.trans noting.loosen)
      ((applying.startsIn_before noting List.not_mem_nil).trans once)
  | @collect targets outcome found =>
    have collected : Filing writer engine script flag dryRun first
        (pool.setTask index targets (.collected outcome)) session := by
      refine filing.same found ?_ ?_ (.refl session) (gainsTorn_refl _ _)
      · cases outcome with
        | error fault => rfl
        | ok result => rfl
      · cases outcome with
        | error fault => rfl
        | ok result => rfl
    exact collected.of_tasks rfl

/-- Nothing is filed or started at first. -/
theorem filing_submit (writer : JobWriter) (engine : Engine) (script : Path) (flag dryRun : Bool)
    (session : Session) (workers : Value) (plans : List Targets) :
    Filing writer engine script flag dryRun session (submit workers plans) session := by
  have none : ∀ entry ∈ (submit workers plans).tasks, entry.2.job? = Option.none ∧
      entry.2.finished? = Option.none := by
    intro entry member
    obtain ⟨targets, _, rfl⟩ := List.mem_map.mp member
    exact ⟨rfl, rfl⟩
  have noJobs : (submit workers plans).jobs = [] :=
    List.filterMap_eq_nil_iff.mpr fun entry member => (none entry member).1
  have noneFinished : (submit workers plans).finished = [] :=
    List.filterMap_eq_nil_iff.mpr fun entry member => (none entry member).2
  refine ⟨.refl session, ⟨[], .refl _, fun path member => absurd member List.not_mem_nil⟩, ?_, ?_,
    ?_, ?_⟩
  · intro targets task job member isJob
    rw [(none (targets, task) member).1] at isJob
    cases isJob
  · rw [noJobs]
    exact fun path _ member => absurd member List.not_mem_nil
  · rw [noJobs]
    exact List.nodup_nil
  · rw [noneFinished, Session.since_eq (List.append_nil _).symm, List.map_nil, ite_self]
    exact .refl []

end Steps

end Pool

end Rollout

end FleetSchema
