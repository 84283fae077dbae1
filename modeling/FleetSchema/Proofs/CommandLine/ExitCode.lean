/-
**The code that an applied schema ends with.**

A run that comes to rolling out ends with a code that depends on its results: a failure counts,
unless the run is a dry one. A dry run ends well even when no job file could be generated.

* `ApplyRequest.FailureCounts`: what makes a run end with the code of a failure;
* `exits_by_results`: the code of such a run, for any results;
* `exits_well_unbuilt`: a dry run with a failure that ends well.
-/

import FleetSchema.Proofs.CommandLine.Applied

namespace FleetSchema

open FleetSchema.Action

namespace ApplyRequest

variable {request : ApplyRequest} {results : List RolloutResult}

/-- Some rollout has failed, and this is no dry run. -/
def FailureCounts (request : ApplyRequest) (results : List RolloutResult) : Prop :=
  request.dryRun = false ∧ ∃ result ∈ results, result.status = .failed

theorem exists_failed_iff :
    (results.filter (·.status == .failed)).isEmpty = false ↔
      ∃ result ∈ results, result.status = .failed := by
  rw [List.isEmpty_eq_false_iff_exists_mem]
  constructor
  · rintro ⟨result, member⟩
    obtain ⟨inside, failed⟩ := List.mem_filter.mp member
    exact ⟨result, inside, beq_iff_eq.mp failed⟩
  · rintro ⟨result, inside, failed⟩
    exact ⟨result, List.mem_filter.mpr ⟨inside, beq_iff_eq.mpr failed⟩⟩

theorem verdict_of_failureCounts (counts : request.FailureCounts results) :
    request.verdict results = .error (.exit Stop.failureCode none) := by
  unfold verdict
  rw [counts.1, exists_failed_iff.mpr counts.2]
  rfl

theorem exitCode?_verdict_of_not_failureCounts (spared : ¬ request.FailureCounts results) :
    CommandLine.exitCode? (request.verdict results) = some 0 := by
  unfold verdict
  cases dry : request.dryRun with
  | true => rfl
  | false =>
    cases none : (results.filter (·.status == .failed)).isEmpty with
    | true => rfl
    | false => exact absurd ⟨dry, exists_failed_iff.mp none⟩ spared

/-! ### Failures in a table -/

/-- The cells of the results of a table of results: how each rollout went. -/
def statusCells (table : Table) : List String := table.rows.filterMap (·[2]?)

/-- The cell of a rollout that has failed. -/
def failedCell : String := Tone.err.paintNamed RolloutStatus.failed.word

/-- A table of results shows a failure exactly when there is one. -/
theorem failedCell_mem_iff :
    failedCell ∈ statusCells (resultsTable results) ↔
      ∃ result ∈ results, result.status = .failed := by
  have cell (status : RolloutStatus) :
      (Table.statusTone status.word).paintNamed status.word = failedCell ↔ status = .failed := by
    cases status with
    | success => decide
    | failed => decide
    | skipped => decide
  unfold statusCells resultsTable Table.ofResults
  dsimp only
  rw [List.map_map, List.filterMap_map, List.mem_filterMap]
  exact exists_congr fun result => and_congr_right fun _ =>
    Option.some_inj.trans (cell result.status)

/-- A failure that is shown behind the plans is among the results. -/
theorem exists_failed_of_cells {session : Session} {plans : List Targets}
    (cells : (targetsTable plans :: session.shown [resultsTable results]).map
      (fun table => decide (failedCell ∈ statusCells table)) = [false, true]) :
    ∃ result ∈ results, result.status = .failed := by
  have shows := (List.cons.inj cells).2
  unfold Session.shown at shows
  rw [List.filter_cons, List.filter_nil] at shows
  split at shows
  · exact failedCell_mem_iff.mp (of_decide_eq_true (List.cons.inj shows).1)
  · cases shows

end ApplyRequest

namespace CommandLine

variable {surroundings : Surroundings} {words : List String} {session last : Session}
  {outcome : Except Stop Unit}

/-- Only a command that applies a schema comes to rolling out. -/
theorem perform_run_rolling [Interpreter]
    (performed : (run surroundings words).perform session = (outcome, last))
    (comes : ∃ event ∈ session.since last, event.kind = .rollout) :
    ∃ settings middle, named? words = some (.applySchema, settings) ∧
      session.Extends [] false middle ∧
      ((ApplyRequest.ofSettings settings).run surroundings).perform middle = (outcome, last) := by
  obtain ⟨quiet, _⟩ | ⟨command, settings, middle, named, quiet, performed⟩ := perform_run performed
  · exact absurd (quiet.mem_kinds (by decide) comes) (by decide)
  by_cases applies : command = .applySchema
  · subst applies
    exact ⟨settings, middle, named, quiet, performed⟩
  · have other := (within_runCommand surroundings settings applies).of_perform performed
    exact absurd ((quiet.loosen.trans other).mem_kinds (by decide) comes) (by decide)

/-- The verdict on results has the code of a failure when a failure counts, and ends well
otherwise. -/
theorem exits_by_verdict {request : ApplyRequest} (results : List RolloutResult) :
    (exitCode? (request.verdict results) = some Stop.failureCode ↔
        request.FailureCounts results) ∧
      (exitCode? (request.verdict results) = some 0 ↔ ¬ request.FailureCounts results) := by
  by_cases counts : request.FailureCounts results
  · rw [ApplyRequest.verdict_of_failureCounts counts]
    exact ⟨⟨fun _ => counts, fun _ => rfl⟩, ⟨fun ends => absurd ends (by decide),
      fun spared => absurd counts spared⟩⟩
  · rw [ApplyRequest.exitCode?_verdict_of_not_failureCounts counts]
    exact ⟨⟨fun ends => absurd ends (by decide), fun other => absurd other counts⟩,
      ⟨fun _ => counts, fun _ => rfl⟩⟩

/-- **The code tells whether a failure counts.** A run that comes to rolling out has a result for
each of its plans, which it shows. Once its clusters are closed, it ends with the code of a failure
when some result is one and the run is no dry one, and ends well otherwise. Only when the console
refuses the results or the line behind them, the run ends with that defect and without a code. -/
theorem exits_by_results [Interpreter]
    (performed : (run surroundings words).perform session = (outcome, last))
    (comes : ∃ event ∈ session.since last, event.kind = .rollout) :
    ∃ settings plans results clusters carried,
      let request := ApplyRequest.ofSettings settings
      named? words = some (.applySchema, settings) ∧
      List.Forall₂ (fun targets result => result.clusterUri = targets.clusterUri) plans results ∧
      tablesIn (session.since last) =
        ApplyRequest.targetsTable plans :: session.shown [ApplyRequest.resultsTable results] ∧
      Surroundings.Closes clusters carried (request.concluded session.devices results) last
        outcome ∧
      (((Surroundings.closeEach clusters).perform carried).1 = .ok () →
        (request.unshown? session.devices results = none →
          (exitCode? outcome = some Stop.failureCode ↔ request.FailureCounts results) ∧
          (exitCode? outcome = some 0 ↔ ¬ request.FailureCounts results)) ∧
        ∀ defect, request.unshown? session.devices results = some defect →
          outcome = .error (.fault (.defect defect)) ∧ exitCode? outcome = none) := by
  obtain ⟨settings, middle, named, quiet, performed⟩ := perform_run_rolling performed comes
  obtain ⟨schema, plans, stored, results, files, clusters, carried, _, tables, applied, closes⟩ :=
    ApplyRequest.run_completes quiet performed comes
  refine ⟨settings, plans, results, clusters, carried, named, applied.filed.answered, tables, closes,
    fun closed => ?_⟩
  cases closes with
  | failed fails =>
    rw [fails] at closed
    cases closed
  | closed =>
    unfold ApplyRequest.concluded
    refine ⟨fun shown => ?_, fun defect unshown => ?_⟩
    · rw [shown]
      exact exits_by_verdict results
    · rw [unshown]
      exact ⟨rfl, rfl⟩

/-- A run on a cluster on which the engine fails. -/
theorem exits_by_results_engine_failing :
    let surroundings : Surroundings := ⟨[("KSCHEMA_WORK_DIR", "/w")], .ofText "/tmp",
      ⟨fun _ => none, fun _ => none,
        fun client => .answering (some client) (.ok ⟨[[.list [.text "sales"]]], []⟩)⟩,
      .ok "token", fun _ => .ok ⟨3, "", ""⟩⟩
    let session := Session.start ⟨[], [(["s.kql"], .file 0o644 [46])]⟩
    let words := ["schema", "apply", "-c", "https://f.k", "-f", "/s.kql", "--dbs", "sales",
      "--no-confirm"]
    let ended := (run surroundings words).perform session
    exitCode? ended.1 = some 1 ∧
      ∃ settings plans results, named? words = some (.applySchema, settings) ∧
        tablesIn (session.since ended.2) =
          [ApplyRequest.targetsTable plans, ApplyRequest.resultsTable results] ∧
        (ApplyRequest.ofSettings settings).FailureCounts results := by
  intro surroundings session words ended
  have wet : (named? words).map (fun entry => (ApplyRequest.ofSettings entry.2).dryRun) =
      some false := by decide +kernel
  have seen : exitCode? ended.1 = some 1 ∧
      (∃ event ∈ session.since ended.2, event.kind = .rollout) ∧
      (tablesIn (session.since ended.2)).map (fun table =>
        decide (ApplyRequest.failedCell ∈ ApplyRequest.statusCells table)) = [false, true] := by
    decide +kernel
  obtain ⟨code, comes, cells⟩ := seen
  obtain ⟨settings, plans, results, _, _, named, _, tables, _⟩ :=
    exits_by_results (Prod.eta _).symm comes
  rw [named] at wet
  rw [tables] at cells
  exact ⟨code, settings, plans, results, named, tables, Option.some.inj wet,
    ApplyRequest.exists_failed_of_cells cells⟩

/-- A dry run whose only job file cannot be written: its result is a failure, and it ends well. -/
theorem exits_well_unbuilt :
    let surroundings : Surroundings := .offline [("KSCHEMA_WORK_DIR", "/w")] (.ofText "/tmp")
      (.stated .query "out of reach")
    let session := Session.start ⟨[], [(["s.kql"], .file 0o644 [46]), (["w"], .directory 0o755),
      (["w", "jobs"], .file 0o644 [])]⟩
    let words := ["schema", "apply", "-c", "https://f.k", "-f", "/s.kql", "--dbs", "sales",
      "--dry-run"]
    let ended := (run surroundings words).perform session
    exitCode? ended.1 = some 0 ∧ (∃ event ∈ session.since ended.2, event.kind = .rollout) ∧
      ∃ plans results, tablesIn (session.since ended.2) =
          [ApplyRequest.targetsTable plans, ApplyRequest.resultsTable results] ∧
        ∃ result ∈ results, result.status = .failed := by
  intro surroundings session words ended
  have seen : exitCode? ended.1 = some 0 ∧
      (∃ event ∈ session.since ended.2, event.kind = .rollout) ∧
      (tablesIn (session.since ended.2)).map (fun table =>
        decide (ApplyRequest.failedCell ∈ ApplyRequest.statusCells table)) = [false, true] := by
    decide +kernel
  obtain ⟨code, comes, cells⟩ := seen
  obtain ⟨settings, middle, _, quiet, performed⟩ := perform_run_rolling (Prod.eta _).symm comes
  obtain ⟨_, plans, _, results, _, _, _, _, tables, _⟩ :=
    ApplyRequest.run_completes quiet performed comes
  rw [tables] at cells
  exact ⟨code, comes, plans, results, tables,
    ApplyRequest.exists_failed_of_cells cells⟩

end CommandLine

end FleetSchema
