/-
**What is applied is what was targeted.**

A run that comes to rolling out has shown the plans and goes through with exactly these: it stores
the schema once, files one job document for each cluster whose job is generated, with one job for
each database of the plan, and starts the engine once on each of these files.

* `perform_carryOut`: what carrying out a request comes to;
* `Targeted`, `Applied`: what such a run targets, and what it applies;
* `applies_what_is_targeted`: the two agree.
-/

import FleetSchema.Proofs.CommandLine.Targeting
import FleetSchema.Proofs.Rollout.JobFiles

namespace FleetSchema

open FleetSchema.Action FileTree

/-! ### Carrying out -/

/-- The credentials of an application have a form in a document. -/
theorem Surroundings.hasForm_jobWriter (surroundings : Surroundings) :
    surroundings.jobWriter.HasForm := by
  intro fields isProvider
  obtain ⟨credentials, _, rfl⟩ := Option.map_eq_some_iff.mp isProvider
  exact credentials.formlessField?_tokenProvider

namespace ApplyRequest

variable {request : ApplyRequest} {surroundings : Surroundings} {schema : SchemaDefinition}
  {plans : List Targets} {first last : Session} {outcome : Except Stop Unit}

/-- A stored schema that is rolled out is filed and started as the results tell. Nothing is done
when the rollout cannot be announced. -/
theorem perform_rollOut {stored : Path} (normal : stored.IsNormal)
    (posed : Rollout.WellPosed request.workers plans) (first : Session) :
    (∃ stop, (request.rollOut surroundings stored plans).perform first = (.error stop, first)) ∨
    ∃ results files last,
      (request.rollOut surroundings stored plans).perform first = (.ok results, last) ∧
      first.Extends [.rollout, .pool, .start] true last ∧
      Rollout.Filed surroundings.engine stored request.lossFlag request.dryRun plans results files
        (first.since last) last.tree ∧
      NewFiles first.devices.disk (files.map JobFile.path) first.tree last.tree := by
  obtain ⟨message, isRollOut⟩ : ∃ message, request.rollOut surroundings stored plans =
      Stop.plainly (Console.status message ((Rollout.ofFiles surroundings.jobWriter
        surroundings.engine stored request.lossFlag request.dryRun).applyAll (.int request.workers)
          plans)) := ⟨_, rfl⟩
  cases shown : first.refusal (.statusBegin message) with
  | some defect =>
    refine Or.inl ⟨.fault (.defect defect), ?_⟩
    rw [isRollOut, Stop.perform_plainly, perform_status, shown]
    rfl
  | none =>
    right
    have begins := first.extends_statusBegin message
    obtain ⟨results, applied, performed, grown, filed, newFiles⟩ :=
      Rollout.perform_applyAll_ofFiles surroundings.engine request.lossFlag request.dryRun
        surroundings.hasForm_jobWriter normal posed
        (first.adding (.console (.statusBegin message)))
    have ends : applied.Extends [] false (applied.adding (.console .statusEnd)) :=
      applied.extends_adding (Or.inl rfl) rfl
    have onwards := grown.trans ends.loosen
    refine ⟨results, _, applied.adding (.console .statusEnd), ?_, ?_, filed.of_starts ?_, ?_⟩
    · rw [isRollOut, Stop.perform_plainly, perform_status, shown]
      dsimp only
      rw [performed]
      rfl
    · exact (begins.mono (by decide) fun _ => rfl).trans (onwards.mono (by decide) id)
    · rw [begins.startsIn_behind (by decide) onwards, grown.startsIn_before ends List.not_mem_nil]
    · exact newFiles

/-- What a request that is carried out comes to: the schema is stored, its job files are filed and
started as the results tell, and no other file is new that the disk takes. -/
structure Applied (request : ApplyRequest) (surroundings : Surroundings)
    (schema : SchemaDefinition) (stored : Path) (plans : List Targets)
    (results : List RolloutResult) (files : List JobFile) (first last : Session) : Prop where
  holdsSchema : last.tree.read stored = .ok (Text.Utf8.encode schema.text)
  filed : Rollout.Filed surroundings.engine stored request.lossFlag request.dryRun plans results
    files (first.since last) last.tree
  newFiles : NewFiles first.devices.disk (stored :: files.map JobFile.path) first.tree last.tree

/-- Carrying out a request ends with storing its schema, or it rolls the stored schema out. -/
theorem perform_carryOut_stages
    (performed : (request.carryOut surroundings schema plans).perform first = (outcome, last)) :
    first.Extends [] true last ∨
    ∃ stored placed, Fresh stored (Text.Utf8.encode schema.text) first.tree placed.tree ∧
      first.Extends [] true placed ∧
      (request.rollOut surroundings stored plans >>= request.conclude).perform placed =
        (outcome, last) := by
  have within : (Stop.expecting (surroundings.store.store schema)).Within [] true :=
    Stop.within_expecting (SchemaStore.within_store _ _)
  unfold carryOut at performed
  obtain ⟨stop, ended, _⟩ | ⟨stored, placed, storing, performed⟩ := perform_bind_cases performed
  · exact Or.inl (within.of_perform ended)
  · exact Or.inr ⟨stored, placed, SchemaStore.store_eq_ok (Stop.expecting_eq_ok storing),
      within.of_perform storing, performed⟩

/-- **A request is carried out as its results tell**, unless its schema cannot be stored or its
rollout cannot be announced. -/
theorem perform_carryOut
    (performed : (request.carryOut surroundings schema plans).perform first = (outcome, last))
    (posed : Rollout.WellPosed request.workers plans) :
    first.Extends [] true last ∨
    ∃ stored results files,
      first.Extends [.table, .rollout, .pool, .start] true last ∧
      tablesIn (first.since last) = first.shown [resultsTable results] ∧
      Applied request surroundings schema stored plans results files first last ∧
      outcome = request.concluded first.devices results := by
  obtain unstored | ⟨stored, placed, fresh, quiet, performed⟩ := perform_carryOut_stages performed
  · exact Or.inl unstored
  obtain ⟨stop, unannounced⟩ | ⟨results, files, rolled, isRolled, grown, filed, newFiles⟩ :=
    perform_rollOut fresh.normal posed placed
  · rw [perform_bind, unannounced] at performed
    cases performed
    exact Or.inl quiet
  rw [perform_bind, isRolled] at performed
  obtain ⟨shown, tables, isVerdict⟩ := perform_conclude performed
  have onwards : placed.Extends [.table, .rollout, .pool, .start] true last :=
    (grown.mono (by decide) id).trans (shown.mono (by decide) fun _ => rfl)
  refine Or.inr ⟨stored, results, files, (quiet.mono (List.nil_subset _) id).trans onwards, ?_, ?_,
    ?_⟩
  · rw [quiet.tablesIn_behind List.not_mem_nil onwards, grown.tablesIn_behind (by decide) shown,
      tables, grown.shown, quiet.shown]
  · have sameTree : last.tree = rolled.tree := shown.tree rfl
    rw [← sameTree] at filed newFiles
    rw [quiet.devices] at newFiles
    obtain ⟨_, gains, _⟩ := newFiles.gains
    refine ⟨gains.read fresh.held, filed.of_starts ?_, fresh.cons newFiles⟩
    rw [quiet.startsIn_behind List.not_mem_nil onwards, grown.startsIn_before shown (by decide)]
  · rw [isVerdict, grown.devices, quiet.devices]

/-- Stages around that start nothing and leave files as they are. -/
theorem Applied.around {stored : Path} {results : List RolloutResult} {files : List JobFile}
    {begun ended : Session} {before during after : List EventKind}
    (applied : Applied request surroundings schema stored plans results files begun ended)
    (begins : first.Extends before false begun) (grown : begun.Extends during true ended)
    (ends : ended.Extends after false last) (silent : .start ∉ before)
    (silentAfter : .start ∉ after) :
    Applied request surroundings schema stored plans results files first last := by
  obtain ⟨holdsSchema, filed, newFiles⟩ := applied
  rw [← ends.tree rfl] at holdsSchema filed newFiles
  rw [begins.tree rfl, begins.devices] at newFiles
  have onwards : begun.Extends (during ++ after) true last :=
    (grown.mono (List.subset_append_left _ _) id).trans
      (ends.mono (List.subset_append_right _ _) fun _ => rfl)
  refine ⟨holdsSchema, filed.of_starts ?_, newFiles⟩
  rw [begins.startsIn_behind silent onwards, grown.startsIn_before ends silentAfter]

/-! ### Runs -/

variable [Interpreter]

/-- What a run targets: the plans are those that the request came to in the run, on clusters whose
clients were made for their addresses. No database is in them twice, and the user was asked about as
many as there are. -/
structure Targeted (request : ApplyRequest) (surroundings : Surroundings) (plans : List Targets)
    (first last : Session) : Prop where
  narrowed : ∃ filter clusters found picked before after,
    request.selection.filter = .ok filter ∧ surroundings.Reached (first.since last) clusters ∧
    first.Extends [.question, .connection] false before ∧
    (request.targets surroundings filter clusters).perform before = (.ok plans, after) ∧
    after.Extends [.question, .table, .rollout, .pool, .start] true last ∧
    Narrowed request surroundings filter clusters found picked plans
  clients : ∀ targets ∈ plans, ∃ number, .call (.connected ⟨number, targets.clusterUri⟩
    (Connection.loginFor surroundings.named targets.clusterUri)) ∈ first.since last
  distinct : (pairsOf plans).Nodup
  questions : ∀ asked ∈ questionsIn (first.since last), asked = Prompt.titled meantQuestion ∨
    asked = Prompt.titled (applyQuestion (pairsOf plans).length plans.length)

section Gates

variable {filter : TargetFilter} {clusters : List Cluster} {meant connected ready : Session}

/-- The events of a run that is carried out, by its stages. -/
theorem since_of_ready (isMeant : Meant request filter first meant)
    (connecting : meant.Extends [.connection] false connected)
    (isReady : Ready request surroundings filter clusters plans connected ready)
    (onwards : ready.Extends [.table, .rollout, .pool, .start] true last) :
    first.since last = first.since meant ++ meant.since connected ++ connected.since ready ++
      ready.since last := by
  have before : first.Extends [.question, .connection] false connected :=
    (isMeant.grown.mono (by decide) id).trans (connecting.mono (by decide) id)
  have gates : first.Extends [.question, .connection, .table] false ready :=
    (before.mono (by decide) id).trans (isReady.grown.mono (by decide) id)
  rw [gates.since_append onwards, before.since_append isReady.grown,
    isMeant.grown.since_append connecting]

/-- A run that is carried out has targeted its plans. -/
theorem targeted_of_ready (isMeant : Meant request filter first meant)
    (connecting : meant.Extends [.connection] false connected)
    (reached : surroundings.Reached (meant.since connected) clusters)
    (isReady : Ready request surroundings filter clusters plans connected ready)
    (onwards : ready.Extends [.table, .rollout, .pool, .start] true last) :
    Targeted request surroundings plans first last := by
  have split := since_of_ready isMeant connecting isReady onwards
  obtain ⟨resolved, isPlans, shown⟩ := isReady.targets
  obtain ⟨found, picked, narrowed⟩ := targets_eq_ok isPlans
  have here : meant.since connected ⊆ first.since last := by
    intro event member
    rw [split]
    exact List.mem_append_left _ (List.mem_append_left _ (List.mem_append_right _ member))
  have everywhere := reached.mono here
  have distinct := narrowed.nodup_pairsOf reached.distinct
  refine ⟨⟨filter, clusters, found, picked, connected, resolved, isMeant.filtered, everywhere,
    (isMeant.grown.mono (by decide) id).trans (connecting.mono (by decide) id), isPlans,
    (shown.mono (by decide) fun _ => rfl).trans (onwards.mono (by decide) id), narrowed⟩, ?_,
    distinct, ?_⟩
  · intro targets member
    have isUri := narrowed.uris.subset (List.mem_map_of_mem member)
    obtain ⟨cluster, isCluster, sameUri⟩ := List.mem_map.mp isUri
    obtain ⟨⟨number, _⟩, rfl, _, making⟩ := everywhere.client cluster isCluster
    rw [← sameUri]
    exact ⟨number, making⟩
  · intro asked member
    rw [split, questionsIn_append, questionsIn_append, questionsIn_append,
      connecting.areOf.questionsIn_eq_nil (by decide),
      onwards.areOf.questionsIn_eq_nil (by decide), List.append_nil, List.append_nil] at member
    rw [length_pairsOf]
    obtain early | late := List.mem_append.mp member
    · exact Or.inl (isMeant.questions asked early)
    · exact Or.inr (isReady.questions asked late)

end Gates

/-- **A request that comes to rolling out applies what it targets**, and comes to the verdict on its
results unless they cannot be shown or its clusters cannot be closed. -/
theorem run_completes {middle : Session} (quiet : first.Extends [] false middle)
    (performed : (request.run surroundings).perform middle = (outcome, last))
    (comes : ∃ event ∈ first.since last, event.kind = .rollout) :
    ∃ schema plans stored results files clusters carried,
      Targeted request surroundings plans first last ∧
      tablesIn (first.since last) = targetsTable plans :: first.shown [resultsTable results] ∧
      Applied request surroundings schema stored plans results files first last ∧
      Surroundings.Closes clusters carried (request.concluded first.devices results) last
        outcome := by
  have announced {kinds : List EventKind} {writes : Bool}
      (grown : first.Extends kinds writes last) : .rollout ∈ kinds :=
    grown.mem_kinds (by decide) comes
  obtain ⟨early, _⟩ | ⟨filter, meant, isMeant, unready⟩ | ⟨filter, schema, clusters, plans, meant,
    connected, ready, carried, carriedOutcome, isMeant, connecting, reached, isReady, carrying,
    closing, closes⟩ := perform_run_cases performed
  -- a run that ends before it is carried out announces no rollout
  · exact absurd (announced (quiet.loosen.trans early)) (by decide)
  · have both := (isMeant.grown.mono (by decide) id).trans unready
    exact absurd (announced (quiet.loosen.trans both)) (by decide)
  obtain ⟨resolved, isPlans, _⟩ := isReady.targets
  obtain ⟨found, picked, narrowed⟩ := targets_eq_ok isPlans
  have isMeantFirst := isMeant.behind quiet
  have gates : first.Extends [.question, .connection, .table] false ready :=
    ((isMeantFirst.grown.mono (by decide) id).trans (connecting.mono (by decide) id)).trans
      (isReady.grown.mono (by decide) id)
  obtain unstored | ⟨stored, results, files, grown, tables, applied, rfl⟩ :=
    perform_carryOut carrying (narrowed.wellPosed reached.distinct isMeant.enough)
  · have stopped : ready.Extends [.question, .connection, .table] true last :=
      (unstored.mono (List.nil_subset _) id).trans closing.loosen
    exact absurd (announced ((gates.mono (List.Subset.refl _) fun _ => rfl).trans stopped))
      (by decide)
  have onwards := grown.trans closing.loosen
  refine ⟨schema, plans, stored, results, files, clusters, carried,
    targeted_of_ready isMeantFirst connecting reached isReady onwards, ?_,
    applied.around gates grown closing (by decide) List.not_mem_nil, gates.devices ▸ closes⟩
  rw [since_of_ready isMeantFirst connecting isReady onwards, grown.since_append closing,
    tablesIn_append, tablesIn_append, tablesIn_append, tablesIn_append,
    isMeantFirst.grown.areOf.tablesIn_eq_nil (by decide),
    connecting.areOf.tablesIn_eq_nil (by decide), isReady.tables, tables,
    closing.areOf.tablesIn_eq_nil List.not_mem_nil, gates.shown, List.append_nil,
    List.append_nil]
  rfl

theorem run_applies {middle : Session} (quiet : first.Extends [] false middle)
    (performed : (request.run surroundings).perform middle = (outcome, last))
    (comes : ∃ event ∈ first.since last, event.kind = .rollout) :
    ∃ schema plans stored results files,
      Targeted request surroundings plans first last ∧
      tablesIn (first.since last) = targetsTable plans :: first.shown [resultsTable results] ∧
      Applied request surroundings schema stored plans results files first last := by
  obtain ⟨schema, plans, stored, results, files, _, _, targeted, tables, applied, _⟩ :=
    run_completes quiet performed comes
  exact ⟨schema, plans, stored, results, files, targeted, tables, applied⟩

end ApplyRequest

/-! ### From the command line -/

namespace CommandLine

/-- **What is applied is exactly what was targeted.** A run that comes to rolling out applies a
schema, and the plans it has shown are what it targets; the results are shown unless the console
refuses them. Each database of a cluster whose job file is
generated is in one job of one document, and no document is for anything else. -/
theorem applies_what_is_targeted [Interpreter] {surroundings : Surroundings} {words : List String}
    {session last : Session} {outcome : Except Stop Unit}
    (performed : (run surroundings words).perform session = (outcome, last))
    (comes : ∃ event ∈ session.since last, event.kind = .rollout) :
    ∃ settings schema plans stored results files,
      let request := ApplyRequest.ofSettings settings
      named? words = some (.applySchema, settings) ∧
      request.Targeted surroundings plans session last ∧
      tablesIn (session.since last) =
        ApplyRequest.targetsTable plans :: session.shown [ApplyRequest.resultsTable results] ∧
      request.Applied surroundings schema stored plans results files session last ∧
      (∀ targets result pair, (targets, result) ∈ plans.zip results → result.jobFile ≠ none →
        pair ∈ targets.pairs → (files.flatMap (·.document.pairs)).count pair = 1) ∧
      ∀ file ∈ files, file.document.pairs ⊆ pairsOf plans := by
  obtain ⟨quiet, _⟩ | ⟨command, settings, middle, named, quiet, performed⟩ := perform_run performed
  · exact absurd (quiet.mem_kinds (by decide) comes) (by decide)
  by_cases applies : command = .applySchema
  · subst applies
    obtain ⟨schema, plans, stored, results, files, targeted, tables, applied⟩ :=
      ApplyRequest.run_applies quiet performed comes
    exact ⟨settings, schema, plans, stored, results, files, named, targeted, tables, applied,
      fun _ _ _ beside generated member =>
        applied.filed.count_eq_one targeted.distinct beside generated member,
      fun _ member => applied.filed.pairs_subset member⟩
  · have other := (within_runCommand surroundings settings applies).of_perform performed
    have grown := quiet.loosen.trans other
    exact absurd (grown.mem_kinds (by decide) comes) (by decide)

/-- A run on two clusters, with databases whose names are the same once they are made keys of. -/
theorem applies_what_is_targeted_alike :
    let surroundings : Surroundings := ⟨[("KSCHEMA_WORK_DIR", "/w")], .ofText "/tmp",
      ⟨fun _ => none, fun _ => none,
        fun client => .answering (some client) (.ok ⟨[[.list [.text "sales"]]], []⟩)⟩,
      .ok "token", fun _ => .ok ⟨0, "", ""⟩⟩
    let session := Session.start ⟨[], [(["s.kql"], .file 0o644 [46])]⟩
    let words := ["schema", "apply", "-c", "https://f.k", "-c", "https://g.k/", "-f", "/s.kql",
      "--dbs", "a b", "--dbs", "a_b", "--no-confirm"]
    let last := ((run surroundings words).perform session).2
    ∃ settings schema plans stored results files,
      named? words = some (.applySchema, settings) ∧
      (ApplyRequest.ofSettings settings).Targeted surroundings plans session last ∧
      (ApplyRequest.ofSettings settings).Applied surroundings schema stored plans results files
        session last ∧
      startsIn (session.since last) = [["delta-kusto", "-p", "/w/jobs/delta-f-00000000.yaml"],
        ["delta-kusto", "-p", "/w/jobs/delta-g-00000000.yaml"]] := by
  intro surroundings session words last
  have comes : ∃ event ∈ session.since last, event.kind = .rollout := by decide +kernel
  obtain ⟨settings, schema, plans, stored, results, files, named, targeted, _, applied, _⟩ :=
    applies_what_is_targeted (Prod.eta _).symm comes
  exact ⟨settings, schema, plans, stored, results, files, named, targeted, applied,
    by decide +kernel⟩

end CommandLine

end FleetSchema
