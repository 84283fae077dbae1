/-
**The course of applying a schema.**

A request is checked and meant before anything is connected to, it is agreed to before anything is
written, and only then it is carried out.

* `Meant`, `Ready`: what is known behind the two gates;
* `perform_run`: a request ends before connecting, or it is meant;
* `perform_withClusters`: what becomes of it once it has connected;
* `perform_runOn`: it ends before anything is written, or it is carried out when it is ready.
-/

import FleetSchema.Proofs.CommandLine.Asking
import FleetSchema.Proofs.CommandLine.Reading
import FleetSchema.Proofs.Rollout.Bounds

namespace FleetSchema

open FleetSchema.Action

variable {kinds : List EventKind} {writes : Bool}

namespace ApplyRequest

variable {request : ApplyRequest} {surroundings : Surroundings} {filter : TargetFilter}
  {schema : SchemaDefinition} {clusters : List Cluster} {plans : List Targets}
  {first middle last : Session} {outcome : Except Stop Unit}

/-! ### The first gate -/

/-- A request has workers and a filter, and it is meant if it is for all databases. -/
structure Meant [Interpreter] (request : ApplyRequest) (filter : TargetFilter)
    (first last : Session) : Prop where
  enough : 1 ≤ request.workers
  filtered : request.selection.filter = .ok filter
  grown : first.Extends [.question] false last
  questions : ∀ asked ∈ questionsIn (first.since last), asked = Prompt.titled meantQuestion
  consent : filter.mode ≠ .all ∨ request.selection.selectAll = true ∨
    Agreed first.prompts.confirmations (first.since last) meantQuestion

theorem inputs_eq_ok [Interpreter]
    (performed : request.inputs.perform first = (.ok (filter, schema), last)) :
    request.selection.filter = .ok filter := by
  unfold inputs at performed
  obtain ⟨_, _, found, performed⟩ := perform_bind_eq_ok performed
  rw [perform_ofExcept] at found
  obtain ⟨isFilter, rfl⟩ := Prod.mk.inj found
  obtain ⟨_, _, _, performed⟩ := perform_bind_eq_ok performed
  cases performed
  exact isFilter

/-- What a quiet stage asks is nothing. -/
theorem questions_of_quiet {question : String} (quiet : first.Extends [] false last) :
    ∀ asked ∈ questionsIn (first.since last), asked = Prompt.titled question := by
  rw [quiet.areOf.questionsIn_eq_nil List.not_mem_nil]
  exact fun asked member => absurd member List.not_mem_nil

/-- What is asked behind a stage that asks nothing. -/
theorem questions_behind {question : String} {others : List EventKind} {mayWrite : Bool}
    (silent : .question ∉ kinds) (before : first.Extends kinds writes middle)
    (grown : middle.Extends others mayWrite last)
    (questions : ∀ asked ∈ questionsIn (middle.since last), asked = Prompt.titled question) :
    ∀ asked ∈ questionsIn (first.since last), asked = Prompt.titled question := by
  rw [before.questionsIn_behind silent grown]
  exact questions

/-- Consent behind a stage. -/
theorem agreed_behind {question : String} {others : List EventKind} {mayWrite : Bool}
    (before : first.Extends kinds writes middle) (grown : middle.Extends others mayWrite last)
    (agreed : Agreed middle.prompts.confirmations (middle.since last) question) :
    Agreed first.prompts.confirmations (first.since last) question := by
  rw [before.confirmations] at agreed
  rw [before.since_append grown]
  exact agreed.behind _

/-- What is meant behind a quiet stage. -/
theorem Meant.behind [Interpreter] (meant : Meant request filter middle last)
    (quiet : first.Extends [] false middle) : Meant request filter first last where
  enough := meant.enough
  filtered := meant.filtered
  grown := quiet.loosen.trans meant.grown
  questions := questions_behind List.not_mem_nil quiet meant.grown meant.questions
  consent := meant.consent.imp_right fun either =>
    either.imp_right (agreed_behind quiet meant.grown)

/-- A command goes on behind the first gate only with a filter, with the word for all databases or
with the user's consent. -/
theorem perform_ensureMeant [Interpreter]
    (performed : (request.ensureMeant filter).perform first = (outcome, last)) :
    first.Extends [.question] false last ∧
      (∀ asked ∈ questionsIn (first.since last), asked = Prompt.titled meantQuestion) ∧
      ((∃ stop, outcome = .error stop) ∨ outcome = .ok () ∧
        (filter.mode ≠ .all ∨ request.selection.selectAll = true ∨
          Agreed first.prompts.confirmations (first.since last) meantQuestion)) := by
  unfold ensureMeant at performed
  split at performed
  · by_cases asks : request.asks = true
    · rw [if_pos asks] at performed
      have warning : (Stop.plainly (Console.warn
          "No filter given: every database of each cluster will be targeted.")).Quiet :=
        Stop.within_plainly (within_print _)
      obtain ⟨stop, ended, rfl⟩ | ⟨_, middle, warned, performed⟩ := perform_bind_cases performed
      · have quiet := warning.of_perform ended
        exact ⟨quiet.loosen, questions_of_quiet quiet, Or.inl ⟨stop, rfl⟩⟩
      have quiet : first.Extends [] false middle := warning.of_perform warned
      obtain ⟨grown, questions, comes⟩ := perform_agreeing performed
      refine ⟨quiet.loosen.trans grown,
        questions_behind List.not_mem_nil quiet grown questions, comes.imp_right ?_⟩
      rintro ⟨rfl, agreed⟩
      exact ⟨rfl, Or.inr (Or.inr (agreed_behind quiet grown agreed))⟩
    · rw [if_neg asks] at performed
      obtain ⟨stop, ended, rfl⟩ | ⟨_, middle, ended, _⟩ := perform_bind_cases performed
      · have quiet : first.Extends [] false last := (Stop.within_die _ _).of_perform ended
        exact ⟨quiet.loosen, questions_of_quiet quiet, Or.inl ⟨stop, rfl⟩⟩
      · rw [Stop.perform_die] at ended
        cases ended
  · rename_i narrow
    cases performed
    refine ⟨.refl first, questions_of_quiet (.refl first), Or.inr ⟨rfl, ?_⟩⟩
    by_cases isAll : filter.mode = .all
    · right
      left
      rw [Bool.and_eq_true, not_and, Bool.not_eq_true'] at narrow
      exact Bool.not_eq_false _ ▸ narrow (beq_iff_eq.mpr isAll)
    · exact Or.inl isAll

/-- A request ends before anything is connected to, or it is meant. -/
theorem perform_run [Interpreter]
    (performed : (request.run surroundings).perform first = (outcome, last)) :
    (first.Extends [.question] false last ∧ ∃ stop, outcome = .error stop) ∨
    ∃ filter schema middle, Meant request filter first middle ∧
      (surroundings.withClusters request.clusters
        (request.runOn surroundings filter schema)).perform middle = (outcome, last) := by
  unfold run at performed
  by_cases few : request.workers < 1
  · rw [if_pos few] at performed
    obtain ⟨stop, ended, rfl⟩ | ⟨_, middle, ended, _⟩ := perform_bind_cases performed
    · exact Or.inl ⟨(Stop.within_die _ _).of_perform ended, stop, rfl⟩
    · rw [Stop.perform_die] at ended
      cases ended
  rw [if_neg few] at performed
  obtain ⟨stop, ended, rfl⟩ | ⟨⟨filter, schema⟩, ready, read, performed⟩ :=
    perform_bind_cases performed
  · exact Or.inl ⟨(Stop.within_expecting request.within_inputs).of_perform ended, stop, rfl⟩
  have quiet : first.Extends [] false ready :=
    (Stop.within_expecting request.within_inputs).of_perform read
  have filtered : request.selection.filter = .ok filter :=
    inputs_eq_ok (Stop.expecting_eq_ok read)
  obtain ⟨stop, ended, rfl⟩ | ⟨_, middle, meant, performed⟩ := perform_bind_cases performed
  · obtain ⟨grown, _⟩ := perform_ensureMeant ended
    exact Or.inl ⟨quiet.loosen.trans grown, stop, rfl⟩
  obtain ⟨grown, questions, ⟨_, ended⟩ | ⟨_, consent⟩⟩ := perform_ensureMeant meant
  · cases ended
  refine Or.inr ⟨filter, schema, middle, ⟨Int.not_lt.mp few, filtered,
    quiet.loosen.trans grown,
    questions_behind List.not_mem_nil quiet grown questions, ?_⟩, performed⟩
  exact consent.imp_right fun either => either.imp_right (agreed_behind quiet grown)

/-! ### Connecting -/

/-- What becomes of a request that is meant: it ends with connecting, or there is work on the
clusters that are reached, and a quiet closing. -/
theorem perform_withClusters {uris : List String} {work : List Cluster → Action Stop Unit}
    (performed : (surroundings.withClusters uris work).perform first = (outcome, last)) :
    first.Extends [.connection] false last ∨
    ∃ clusters connected worked workOutcome,
      first.Extends [.connection] false connected ∧
      surroundings.Reached (first.since connected) clusters ∧
      (work clusters).perform connected = (workOutcome, worked) ∧
      worked.Extends [] false last ∧
      Surroundings.Closes clusters worked workOutcome last outcome := by
  obtain ⟨clusters, ending, connected, isConnected, grown, reached, _, quiet⟩ :=
    surroundings.perform_connectEach uris first
  rw [Surroundings.withClusters_eq] at performed
  rw [perform_bind, isConnected] at performed
  dsimp only at performed
  cases ending with
  | some stop =>
    have closing : (Stop.plainly (Surroundings.closeEach clusters)).Quiet :=
      Stop.within_plainly (Surroundings.within_closeEach reached.isServed)
    have rest := (Within.closing (quiet stop rfl) closing).of_perform performed
    exact Or.inl (grown.trans rest.loosen)
  | none =>
    right
    cases working : (work clusters).perform connected with
    | mk workOutcome worked =>
      obtain ⟨closes, rest⟩ :=
        Surroundings.perform_closing_closeEach reached.isServed working performed
      exact ⟨clusters, connected, worked, workOutcome, grown, reached, working, rest, closes⟩

/-! ### The second gate -/

/-- The table of the targets of plans. -/
def targetsTable (plans : List Targets) : Table :=
  .ofTargets Table.targetsTitle (plans.map Targets.row)

/-- Plans are the targets of a request on clusters, they were shown in a table, and the user agreed,
if that is asked for. -/
structure Ready [Interpreter] (request : ApplyRequest) (surroundings : Surroundings)
    (filter : TargetFilter) (clusters : List Cluster) (plans : List Targets)
    (first last : Session) : Prop where
  targets : ∃ resolved,
    (request.targets surroundings filter clusters).perform first = (.ok plans, resolved) ∧
      resolved.Extends [.question, .table] false last
  grown : first.Extends [.question, .table] false last
  tables : tablesIn (first.since last) = [targetsTable plans]
  questions : ∀ asked ∈ questionsIn (first.since last),
    asked = Prompt.titled (applyQuestion (databaseCount plans) plans.length)
  consent : request.dryRun = true ∨ request.asks = false ∨
    Agreed first.prompts.confirmations (first.since last)
      (applyQuestion (databaseCount plans) plans.length)

theorem within_targets [Interpreter] (request : ApplyRequest) (surroundings : Surroundings)
    (filter : TargetFilter) (served : ∀ cluster ∈ clusters, cluster.IsServed) :
    (request.targets surroundings filter clusters).Within kinds writes := by
  have finish (picked : List Targets) : (do
      Stop.plainly (warnSkipped picked)
      let plans := picked.filter fun targets => !targets.databases.isEmpty
      if plans.isEmpty then Stop.warnExit "No target databases" 0
      return plans : Action Stop (List Targets)).Within kinds writes :=
    (Stop.within_plainly (within_warnSkipped picked)).bind fun _ =>
      Within.ite ((Stop.within_warnExit _ _).bind fun _ => within_pure _) (within_pure _)
  exact (CommandLine.within_plan surroundings filter served).bind fun found =>
    Within.ite ((Stop.within_plainly (within_pickEach found)).bind finish)
      ((within_pure found).bind finish)

theorem within_announce (request : ApplyRequest) (plans : List Targets) :
    (request.announce plans).Within [.table] false :=
  (within_print _).bind fun _ => (within_facts _).bind fun _ =>
    within_tell (Or.inr List.mem_cons_self) rfl

/-- What is announced is shown, unless the console refuses some line of it. -/
theorem announce_eq_ok (performed : (request.announce plans).perform first = (.ok (), last)) :
    tablesIn (first.since last) = [targetsTable plans] := by
  unfold announce at performed
  obtain ⟨_, middle, printed, performed⟩ := perform_bind_eq_ok performed
  have header : first.Extends [] false middle := (within_print _).of_perform printed
  obtain ⟨_, later, told, performed⟩ := perform_bind_eq_ok performed
  have quiet := header.trans ((within_facts _).of_perform told)
  have shows : later.Extends [.table] false last :=
    (within_tell (Or.inr List.mem_cons_self) rfl).of_perform performed
  rw [quiet.tablesIn_behind List.not_mem_nil shows]
  unfold Console.table at performed
  rw [perform_tell] at performed
  obtain ⟨isShown, rfl⟩ := Prod.mk.inj performed
  rw [Session.tablesIn_since_showing]
  unfold Session.told at isShown
  unfold Session.shown
  cases shown : later.refusal (.table (.ofTargets Table.targetsTitle (plans.map Targets.row))) with
  | none =>
    rw [List.filter_cons, List.filter_nil]
    exact if_pos (by rw [shown]; rfl)
  | some defect =>
    rw [shown] at isShown
    cases isShown

/-- A command goes on behind the second gate only in a dry run, without questions or with the user's
consent. -/
theorem perform_ensureAgreed
    (performed : (request.ensureAgreed plans).perform first = (outcome, last)) :
    first.Extends [.question] false last ∧
      (∀ asked ∈ questionsIn (first.since last),
        asked = Prompt.titled (applyQuestion (databaseCount plans) plans.length)) ∧
      ((∃ stop, outcome = .error stop) ∨ outcome = .ok () ∧
        (request.dryRun = true ∨ request.asks = false ∨
          Agreed first.prompts.confirmations (first.since last)
            (applyQuestion (databaseCount plans) plans.length))) := by
  unfold ensureAgreed at performed
  split at performed
  · obtain ⟨grown, questions, comes⟩ := perform_agreeing performed
    exact ⟨grown, questions, comes.imp_right fun ⟨isOk, agreed⟩ => ⟨isOk, Or.inr (Or.inr agreed)⟩⟩
  · rename_i spared
    cases performed
    refine ⟨.refl first, questions_of_quiet (.refl first), Or.inr ⟨rfl, ?_⟩⟩
    cases dryRun : request.dryRun with
    | true => exact Or.inl rfl
    | false =>
      rw [dryRun] at spared
      exact Or.inr (Or.inl (Bool.not_eq_true _ ▸ spared))

/-- **Work on clusters ends before anything is written, or a request is carried out when it is
ready.** -/
theorem perform_runOn [Interpreter] (served : ∀ cluster ∈ clusters, cluster.IsServed)
    (performed : (request.runOn surroundings filter schema clusters).perform first =
      (outcome, last)) :
    first.Extends [.question, .table] false last ∨
    ∃ plans middle, Ready request surroundings filter clusters plans first middle ∧
      (request.carryOut surroundings schema plans).perform middle = (outcome, last) := by
  unfold runOn at performed
  obtain ⟨stop, ended, rfl⟩ | ⟨plans, resolved, isPlans, performed⟩ := perform_bind_cases performed
  · exact Or.inl ((within_targets request surroundings filter served).of_perform ended)
  have quiet : first.Extends [] false resolved :=
    (within_targets request surroundings filter served).of_perform isPlans
  have announces := Stop.within_plainly (within_announce request plans)
  obtain ⟨stop, ended, rfl⟩ | ⟨_, announced, announcing, performed⟩ := perform_bind_cases performed
  · exact Or.inl (quiet.loosen.trans ((announces.of_perform ended).mono (by decide) id))
  have shown := announces.of_perform announcing
  have tables := announce_eq_ok (Stop.plainly_eq_ok announcing)
  have before : first.Extends [.table] false announced :=
    quiet.loosen.trans shown
  obtain ⟨stop, ended, rfl⟩ | ⟨_, middle, agreeing, performed⟩ := perform_bind_cases performed
  · obtain ⟨asked, _⟩ := perform_ensureAgreed ended
    exact Or.inl ((before.mono (by decide) id).trans (asked.mono (by decide) id))
  obtain ⟨asked, questions, ⟨_, ended⟩ | ⟨_, consent⟩⟩ := perform_ensureAgreed agreeing
  · cases ended
  refine Or.inr ⟨plans, middle, ⟨⟨resolved, isPlans,
    (shown.mono (by decide) id).trans (asked.mono (by decide) id)⟩,
    (before.mono (by decide) id).trans (asked.mono (by decide) id), ?_, ?_, ?_⟩, performed⟩
  · rw [before.tablesIn_before asked (by decide), quiet.tablesIn_behind List.not_mem_nil shown]
    exact tables
  · exact questions_behind (by decide) before asked questions
  · exact consent.imp_right fun either => either.imp_right (agreed_behind before asked)

/-! ### Carrying out -/

/-- Rolling out asks and shows nothing, and a dry run starts nothing. -/
theorem within_rollOut (request : ApplyRequest) (surroundings : Surroundings) (stored : Path)
    (plans : List Targets) (announces : .rollout ∈ kinds) (pools : .pool ∈ kinds)
    (starts : request.dryRun = false → .start ∈ kinds) (warns : .idle ∈ kinds) :
    (request.rollOut surroundings stored plans).Within kinds true :=
  Stop.within_plainly (Within.status (Rollout.within_applyAll rfl
    (fun _ _ _ _ => JobWriter.within_generator _ _ _ _ _)
    (fun wet _ => Engine.within_applier _ _ (starts wet)) pools _ _ fun _ _ _ => warns)
    fun _ => announces)

/-- The table of the results of rollouts. -/
def resultsTable (results : List RolloutResult) : Table :=
  .ofResults Table.resultsTitle (results.map RolloutResult.row)

/-- How a command ends whose rollouts have these results: a dry run ends well in any case, and
otherwise a failure counts. -/
def verdict (request : ApplyRequest) (results : List RolloutResult) : Except Stop Unit :=
  if request.dryRun then .error (.exit 0 none)
  else if (results.filter (·.status == .failed)).isEmpty then .ok ()
  else .error (.exit Stop.failureCode none)

/-- The line that tells how rollouts with these results went. -/
def closingLine (request : ApplyRequest) (results : List RolloutResult) : ConsoleLine :=
  let failed := results.filter (·.status == .failed)
  if request.dryRun then
    Console.warningLine "Dry-run enabled: job files generated, nothing applied"
  else if failed.isEmpty then
    Console.successLine ("Schema applied on " ++ toString results.length ++ " cluster(s)")
  else
    Console.errorLine ("Schema apply failed on " ++ toString failed.length ++ " cluster(s)")

/-- Why the results of rollouts or the line behind them are not shown, if they are not. -/
def unshown? (request : ApplyRequest) (devices : Devices) (results : List RolloutResult) :
    Option Defect :=
  (devices.screen (.table (resultsTable results))).or
    (devices.screen (request.closingLine results))

/-- What telling how it went comes to: the verdict, unless something is not shown. -/
def concluded (request : ApplyRequest) (devices : Devices) (results : List RolloutResult) :
    Except Stop Unit :=
  match request.unshown? devices results with
  | none => request.verdict results
  | some defect => .error (.fault (.defect defect))

/-- What is told behind the results comes to the verdict, unless it is not shown. -/
theorem perform_closing {results : List RolloutResult}
    (performed : (do
      if request.dryRun then
        Stop.warnExit "Dry-run enabled: job files generated, nothing applied" 0
      let failed := results.filter (·.status == .failed)
      unless failed.isEmpty do
        Stop.die ("Schema apply failed on " ++ toString failed.length ++ " cluster(s)")
          Stop.failureCode
      Stop.plainly
        (Console.success ("Schema applied on " ++ toString results.length ++ " cluster(s)")) :
        Action Stop Unit).perform first = (outcome, last)) :
    first.Extends [] false last ∧ outcome =
      match first.refusal (request.closingLine results) with
      | none => request.verdict results
      | some defect => .error (.fault (.defect defect)) := by
  unfold closingLine verdict
  dsimp only at performed ⊢
  by_cases dry : request.dryRun = true
  · rw [if_pos dry, perform_bind, Stop.perform_warnExit] at performed
    rw [if_pos dry, if_pos dry]
    cases performed
    refine ⟨first.extends_showing (Or.inl rfl) rfl, ?_⟩
    cases first.refusal (Console.warningLine _) with
    | none => rfl
    | some defect => rfl
  rw [if_neg dry] at performed
  rw [if_neg dry, if_neg dry]
  by_cases none : (results.filter (·.status == .failed)).isEmpty = true
  · rw [if_pos none] at performed
    rw [if_pos none, if_pos none]
    change (Stop.plainly (Action.tell (Console.successLine _))).perform first = _ at performed
    rw [Stop.perform_plainly, perform_tell] at performed
    cases performed
    refine ⟨first.extends_showing (Or.inl rfl) rfl, ?_⟩
    unfold Session.told
    cases first.refusal (Console.successLine _) with
    | none => rfl
    | some defect => rfl
  · rw [if_neg none, perform_bind, Stop.perform_die] at performed
    rw [if_neg none, if_neg none]
    cases performed
    refine ⟨first.extends_showing (Or.inl rfl) rfl, ?_⟩
    cases first.refusal (Console.errorLine _) with
    | none => rfl
    | some defect => rfl

/-- Telling how it went shows the results and comes to the verdict on them, as far as the console
shows what it is told. -/
theorem perform_conclude {results : List RolloutResult}
    (performed : (request.conclude results).perform first = (outcome, last)) :
    first.Extends [.table] false last ∧
      tablesIn (first.since last) = first.shown [resultsTable results] ∧
      outcome = request.concluded first.devices results := by
  have tables := first.tablesIn_since_showing (resultsTable results)
  have shows : first.Extends [.table] false (first.showing (.table (resultsTable results))) :=
    first.extends_showing (Or.inr List.mem_cons_self) rfl
  unfold conclude at performed
  rw [show Console.table (.ofResults Table.resultsTitle (results.map RolloutResult.row)) =
    Action.tell (.table (resultsTable results)) from rfl, Stop.perform_tell_bind] at performed
  unfold concluded unshown?
  cases shown : first.refusal (.table (resultsTable results)) with
  | some defect =>
    rw [shown] at performed
    cases performed
    rw [Session.showing_of_refused shown] at tables shows
    rw [show first.devices.screen _ = _ from shown]
    exact ⟨shows, tables, rfl⟩
  | none =>
    rw [shown] at performed
    rw [Session.showing_of_shown shown] at tables shows
    obtain ⟨quiet, ends⟩ := perform_closing performed
    rw [show first.devices.screen _ = _ from shown]
    refine ⟨shows.trans quiet.loosen, ?_, ends⟩
    rw [shows.tablesIn_before quiet List.not_mem_nil]
    exact tables

/-- A request that is carried out asks nothing more, and a dry run starts nothing. -/
theorem within_carryOut (request : ApplyRequest) (surroundings : Surroundings)
    (schema : SchemaDefinition) (plans : List Targets) (shows : .table ∈ kinds)
    (announces : .rollout ∈ kinds) (pools : .pool ∈ kinds)
    (starts : request.dryRun = false → .start ∈ kinds) (warns : .idle ∈ kinds) :
    (request.carryOut surroundings schema plans).Within kinds true := by
  have storing : (Stop.expecting (surroundings.store.store schema)).Within kinds true :=
    Stop.within_expecting (SchemaStore.within_store _ _)
  have concluding (results : List RolloutResult) : (request.conclude results).Within kinds true :=
    fun session => (perform_conclude rfl).1.mono
      (List.cons_subset.mpr ⟨shows, List.nil_subset _⟩) fun _ => rfl
  exact storing.bind fun stored =>
    (request.within_rollOut surroundings stored plans announces pools starts warns).bind concluding

/-! ### The whole course -/

/-- **The course of a request.** It ends before connecting, or it is meant and ends before anything
is written, or it is carried out when it is ready. -/
theorem perform_run_cases [Interpreter]
    (performed : (request.run surroundings).perform first = (outcome, last)) :
    (first.Extends [.question] false last ∧ ∃ stop, outcome = .error stop) ∨
    (∃ filter middle, Meant request filter first middle ∧
      middle.Extends [.question, .table, .connection] false last) ∨
    ∃ filter schema clusters plans meant connected ready carried carriedOutcome,
      Meant request filter first meant ∧
      meant.Extends [.connection] false connected ∧
      surroundings.Reached (meant.since connected) clusters ∧
      Ready request surroundings filter clusters plans connected ready ∧
      (request.carryOut surroundings schema plans).perform ready = (carriedOutcome, carried) ∧
      carried.Extends [] false last ∧
      Surroundings.Closes clusters carried carriedOutcome last outcome := by
  obtain early | ⟨filter, schema, meant, isMeant, performed⟩ := perform_run performed
  · exact Or.inl early
  right
  obtain unconnected | ⟨clusters, connected, worked, workOutcome, connecting, reached, working,
    closing, closes⟩ := perform_withClusters performed
  · exact Or.inl ⟨filter, meant, isMeant, unconnected.mono (by decide) id⟩
  obtain unwritten | ⟨plans, ready, isReady, carrying⟩ := perform_runOn reached.isServed working
  · refine Or.inl ⟨filter, meant, isMeant, ?_⟩
    exact ((connecting.mono (by decide) id).trans (unwritten.mono (by decide) id)).trans
      (closing.mono (by decide) id)
  · exact Or.inr ⟨filter, schema, clusters, plans, meant, connected, ready, worked, workOutcome,
      isMeant, connecting, reached, isReady, carrying, closing, closes⟩

end ApplyRequest

end FleetSchema
