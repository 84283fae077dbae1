/-
**A failed resolution leaves nothing behind.**

A command that applies a schema resolves the targets on all of its clusters before it does anything
else with one of them. When one resolution fails the command ends with the code of its fault, and
what the earlier ones found is not used.

* `ResolvesAllOrNone`: what resolving several clusters comes to;
* `ComesToResolving`, `EndsUnresolved`: a request that comes to resolving, and how it ends when that
  fails;
* `resolves_all_or_none`: both, for all clusters, services and requests.
-/

import FleetSchema.Proofs.CommandLine.Course
import FleetSchema.Proofs.Targets.AllOrNothing

namespace FleetSchema

open FleetSchema.Action

/-! ### Several clusters -/

/-- Resolving clusters gives targets for each of them, beside one another, when each resolution
succeeds in the session that the earlier ones leave. Otherwise it gives the fault of the first one
that fails, and ends with it, whatever clusters stand behind. -/
structure ResolvesAllOrNone [Interpreter] (filter : TargetFilter) (service : Option LookupService)
    (clusters : List Cluster) (first last : Session) (outcome : Except Fault (List Targets)) :
    Prop where
  all_iff : ∀ found, outcome = .ok found ↔ ResolvesEach filter service clusters found first last
  beside : ∀ found, outcome = .ok found →
    List.Forall₂ (fun cluster targets => targets.clusterUri = cluster.uri) clusters found
  none_iff : ∀ fault, outcome = .error fault ↔
    ∃ earlier cluster later found middle, clusters = earlier ++ cluster :: later ∧
      ResolvesEach filter service earlier found first middle ∧
      (resolve cluster filter service).perform middle = (.error fault, last)
  spared : ∀ earlier cluster later found middle fault, clusters = earlier ++ cluster :: later →
    ResolvesEach filter service earlier found first middle →
    (resolve cluster filter service).perform middle = (.error fault, last) →
      ∀ others, (resolveAll filter service (earlier ++ cluster :: others)).perform first =
        (.error fault, last)

theorem resolvesAllOrNone_perform [Interpreter] {filter : TargetFilter}
    {service : Option LookupService} {clusters : List Cluster} {first last : Session}
    {outcome : Except Fault (List Targets)}
    (performed : (resolveAll filter service clusters).perform first = (outcome, last)) :
    ResolvesAllOrNone filter service clusters first last outcome := by
  have all (found : List Targets) :
      outcome = .ok found ↔ ResolvesEach filter service clusters found first last := by
    rw [← resolveAll_eq_ok_iff, performed]
    exact ⟨congrArg (·, last), congrArg Prod.fst⟩
  constructor
  · exact all
  · exact fun found isOk => ((all found).mp isOk).uris
  · intro fault
    rw [← resolveAll_eq_error_iff, performed]
    exact ⟨congrArg (·, last), congrArg Prod.fst⟩
  · intro earlier cluster _ found middle fault _ resolves failed others
    exact resolveAll_eq_error_iff.mpr
      ⟨earlier, cluster, others, found, middle, rfl, resolves, failed⟩

/-! ### Requests -/

namespace ApplyRequest

/-- A request comes to resolving targets on clusters: it is one that makes sense and is meant, all
of its clusters are connected to, and the console shows that targets are resolved. -/
structure ComesToResolving [Interpreter] (request : ApplyRequest) (surroundings : Surroundings)
    (filter : TargetFilter) (schema : SchemaDefinition) (clusters : List Cluster)
    (first before : Session) : Prop where
  enough : ¬ request.workers < 1
  stages : ∃ ready meant,
    (Stop.expecting request.inputs).perform first = (.ok (filter, schema), ready) ∧
    (request.ensureMeant filter).perform ready = (.ok (), meant) ∧
    (surroundings.connectEach [] request.clusters).perform meant = (.ok (clusters, none), before)
  announced : before.refusal (.statusBegin "Resolving targets...") = none

/-- The session in which targets are resolved. -/
def announcing (before : Session) : Session :=
  before.adding (.console (.statusBegin "Resolving targets..."))

/-- The session that is left when the fault of a resolution has been told. -/
def told (fault : Fault) (after : Session) : Session :=
  (after.adding (.console .statusEnd)).showing (Console.errorLine fault.message)

/-- How a request ends that cannot resolve its targets: with the code of the fault once its clusters
are closed, unless the console refuses the message, and without a file that is written or a program
that is started. The code is the one for a failure, unless the web itself answered with the
fault. -/
structure EndsUnresolved (fault : Fault) (clusters : List Cluster)
    (before after first last : Session) (outcome : Except Stop Unit) : Prop where
  isStated : fault.isStated = true
  code : Stop.exitCode fault = Stop.failureCode ∨
    ∃ middle, (announcing before).Extends [] false middle ∧ middle.web.head? = some (.error fault)
  closes : Surroundings.Closes clusters (told fault after)
    (.error ((Stop.exit (Stop.exitCode fault) (some fault)).behind
      (first.refusal (Console.errorLine fault.message)))) last outcome
  status : ((Surroundings.closeEach clusters).perform (told fault after)).1 = .ok () ∧
      first.refusal (Console.errorLine fault.message) = none ∨
    Stop.exitCode fault = Stop.failureCode →
      (CommandLine.exitCode? outcome).getD Stop.failureCode = Stop.exitCode fault
  tree : last.tree = first.tree
  starts : startsIn (first.since last) = []
  grown : first.Extends [.question, .connection] false last

variable {request : ApplyRequest} {surroundings : Surroundings} {filter : TargetFilter}
  {schema : SchemaDefinition} {clusters : List Cluster} {first before after last : Session}
  {outcome : Except Stop Unit} {fault : Fault}

theorem ComesToResolving.compiles [Interpreter]
    (comes : request.ComesToResolving surroundings filter schema clusters first before) :
    filter.db = "" ∨ ∃ compiled, NamePattern.compile filter.db = .ok compiled := by
  obtain ⟨_, _, read, _⟩ := comes.stages
  exact Selection.compiles_of_filter (inputs_eq_ok (Stop.expecting_eq_ok read))

/-- Up to resolving, a request only asks and connects. -/
theorem ComesToResolving.grown [Interpreter]
    (comes : request.ComesToResolving surroundings filter schema clusters first before) :
    first.Extends [.question, .connection] false before ∧
      ∀ cluster ∈ clusters, cluster.IsServed ∧ ∃ name, cluster.name = .ok name := by
  obtain ⟨ready, meant, read, isMeant, connected⟩ := comes.stages
  have quiet : first.Extends [] false ready :=
    (Stop.within_expecting request.within_inputs).of_perform read
  have asked := (perform_ensureMeant isMeant).1
  obtain ⟨others, ending, reached, performed, connecting, isReached, named, _⟩ :=
    surroundings.perform_connectEach request.clusters meant
  cases performed.symm.trans connected
  exact ⟨(quiet.loosen.trans (asked.mono (by decide) id)).trans (connecting.mono (by decide) id),
    fun cluster member => ⟨isReached.isServed cluster member, named cluster member⟩⟩

/-- A request that comes to resolving goes on with its clusters, and closes them afterwards. -/
theorem ComesToResolving.perform_run [Interpreter]
    (comes : request.ComesToResolving surroundings filter schema clusters first before) :
    (request.run surroundings).perform first =
      ((request.runOn surroundings filter schema clusters).closing
        (Stop.plainly (Surroundings.closeEach clusters))).perform before := by
  obtain ⟨ready, meant, read, isMeant, connected⟩ := comes.stages
  unfold run
  rw [if_neg comes.enough, perform_bind, read]
  dsimp only
  rw [perform_bind, isMeant]
  dsimp only
  rw [Surroundings.withClusters_eq]
  rw [perform_bind, connected]
  rfl

/-- The command ends in its plan when targets cannot be resolved. -/
theorem perform_plan_unresolved [Interpreter] (isStated : fault.isStated = true)
    (announced : before.refusal (.statusBegin "Resolving targets...") = none)
    (failed : (resolveAll filter (some surroundings.lookupService) clusters).perform
      (announcing before) = (.error fault, after)) :
    (CommandLine.plan surroundings filter clusters).perform before =
      (.error ((Stop.exit (Stop.exitCode fault) (some fault)).behind
        (after.refusal (Console.errorLine fault.message))), told fault after) := by
  unfold CommandLine.plan Stop.expecting
  rw [perform_onFault, perform_status, announced]
  unfold announcing at failed
  rw [failed]
  dsimp only
  rw [if_pos isStated, Stop.perform_exitFrom]
  rfl

theorem exitCode_of_isKind {kind : FaultKind} (known : fault.isKind kind = true)
    (notFilter : kind ≠ .filter) (notUri : kind ≠ .clusterUri) :
    Stop.exitCode fault = Stop.failureCode := by
  have isKind : fault.kind? = some kind := beq_iff_eq.mp known
  unfold Stop.exitCode Fault.isKind
  rw [isKind]
  simp [notFilter, notUri]

/-- When clusters with names cannot all be resolved, the fault is one that resolving ends in, met in
a session that the clusters resolved before have left. -/
theorem exists_resolvingFault [Interpreter]
    (compiles : filter.db = "" ∨ ∃ compiled, NamePattern.compile filter.db = .ok compiled)
    (known : ∀ cluster ∈ clusters, cluster.IsServed ∧ ∃ name, cluster.name = .ok name)
    (failed : (resolveAll filter (some surroundings.lookupService) clusters).perform before =
      (.error fault, after)) :
    ∃ middle, before.Extends [] false middle ∧ ResolvingFault middle fault := by
  obtain ⟨earlier, cluster, later, found, middle, rfl, resolves, fails⟩ :=
    resolveAll_eq_error_iff.mp failed
  obtain ⟨_, name, named⟩ := known cluster (List.mem_append_right _ List.mem_cons_self)
  have served : ∀ other ∈ earlier, other.IsServed :=
    fun other member => (known other (List.mem_append_left _ member)).1
  exact ⟨middle, (within_resolveAll served (LookupService.isPlain_overWeb _ _) filter).of_perform
    (resolveAll_eq_ok_iff.mpr resolves), resolve_eq_error named compiles fails⟩

/-- **A request that cannot resolve its targets** ends with the code of the fault and leaves nothing
behind. -/
theorem ComesToResolving.endsUnresolved [Interpreter]
    (comes : request.ComesToResolving surroundings filter schema clusters first before)
    (failed : (resolveAll filter (some surroundings.lookupService) clusters).perform
      (announcing before) = (.error fault, after))
    (performed : (request.run surroundings).perform first = (outcome, last)) :
    EndsUnresolved fault clusters before after first last outcome := by
  obtain ⟨connecting, known⟩ := comes.grown
  have served : ∀ cluster ∈ clusters, cluster.IsServed :=
    fun cluster member => (known cluster member).1
  obtain ⟨middle, toMiddle, resolving⟩ := exists_resolvingFault comes.compiles known failed
  have resolved : (announcing before).Extends [] false after :=
    (within_resolveAll served (LookupService.isPlain_overWeb _ _) filter).of_perform failed
  have announced : before.Extends [] false (announcing before) :=
    before.extends_adding (Or.inl rfl) rfl
  have planned := perform_plan_unresolved resolving.isStated comes.announced failed
  rw [resolved.refusal, announced.refusal, connecting.refusal] at planned
  have worked : (request.runOn surroundings filter schema clusters).perform before =
      (.error ((Stop.exit (Stop.exitCode fault) (some fault)).behind
        (first.refusal (Console.errorLine fault.message))), told fault after) := by
    unfold runOn targets
    rw [perform_bind, perform_bind, planned]
  rw [comes.perform_run] at performed
  obtain ⟨closes, closing⟩ := Surroundings.perform_closing_closeEach served worked performed
  have quiet : before.Extends [] false (told fault after) :=
    (CommandLine.within_plan surroundings filter served).of_perform planned
  have grown := (connecting.trans quiet.loosen).trans closing.loosen
  constructor
  · exact resolving.isStated
  · cases resolving with
    | query isQuery => exact Or.inl (exitCode_of_isKind isQuery (by decide) (by decide))
    | lookup isLookup => exact Or.inl (exitCode_of_isKind isLookup (by decide) (by decide))
    | web _ next => exact Or.inr ⟨middle, toMiddle, next⟩
  · exact closes
  · intro either
    cases closes with
    | closed =>
      cases shown : first.refusal (Console.errorLine fault.message) with
      | none => rfl
      | some defect =>
        rw [shown] at either
        obtain ⟨_, ended⟩ | same := either
        · cases ended
        · exact same.symm
    | failed fails =>
      rw [fails] at either
      obtain ⟨ended, _⟩ | same := either
      · cases ended
      · exact same.symm
  · exact grown.tree rfl
  · exact grown.areOf.startsIn_eq_nil (by decide)
  · exact grown

end ApplyRequest

/-! ### Both together -/

/-- **Targets are resolved on all clusters or used on none.** Resolving several clusters gives
targets for all of them or the fault of the first one that fails. A command that applies a schema
and comes to such a fault ends with its code, with no file written and no program started. -/
theorem resolves_all_or_none [Interpreter] :
    (∀ (filter : TargetFilter) (service : Option LookupService) (clusters : List Cluster)
      (first : Session),
      let ended := (resolveAll filter service clusters).perform first
      ResolvesAllOrNone filter service clusters first ended.2 ended.1) ∧
    ∀ (surroundings : Surroundings) (settings : List Setting) (filter : TargetFilter)
      (schema : SchemaDefinition) (clusters : List Cluster) (fault : Fault)
      (first before after : Session),
      (ApplyRequest.ofSettings settings).ComesToResolving surroundings filter schema clusters first
        before →
      (resolveAll filter (some surroundings.lookupService) clusters).perform
        (ApplyRequest.announcing before) = (.error fault, after) →
      let ended := (CommandLine.applySchema surroundings settings).perform first
      ApplyRequest.EndsUnresolved fault clusters before after first ended.2 ended.1 :=
  ⟨fun _ _ _ _ => resolvesAllOrNone_perform rfl,
    fun _ _ _ _ _ _ _ _ _ comes failed => comes.endsUnresolved failed rfl⟩

/-- Three clusters, of which the second one cannot be listed: the run ends with the code of that
fault, and the third one is not asked. -/
theorem resolves_all_or_none_second_failing :
    let surroundings : Surroundings := ⟨[], .ofText "/tmp",
      ⟨fun _ => none, fun _ => none, fun client => .answering (some client)
        (if client.uri = "https://g.k" then .error (.stated .query "gone")
          else .ok ⟨[[.list [.text "sales"]]], []⟩)⟩,
      .ok "token", fun _ => .ok ⟨0, "", ""⟩⟩
    let settings : List Setting := [⟨.cluster, .text "https://f.k"⟩, ⟨.cluster, .text "https://g.k"⟩,
      ⟨.cluster, .text "https://h.k"⟩, ⟨.schemaFile, .text "/s.kql"⟩, ⟨.selectAll, .switch true⟩]
    let first := Session.start ⟨[], [(["s.kql"], .file 0o644 [46])]⟩
    let ended := (CommandLine.applySchema surroundings settings).perform first
    (∃ clusters fault before after,
      clusters.map Cluster.uri = ["https://f.k", "https://g.k", "https://h.k"] ∧
      ApplyRequest.EndsUnresolved fault clusters before after first ended.2 ended.1) ∧
    CommandLine.exitCode? ended.1 = some 1 := by
  intro surroundings settings first ended
  refine ⟨?_, by decide +kernel⟩
  let request := ApplyRequest.ofSettings settings
  let ready := ((Stop.expecting request.inputs).perform first).2
  let meant := ((request.ensureMeant .unfiltered).perform ready).2
  let before := ((surroundings.connectEach [] request.clusters).perform meant).2
  have read : ((Stop.expecting request.inputs).perform first).1.toOption =
      some (.unfiltered, ⟨".", "kql"⟩) := by decide +kernel
  have isMeant : ((request.ensureMeant .unfiltered).perform ready).1.toOption = some () := by
    decide +kernel
  have connected : ((surroundings.connectEach [] request.clusters).perform meant).1.toOption.map
      (fun reached => (reached.1.map Cluster.uri, reached.2.isNone)) =
        some (["https://f.k", "https://g.k", "https://h.k"], true) := by decide +kernel
  have failing : ((surroundings.connectEach [] request.clusters).perform meant).1.toOption.map
      (fun reached => ((resolveAll .unfiltered (some surroundings.lookupService) reached.1).perform
        (ApplyRequest.announcing before)).1.toOption.isNone) = some true := by decide +kernel
  cases reached : ((surroundings.connectEach [] request.clusters).perform meant).1 with
  | error stop =>
    rw [reached] at connected
    cases connected
  | ok all =>
    obtain ⟨clusters, ending⟩ := all
    rw [reached] at connected failing
    obtain ⟨uris, isNone⟩ := Prod.mk.inj (Option.some.inj connected)
    obtain rfl := Option.isNone_iff_eq_none.mp isNone
    have connecting : (surroundings.connectEach [] request.clusters).perform meant =
        (.ok (clusters, none), before) :=
      perform_of_outcome (congrArg Except.toOption reached)
    have comes : request.ComesToResolving surroundings .unfiltered ⟨".", "kql"⟩ clusters first
        before :=
      ⟨by decide +kernel, ⟨ready, meant, perform_of_outcome read, perform_of_outcome isMeant,
        connecting⟩, by decide +kernel⟩
    cases failed : (resolveAll .unfiltered (some surroundings.lookupService) clusters).perform
      (ApplyRequest.announcing before) with
    | mk outcome after =>
      cases outcome with
      | ok found =>
        have resolved := Option.some.inj failing
        dsimp only at resolved
        rw [failed] at resolved
        cases resolved
      | error fault =>
        exact ⟨clusters, fault, before, after, uris,
          resolves_all_or_none.2 surroundings settings _ _ clusters fault first before after comes
            failed⟩

end FleetSchema
