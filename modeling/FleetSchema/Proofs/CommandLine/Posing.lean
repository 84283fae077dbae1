/-
**What rollouts rely on holds whenever they are come to.**

Rollouts on several clusters refuse a number of workers below one and plans that share a cluster,
and a configuration without databases is warned about. No command line leads there: the number of
workers is checked first, each address is connected to once, databases are resolved without
repetition, and clusters on which nothing is left are passed over.

* `ApplyRequest.RollsOut`: the stages of a run that comes to rolling out;
* `ApplyRequest.run_rollsOut`: a request ends before it comes to that, or it comes to it with plans
  that rollouts can rely on;
* `CommandLine.rolls_out_wellPosed`: so does every run.
-/

import FleetSchema.Proofs.CommandLine.Applied

namespace FleetSchema

open FleetSchema.Action FileTree

namespace ApplyRequest

variable {request : ApplyRequest} {surroundings : Surroundings} {schema : SchemaDefinition}
  {stored : Path} {plans : List Targets} {results : List RolloutResult}
  {first middle begun finished last : Session} {outcome : Except Stop Unit}

/-- A run comes to rolling out a stored schema to plans, which gives results. No rollout is
announced, no worker is set up and nothing is started before or after it. -/
structure RollsOut (request : ApplyRequest) (surroundings : Surroundings) (stored : Path)
    (plans : List Targets) (results : List RolloutResult) (first begun finished last : Session) :
    Prop where
  before : first.Extends [.question, .connection, .table] true begun
  performed : (request.rollOut surroundings stored plans).perform begun = (.ok results, finished)
  during : begun.Extends [.rollout, .pool, .start] true finished
  after : finished.Extends [.table] false last

/-- A run that rolls out warns about no job that changes nothing. -/
theorem RollsOut.grown
    (rolls : request.RollsOut surroundings stored plans results first begun finished last) :
    first.Extends [.question, .connection, .table, .rollout, .pool, .start] true last :=
  ((rolls.before.mono (by decide) id).trans (rolls.during.mono (by decide) id)).trans
    (rolls.after.mono (by decide) fun _ => rfl)

/-- A rollout with stages around it that roll nothing out. -/
theorem RollsOut.around {earlier later : Session}
    (rolls : request.RollsOut surroundings stored plans results first begun finished last)
    (before : earlier.Extends [.question, .connection, .table] false first)
    (after : last.Extends [] false later) :
    request.RollsOut surroundings stored plans results earlier begun finished later where
  before := (before.mono (List.Subset.refl _) fun _ => rfl).trans rolls.before
  performed := rolls.performed
  during := rolls.during
  after := rolls.after.trans after.loosen

/-- A request that is carried out ends with storing its schema or before it announces a rollout, or
it comes to rolling out. -/
theorem carryOut_rollsOut
    (performed : (request.carryOut surroundings schema plans).perform first = (outcome, last))
    (posed : Rollout.WellPosed request.workers plans) :
    first.Extends [] true last ∨
    ∃ stored results begun finished,
      request.RollsOut surroundings stored plans results first begun finished last := by
  obtain unstored | ⟨stored, begun, fresh, quiet, performed⟩ := perform_carryOut_stages performed
  · exact Or.inl unstored
  obtain ⟨stop, unannounced⟩ | ⟨results, _, finished, rolled, grown, _⟩ :=
    perform_rollOut fresh.normal posed begun
  · rw [perform_bind, unannounced] at performed
    cases performed
    exact Or.inl quiet
  rw [perform_bind, rolled] at performed
  have concluded := (perform_conclude performed).1
  exact Or.inr ⟨stored, results, begun, finished, quiet.mono (List.nil_subset _) id, rolled, grown,
    concluded⟩

/-- **A request that comes to rolling out has plans that rollouts can rely on.** -/
theorem run_rollsOut [Interpreter]
    (performed : (request.run surroundings).perform first = (outcome, last)) :
    first.Extends [.question, .connection, .table] true last ∨
    ∃ stored plans results begun finished, Rollout.WellPosed request.workers plans ∧
      request.RollsOut surroundings stored plans results first begun finished last := by
  obtain ⟨early, _⟩ | ⟨filter, meant, isMeant, unready⟩ | ⟨filter, schema, clusters, plans, meant,
    connected, ready, carried, _, isMeant, connecting, reached, isReady, carrying, closing, _⟩ :=
    perform_run_cases performed
  · exact Or.inl (early.mono (by decide) fun _ => rfl)
  · exact Or.inl ((isMeant.grown.mono (by decide) fun _ => rfl).trans
      (unready.mono (by decide) fun _ => rfl))
  have gates : first.Extends [.question, .connection, .table] false ready :=
    ((isMeant.grown.mono (by decide) id).trans (connecting.mono (by decide) id)).trans
      (isReady.grown.mono (by decide) id)
  obtain ⟨_, isPlans, _⟩ := isReady.targets
  obtain ⟨_, _, narrowed⟩ := targets_eq_ok isPlans
  have posed := narrowed.wellPosed reached.distinct isMeant.enough
  obtain unstored | ⟨stored, results, begun, finished, rolls⟩ := carryOut_rollsOut carrying posed
  · exact Or.inl (((gates.mono (List.Subset.refl _) fun _ => rfl).trans
      (unstored.mono (List.nil_subset _) id)).trans closing.loosen)
  · exact Or.inr ⟨stored, plans, results, begun, finished, posed, rolls.around gates closing⟩

end ApplyRequest

/-! ### From the command line -/

namespace CommandLine

/-- **Rollouts are only come to as they must be.** No run warns about a job that changes nothing,
and a run that comes to rolling out applies a schema with at least one worker, to at least one plan,
with distinct clusters and with databases in each plan, none of them twice; the rollouts are not
refused but give results. -/
theorem rolls_out_wellPosed [Interpreter] {surroundings : Surroundings} {words : List String}
    {session last : Session} {outcome : Except Stop Unit}
    (performed : (run surroundings words).perform session = (outcome, last)) :
    (∀ uri, idleRecord uri ∉ recordsIn (session.since last)) ∧
    ((∃ event ∈ session.since last, event.kind = .rollout) →
      ∃ settings stored plans results begun finished,
        let request := ApplyRequest.ofSettings settings
        named? words = some (.applySchema, settings) ∧
        Rollout.WellPosed request.workers plans ∧
        request.RollsOut surroundings stored plans results session begun finished last) := by
  have spared {kinds : List EventKind} {writes : Bool} (grown : session.Extends kinds writes last)
      (silent : .idle ∉ kinds) (unannounced : .rollout ∉ kinds) {property : Prop} :
      (∀ uri, idleRecord uri ∉ recordsIn (session.since last)) ∧
        ((∃ event ∈ session.since last, event.kind = .rollout) → property) :=
    ⟨grown.areOf.idleRecord_not_mem silent,
      fun comes => absurd (grown.mem_kinds (by decide) comes) unannounced⟩
  obtain ⟨quiet, _⟩ | ⟨command, settings, middle, named, quiet, performed⟩ := perform_run performed
  · exact spared quiet List.not_mem_nil List.not_mem_nil
  by_cases applies : command = .applySchema
  · subst applies
    obtain unrolled | ⟨stored, plans, results, begun, finished, posed, rolls⟩ :=
      ApplyRequest.run_rollsOut performed
    · exact spared (quiet.loosen.trans unrolled) (by decide) (by decide)
    have whole := rolls.around quiet.loosen (.refl last)
    exact ⟨whole.grown.areOf.idleRecord_not_mem (by decide),
      fun _ => ⟨settings, stored, plans, results, begun, finished, named, posed, whole⟩⟩
  · have other := (within_runCommand surroundings settings applies).of_perform performed
    exact spared (quiet.loosen.trans other) (by decide) (by decide)

/-- A run on two clusters, one of them named in three ways, with two workers. -/
theorem rolls_out_wellPosed_thrice_named :
    let surroundings : Surroundings := ⟨[("KSCHEMA_WORK_DIR", "/w")], .ofText "/tmp",
      ⟨fun _ => none, fun _ => none, fun client =>
        .answering (some client) (.ok ⟨[[.list [.text "sales"], .list [.text "sales"]]], []⟩)⟩,
      .ok "token", fun _ => .ok ⟨0, "", ""⟩⟩
    let session := Session.start ⟨[], [(["s.kql"], .file 0o644 [46])]⟩
    let words := ["schema", "apply", "-c", "https://f.k", "-c", "https://f.k/?tenant=t",
      "-c", "https://g.k", "-c", " https://f.k// ", "-f", "/s.kql", "--all", "--no-confirm",
      "--parallel", "2"]
    let ended := (run surroundings words).perform session
    (∃ event ∈ session.since ended.2, event.kind = .rollout) ∧
      (∀ uri, idleRecord uri ∉ recordsIn (session.since ended.2)) ∧
      ∃ settings plans, named? words = some (.applySchema, settings) ∧
        Rollout.WellPosed (ApplyRequest.ofSettings settings).workers plans := by
  intro surroundings session words ended
  have comes : ∃ event ∈ session.since ended.2, event.kind = .rollout := by decide +kernel
  obtain ⟨unwarned, rolls⟩ := rolls_out_wellPosed (Prod.eta ended).symm
  obtain ⟨settings, _, plans, _, _, _, named, posed, _⟩ := rolls comes
  exact ⟨comes, unwarned, settings, plans, named, posed⟩

end CommandLine

end FleetSchema
