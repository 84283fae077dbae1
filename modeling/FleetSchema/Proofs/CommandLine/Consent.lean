/-
**No change without consent.**

A program is started only when the user agreed to what is about to happen, by options or by answers
to questions.

* `starts_with_consent`: which consent there is when a program is started, and what is left undone
  when it is missing.
-/

import FleetSchema.Proofs.CommandLine.Course

namespace FleetSchema

open FleetSchema.Action

namespace ApplyRequest

variable {request : ApplyRequest} {surroundings : Surroundings} {first middle last : Session}
  {outcome : Except Stop Unit}

/-- The user says that all databases are meant if they are, by an option or by an answer. -/
def ConsentsToAll (request : ApplyRequest) (filter : TargetFilter) (answers : List Value)
    (events : List Event) : Prop :=
  filter.mode ≠ .all ∨ request.selection.selectAll = true ∨ Agreed answers events meantQuestion

/-- The user agrees to applying a schema, by an option or by an answer. -/
def ConsentsToApply (request : ApplyRequest) (answers : List Value) (events : List Event) : Prop :=
  request.asks = false ∨
    ∃ databases clusters, Agreed answers events (applyQuestion databases clusters)

/-- What the events of a run may be, and whether it may write files, depends on the consent that
there is among its events. -/
structure Guarded [Interpreter] (request : ApplyRequest) (answers : List Value)
    (events : List Event) (kinds : List EventKind) (writes : Bool) : Prop where
  start : .start ∈ kinds → request.dryRun = false ∧ request.ConsentsToApply answers events
  connection : .start ∈ kinds ∨ .connection ∈ kinds →
    ∃ filter, request.selection.filter = .ok filter ∧ request.ConsentsToAll filter answers events
  writes : writes = true → request.dryRun = false → request.ConsentsToApply answers events

section Consent

variable {kinds others : List EventKind} {writes mayWrite : Bool} {filter : TargetFilter}
  {plans : List Targets} {clusters : List Cluster}

theorem agreed_before {question : String} (before : first.Extends kinds writes middle)
    (after : middle.Extends others mayWrite last)
    (agreed : Agreed first.prompts.confirmations (first.since middle) question) :
    Agreed first.prompts.confirmations (first.since last) question := by
  rw [before.since_append after]
  exact agreed.before _

theorem Meant.consents [Interpreter] (meant : Meant request filter first middle)
    (after : middle.Extends kinds writes last) :
    request.ConsentsToAll filter first.prompts.confirmations (first.since last) :=
  meant.consent.imp_right fun either => either.imp_right (agreed_before meant.grown after)

theorem Ready.consents [Interpreter]
    (ready : Ready request surroundings filter clusters plans first middle)
    (wet : request.dryRun = false) :
    request.ConsentsToApply first.prompts.confirmations (first.since middle) := by
  obtain dry | unasked | agreed := ready.consent
  · rw [wet] at dry
    cases dry
  · exact Or.inl unasked
  · exact Or.inr ⟨_, _, agreed⟩

theorem ConsentsToAll.behind (before : first.Extends kinds writes middle)
    (after : middle.Extends others mayWrite last)
    (consents : request.ConsentsToAll filter middle.prompts.confirmations (middle.since last)) :
    request.ConsentsToAll filter first.prompts.confirmations (first.since last) :=
  consents.imp_right fun either => either.imp_right (agreed_behind before after)

theorem ConsentsToApply.behind (before : first.Extends kinds writes middle)
    (after : middle.Extends others mayWrite last)
    (consents : request.ConsentsToApply middle.prompts.confirmations (middle.since last)) :
    request.ConsentsToApply first.prompts.confirmations (first.since last) := by
  obtain unasked | ⟨databases, clusters, agreed⟩ := consents
  · exact Or.inl unasked
  · exact Or.inr ⟨databases, clusters, agreed_behind before after agreed⟩

theorem ConsentsToApply.before (before : first.Extends kinds writes middle)
    (after : middle.Extends others mayWrite last)
    (consents : request.ConsentsToApply first.prompts.confirmations (first.since middle)) :
    request.ConsentsToApply first.prompts.confirmations (first.since last) := by
  obtain unasked | ⟨databases, clusters, agreed⟩ := consents
  · exact Or.inl unasked
  · exact Or.inr ⟨databases, clusters, agreed_before before after agreed⟩

end Consent

/-- The kinds of events of a request that is carried out. A dry run starts nothing. -/
def kindsOf (request : ApplyRequest) : List EventKind :=
  [.question, .connection, .table, .rollout, .pool, .idle] ++
    if request.dryRun then [] else [.start]

theorem start_mem_kindsOf : .start ∈ request.kindsOf ↔ request.dryRun = false := by
  unfold kindsOf
  cases request.dryRun with
  | true => decide
  | false => decide

theorem subset_kindsOf (request : ApplyRequest) :
    [.question, .connection, .table, .rollout, .pool, .idle] ⊆ request.kindsOf :=
  List.subset_append_left _ _

/-- **What a request does is guarded by consent**, and it ends early when it does not connect. -/
theorem run_guarded [Interpreter]
    (performed : (request.run surroundings).perform first = (outcome, last)) :
    ∃ kinds writes, first.Extends kinds writes last ∧
      request.Guarded first.prompts.confirmations (first.since last) kinds writes ∧
      (.connection ∉ kinds → ∃ stop, outcome = .error stop) := by
  obtain ⟨grown, stop, isError⟩ | ⟨filter, middle, meant, grown⟩ |
    ⟨filter, schema, clusters, plans, meant, connected, ready, carried, _, isMeant, connecting, _,
      isReady, carrying, closing, _⟩ := perform_run_cases performed
  · refine ⟨_, _, grown, ⟨?_, ?_, ?_⟩, fun _ => ⟨stop, isError⟩⟩
    · exact fun starts => absurd starts (by decide)
    · exact fun either => absurd either (by decide)
    · rintro ⟨⟩
  · have whole := (meant.grown.mono (by decide) id).trans grown
    refine ⟨_, _, whole, ⟨?_, ?_, ?_⟩, fun none => absurd (by decide) none⟩
    · exact fun starts => absurd starts (by decide)
    · exact fun _ => ⟨filter, meant.filtered, meant.consents grown⟩
    · rintro ⟨⟩
  · have known := request.subset_kindsOf
    have toConnected : first.Extends request.kindsOf true connected :=
      (isMeant.grown.mono (List.Subset.trans (by decide) known) fun _ => rfl).trans
        (connecting.mono (List.Subset.trans (by decide) known) fun _ => rfl)
    have fromReady : ready.Extends request.kindsOf true last :=
      ((request.within_carryOut surroundings schema plans (known (by decide)) (known (by decide))
        (known (by decide)) start_mem_kindsOf.mpr (known (by decide))).of_perform carrying).trans
        closing.loosen
    have toLast : connected.Extends request.kindsOf true last :=
      (isReady.grown.mono (List.Subset.trans (by decide) known) fun _ => rfl).trans fromReady
    have agreed (wet : request.dryRun = false) :
        request.ConsentsToApply first.prompts.confirmations (first.since last) :=
      ((isReady.consents wet).before isReady.grown fromReady).behind toConnected toLast
    refine ⟨_, _, toConnected.trans toLast, ⟨?_, ?_, fun _ => agreed⟩, fun none =>
      absurd (known (by decide)) none⟩
    · exact fun starts => ⟨start_mem_kindsOf.mp starts, agreed (start_mem_kindsOf.mp starts)⟩
    · exact fun _ => ⟨filter, isMeant.filtered, isMeant.consents
        ((connecting.mono (List.Subset.trans (by decide) known) fun _ => rfl).trans toLast)⟩

end ApplyRequest

/-! ### Runs -/

namespace CommandLine

variable {surroundings : Surroundings} {words : List String} {first last : Session}
  {outcome : Except Stop Unit}

/-- What a run does is quiet, or it changes nothing, or it is guarded by the consent to a request.
-/
theorem run_guarded [Interpreter]
    (performed : (run surroundings words).perform first = (outcome, last)) :
    ∃ kinds writes, first.Extends kinds writes last ∧
      (.start ∈ kinds → ∃ settings, named? words = some (.applySchema, settings)) ∧
      ∀ settings, named? words = some (.applySchema, settings) →
        (ApplyRequest.ofSettings settings).Guarded first.prompts.confirmations (first.since last)
          kinds writes ∧
        (.connection ∉ kinds → ∃ stop, outcome = .error stop) := by
  obtain ⟨quiet, stop, isError⟩ | ⟨command, settings, middle, named, quiet, performed⟩ :=
    perform_run performed
  · refine ⟨_, _, quiet, fun starts => absurd starts List.not_mem_nil,
      fun _ _ => ⟨⟨?_, ?_, ?_⟩, fun _ => ⟨stop, isError⟩⟩⟩
    · exact fun starts => absurd starts (by decide)
    · exact fun either => absurd either (by decide)
    · rintro ⟨⟩
  by_cases applies : command = .applySchema
  · subst applies
    obtain ⟨kinds, writes, grown, guarded, early⟩ := ApplyRequest.run_guarded performed
    refine ⟨kinds, writes, quiet.loosen.trans grown,
      fun _ => ⟨settings, named⟩, fun own isOwn => ?_⟩
    rw [named] at isOwn
    cases isOwn
    refine ⟨⟨fun starts => (guarded.start starts).imp_right (.behind quiet grown), fun either => ?_,
      fun writing wet => (guarded.writes writing wet).behind quiet grown⟩, early⟩
    obtain ⟨filter, filtered, consents⟩ := guarded.connection either
    exact ⟨filter, filtered, consents.behind quiet grown⟩
  · have grown := (within_runCommand surroundings settings applies).of_perform performed
    refine ⟨_, _, quiet.loosen.trans grown,
      fun starts => absurd starts (by decide), fun own isOwn => ?_⟩
    rw [named] at isOwn
    cases isOwn
    exact absurd rfl applies

/-- **No program is started without consent.** When a program is started, the run applies a schema
and is no dry one, and the user consented to all databases, if they are meant, and to applying.
Without the first consent a run ends before it connects to anything. Without the second one it ends
before it writes or starts anything. -/
theorem starts_with_consent [Interpreter] (surroundings : Surroundings) (words : List String)
    (session : Session) :
    let ended := (run surroundings words).perform session
    let answers := session.prompts.confirmations
    ∃ added, ended.2.events = session.events ++ added ∧
      ((∃ arguments, .call (.started arguments) ∈ added) →
        ∃ settings filter, named? words = some (.applySchema, settings) ∧
          let request := ApplyRequest.ofSettings settings
          request.dryRun = false ∧ request.selection.filter = .ok filter ∧
            request.ConsentsToAll filter answers added ∧ request.ConsentsToApply answers added) ∧
      ∀ settings, named? words = some (.applySchema, settings) →
        let request := ApplyRequest.ofSettings settings
        (∀ filter, request.selection.filter = .ok filter →
          ¬ request.ConsentsToAll filter answers added →
            (∃ stop, ended.1 = .error stop) ∧
              ∀ client login, .call (.connected client login) ∉ added) ∧
        (request.dryRun = false → ¬ request.ConsentsToApply answers added →
          ended.2.tree = session.tree ∧ ∀ arguments, .call (.started arguments) ∉ added) := by
  intro ended answers
  obtain ⟨kinds, writes, grown, known, guarded⟩ := run_guarded (rfl : _ = (ended.1, ended.2))
  refine ⟨session.since ended.2, grown.events, ?_, fun settings named => ⟨?_, ?_⟩⟩
  · rintro ⟨arguments, started⟩
    have starts : .start ∈ kinds := (grown.areOf _ started).resolve_left (by rintro ⟨⟩)
    obtain ⟨settings, named⟩ := known starts
    obtain ⟨own, _⟩ := guarded settings named
    obtain ⟨filter, filtered, meant⟩ := own.connection (Or.inl starts)
    obtain ⟨wet, agreed⟩ := own.start starts
    exact ⟨settings, filter, named, wet, filtered, meant, agreed⟩
  · intro filter filtered refused
    have unconnected : .connection ∉ kinds := by
      intro connects
      obtain ⟨other, isOther, meant⟩ := (guarded settings named).1.connection (Or.inr connects)
      rw [filtered] at isOther
      cases isOther
      exact refused meant
    exact ⟨(guarded settings named).2 unconnected,
      fun client login => grown.areOf.not_mem (by rintro ⟨⟩) unconnected⟩
  · intro wet refused
    have own := (guarded settings named).1
    refine ⟨grown.tree ?_, fun arguments => grown.areOf.not_mem (by rintro ⟨⟩) ?_⟩
    · rw [← Bool.not_eq_true]
      exact fun writing => refused (own.writes writing wet)
    · exact fun starts => refused (own.start starts).2

/-- A run on a cluster with one database, where the user agrees to both questions. -/
theorem starts_with_consent_twice_agreed :
    let surroundings : Surroundings := ⟨[("KSCHEMA_WORK_DIR", "/w")], .ofText "/tmp",
      ⟨fun _ => none, fun _ => none,
        fun client => .answering (some client) (.ok ⟨[[.list [.text "sales"]]], []⟩)⟩,
      .ok "token", fun _ => .ok ⟨0, "", ""⟩⟩
    let session : Session :=
      { Session.start ⟨[], [(["s.kql"], .file 0o644 [46])]⟩ with
        prompts := ⟨[], [.bool true, .int 1], .full⟩ }
    let words := ["schema", "apply", "-c", "https://f.k", "-f", "/s.kql"]
    ∃ arguments added settings filter,
      ((run surroundings words).perform session).2.events = added ∧
      .call (.started arguments) ∈ added ∧
      named? words = some (.applySchema, settings) ∧
      (ApplyRequest.ofSettings settings).ConsentsToAll filter [.bool true, .int 1] added := by
  intro surroundings session words
  have starts : startsIn ((run surroundings words).perform session).2.events =
      [["delta-kusto", "-p", "/w/jobs/delta-f-00000000.yaml"]] := by decide +kernel
  obtain ⟨added, events, consent, _⟩ := starts_with_consent surroundings words session
  have started :
      .call (.started ["delta-kusto", "-p", "/w/jobs/delta-f-00000000.yaml"]) ∈ added := by
    have same : added = ((run surroundings words).perform session).2.events := events.symm
    rw [← mem_startsIn, same, starts]
    exact List.mem_cons_self
  obtain ⟨settings, filter, named, _, _, meant, _⟩ := consent ⟨_, started⟩
  exact ⟨_, added, settings, filter, events, started, named, meant⟩

end CommandLine

end FleetSchema
