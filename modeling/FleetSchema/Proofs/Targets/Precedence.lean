/-
**The way to select that counts, and nothing below it.**

A filter may be filled in for several ways to select. The first one in the order pattern, list,
lookup decides where the names come from and what is asked of collaborators; what stands in the
filter for the others is never looked at.

* `SourceOf`: where the names come from, one case for each way to select;
* `perform_source`: what the way that counts comes to;
* `resolves_by_precedence`: targets are the source without repetition, or there are none.
-/

import FleetSchema.Proofs.Catalogue.Listing
import FleetSchema.Targets

namespace FleetSchema

open FleetSchema.Action

/-! ### Lookups -/

/-- A service that answers with names or fails. -/
def LookupService.naming
    (answer : (endpoint cluster label : String) → Except Fault (List String)) : LookupService :=
  .answering fun endpoint cluster label =>
    (answer endpoint cluster label).map fun names => .list (names.map .text)

/-- The fault that a lookup states for a fault of its service. -/
def lookupFaultOf (name endpoint : String) (fault : Fault) : Fault :=
  if fault.isStated then fault else .lookupFault name endpoint fault

theorem isStated_lookupFaultOf (name endpoint : String) (fault : Fault) :
    (lookupFaultOf name endpoint fault).isStated = true := by
  unfold lookupFaultOf
  split
  · next stated => exact stated
  · rfl

/-- Names that are answered are taken without repetition. -/
theorem answeredNames_texts (names : List String) :
    answeredNames (.list (names.map .text)) = .ok (unique names) := by
  have keys : (names.map Value.text).find? (fun item => !item.isKey) = none := by
    refine List.find?_eq_none.mpr fun item member => ?_
    obtain ⟨name, _, rfl⟩ := List.mem_map.mp member
    exact Bool.false_ne_true
  have same : ∀ first second : String, (Value.text first).same (.text second) = (first == second) :=
    fun _ _ => rfl
  unfold answeredNames distinctItems Value.items?
  dsimp only
  rw [keys]
  dsimp only
  rw [uniqueBy_map same, List.map_map]
  exact congrArg _ (List.map_id _)

/-! ### Sources -/

section Sources

variable (script : ClientScript)
  (answer : (endpoint cluster label : String) → Except Fault (List String)) (cluster : Cluster)
  (name : String) (filter : TargetFilter)

/-- What the listing of a cluster comes to for a pattern, whenever it is made. -/
def Lists [Interpreter] (pattern : String) (source : Except Fault (List String)) : Prop :=
  ∀ session, ((cluster.list pattern).perform session).1 = source

/-- The way to select that counts, what it asks of collaborators, and what it comes to. -/
inductive SourceOf [Interpreter] : FilterMode → List Call → Except Fault (List String) → Prop
  | pattern {source : Except Fault (List String)} (db : filter.db ≠ "")
      (lists : Lists cluster filter.db source) : SourceOf .singleDb script.listingCalls source
  | names (db : filter.db = "") (dbs : filter.dbs ≠ []) :
      SourceOf .explicitList [] (.ok filter.dbs)
  | lookup (db : filter.db = "") (dbs : filter.dbs = []) (webhook : filter.webhook ≠ "") :
      SourceOf .webhook [.lookedUp filter.webhook name filter.label]
        ((answer filter.webhook name filter.label).mapError (lookupFaultOf name filter.webhook))
  | all {source : Except Fault (List String)} (db : filter.db = "") (dbs : filter.dbs = [])
      (webhook : filter.webhook = "") (lists : Lists cluster "" source) :
      SourceOf .all script.listingCalls source

end Sources

/-- Another filter agrees with a filter on all that counts. -/
structure TargetFilter.AgreesWith (filter other : TargetFilter) : Prop where
  db : other.db = filter.db
  dbs : filter.db = "" → other.dbs = filter.dbs
  webhook : filter.db = "" → filter.dbs = [] → other.webhook = filter.webhook
  label : filter.db = "" → filter.dbs = [] → filter.webhook ≠ "" → other.label = filter.label

section Modes

variable {filter : TargetFilter}

theorem mode_of_db (db : filter.db ≠ "") : filter.mode = .singleDb := by
  have given : filter.db.isEmpty = false := by simpa using db
  simp [TargetFilter.mode, TargetFilter.populatedModes, given]

theorem mode_of_dbs (db : filter.db = "") (dbs : filter.dbs ≠ []) :
    filter.mode = .explicitList := by
  have given : filter.dbs.isEmpty = false := by simpa using dbs
  simp [TargetFilter.mode, TargetFilter.populatedModes, db, given]

theorem mode_of_webhook (db : filter.db = "") (dbs : filter.dbs = [])
    (webhook : filter.webhook ≠ "") : filter.mode = .webhook := by
  have given : filter.webhook.isEmpty = false := by simpa using webhook
  simp [TargetFilter.mode, TargetFilter.populatedModes, db, dbs, given]

theorem mode_of_none (db : filter.db = "") (dbs : filter.dbs = []) (webhook : filter.webhook = "") :
    filter.mode = .all := by
  simp [TargetFilter.mode, TargetFilter.populatedModes, db, dbs, webhook]

theorem db_of_mode (isMode : filter.mode = .singleDb) : filter.db ≠ "" := by
  intro db
  by_cases dbs : filter.dbs = []
  · by_cases webhook : filter.webhook = ""
    · rw [mode_of_none db dbs webhook] at isMode
      cases isMode
    · rw [mode_of_webhook db dbs webhook] at isMode
      cases isMode
  · rw [mode_of_dbs db dbs] at isMode
    cases isMode

end Modes

section Precedence

variable {script : ClientScript}
  {answer : (endpoint cluster label : String) → Except Fault (List String)} {cluster : Cluster}
  {name : String} {filter other : TargetFilter} {mode : FilterMode} {calls : List Call}
  {source : Except Fault (List String)}

theorem SourceOf.mode_eq [Interpreter]
    (sourceOf : SourceOf script answer cluster name filter mode calls source) :
    filter.mode = mode := by
  cases sourceOf with
  | pattern db _ => exact mode_of_db db
  | names db dbs => exact mode_of_dbs db dbs
  | lookup db dbs webhook => exact mode_of_webhook db dbs webhook
  | all db dbs webhook _ => exact mode_of_none db dbs webhook

/-- A filter that agrees on all that counts has the same source. -/
theorem SourceOf.agreeing [Interpreter]
    (sourceOf : SourceOf script answer cluster name filter mode calls source)
    (agrees : filter.AgreesWith other) :
    SourceOf script answer cluster name other mode calls source := by
  cases sourceOf with
  | pattern db lists =>
    rw [← agrees.db] at db lists
    exact .pattern db lists
  | names db dbs =>
    have sameDbs := agrees.dbs db
    rw [← sameDbs] at dbs ⊢
    exact .names (agrees.db.trans db) dbs
  | lookup db dbs webhook =>
    have sameWebhook := agrees.webhook db dbs
    have sameLabel := agrees.label db dbs webhook
    rw [← sameWebhook] at webhook
    rw [← sameWebhook, ← sameLabel]
    exact .lookup (agrees.db.trans db) ((agrees.dbs db).trans dbs) webhook
  | all db dbs webhook lists =>
    exact .all (agrees.db.trans db) ((agrees.dbs db).trans dbs)
      ((agrees.webhook db dbs).trans webhook) lists

/-! ### What a source comes to -/

variable {pattern : String} {compiled : NamePattern} (session : Session)

theorem perform_list [Interpreter] (scripted : cluster.client = script.client)
    (compiles : NamePattern.compile pattern = .ok compiled) :
    ∃ records last, (cluster.list pattern).perform session =
        (script.listing compiled cluster.uri, last) ∧
      session.Adds script.listingCalls records last := by
  obtain ⟨records, final, performed, _⟩ :=
    perform_listDatabases script cluster.uri cluster.logger compiled session compiles
  rw [← scripted] at performed
  have adds := (adds_left script session records).trans (Session.adds_noting _ final)
  rw [List.append_nil] at adds
  exact ⟨_, _, performed, adds⟩

theorem exists_lists [Interpreter] (scripted : cluster.client = script.client)
    (compiles : ∃ compiled, NamePattern.compile pattern = .ok compiled) :
    ∃ source, Lists cluster pattern source := by
  obtain ⟨compiled, compiles⟩ := compiles
  refine ⟨script.listing compiled cluster.uri, fun session => ?_⟩
  obtain ⟨_, _, performed, _⟩ := perform_list session scripted compiles
  rw [performed]

/-- A listing comes to what it always comes to, and asks what it always asks. -/
theorem perform_list_of_lists [Interpreter] (scripted : cluster.client = script.client)
    (compiles : ∃ compiled, NamePattern.compile pattern = .ok compiled)
    (lists : Lists cluster pattern source) :
    ∃ records last, (cluster.list pattern).perform session = (source, last) ∧
      session.Adds script.listingCalls records last ∧
        ∀ fault, source = .error fault → fault.isStated = true := by
  obtain ⟨compiled, compiles⟩ := compiles
  obtain ⟨records, last, performed, adds⟩ := perform_list session scripted compiles
  have same := lists session
  rw [performed] at same
  subst same
  exact ⟨records, last, performed, adds, fun fault failed =>
    Fault.isStated_of_isKind (isKind_of_listing_eq_error failed)⟩

theorem perform_lookUp (named : cluster.name = .ok name) :
    (Targets.lookUp cluster filter (.naming answer)).perform session =
      (((answer filter.webhook name filter.label).mapError
          (lookupFaultOf name filter.webhook)).map unique,
        session.adding (.call (.lookedUp filter.webhook name filter.label))) := by
  unfold Targets.lookUp LookupService.naming LookupService.answering
  rw [named, perform_bind, perform_ofExcept]
  dsimp only
  rw [perform_bind, perform_onFault, perform_bind, perform_call]
  dsimp only
  rw [perform_ofExcept]
  cases answer filter.webhook name filter.label with
  | error fault => rfl
  | ok names =>
    dsimp only [Except.map]
    rw [answeredNames_texts]
    rfl

theorem exists_compile_empty [Interpreter] : ∃ compiled, NamePattern.compile "" = .ok compiled :=
  exists_compile (by rw [NamePattern.compile_empty]; decide +kernel)

/-- **The way that counts comes to its source**, after it has asked what it asks. -/
theorem perform_source [Interpreter] (scripted : cluster.client = script.client)
    (named : cluster.name = .ok name)
    (compiles : filter.db = "" ∨ ∃ compiled, NamePattern.compile filter.db = .ok compiled)
    (sourceOf : SourceOf script answer cluster name filter mode calls source) :
    ∃ given records last,
      (Targets.source cluster filter (.naming answer) mode).perform session = (given, last) ∧
        session.Adds calls records last ∧ given.map unique = source.map unique ∧
          ∀ fault, source = .error fault → fault.isStated = true := by
  cases sourceOf with
  | pattern db lists =>
    obtain ⟨records, last, performed, adds, stated⟩ :=
      perform_list_of_lists session scripted (compiles.resolve_left db) lists
    exact ⟨source, records, last, performed, adds, rfl, stated⟩
  | names => exact ⟨.ok filter.dbs, [], session, rfl, .refl session, rfl, by rintro _ ⟨⟩⟩
  | lookup =>
    refine ⟨_, _, _, perform_lookUp session named, session.adds_call _, ?_, ?_⟩
    · cases answer filter.webhook name filter.label with
      | error fault => rfl
      | ok names => exact congrArg Except.ok (unique_of_nodup (nodup_unique names))
    · intro fault failed
      obtain ⟨cause, rfl⟩ := mapError_eq_error failed
      exact isStated_lookupFaultOf _ _ cause
  | all db dbs webhook lists =>
    obtain ⟨records, last, performed, adds, stated⟩ :=
      perform_list_of_lists (session.noting ⟨.warning, cluster.logger,
        "missing db filter - taking all databases in " ++ cluster.uri, false⟩) scripted
        exists_compile_empty lists
    refine ⟨source, _, last, ?_, (session.adds_noting _).trans adds, rfl, stated⟩
    unfold Targets.source
    rw [perform_bind, perform_log]
    exact performed

/-! ### What a resolution comes to -/

theorem perform_warnIgnored (cluster : Cluster) (filter : TargetFilter) :
    ∃ records, (Targets.warnIgnored cluster filter).perform session =
      (.ok (), session.notingAll records) := by
  unfold Targets.warnIgnored
  split
  · exact ⟨[_], perform_log _ _ _ _ session⟩
  · exact ⟨[], rfl⟩

/-- The diagnostic about a resolution that fails. -/
def unresolvedRecord (cluster : Cluster) : LogRecord :=
  ⟨.error, cluster.logger, "failed retrieving list of databases for " ++ cluster.uri, false⟩

/-- A resolution comes to targets when its source comes to names, and to the fault of its source
otherwise, which it writes down last. -/
theorem perform_resolve [Interpreter] (scripted : cluster.client = script.client)
    (named : cluster.name = .ok name)
    (compiles : filter.db = "" ∨ ∃ compiled, NamePattern.compile filter.db = .ok compiled)
    (sourceOf : SourceOf script answer cluster name filter mode calls source) :
    ∃ records last, (resolve cluster filter (some (.naming answer))).perform session =
        (source.map fun names => ⟨cluster.uri, unique names, mode⟩, last) ∧
      session.Adds calls records last ∧
        ∀ fault, source = .error fault → fault.isStated = true ∧
          ∃ earlier, records = earlier ++ [unresolvedRecord cluster] := by
  obtain ⟨warnings, warned⟩ := perform_warnIgnored session cluster filter
  obtain ⟨given, records, reached, performed, adds, sameNames, stated⟩ :=
    perform_source (session.notingAll warnings) scripted named compiles sourceOf
  have before := (session.adds_notingAll warnings).trans adds
  unfold resolve
  rw [perform_bind, warned]
  dsimp only
  rw [sourceOf.mode_eq, Option.getD_some, perform_bind, perform_onFault, performed]
  cases source with
  | ok names =>
    cases given with
    | error fault => cases sameNames
    | ok others =>
      have same : unique others = unique names := Except.ok.inj sameNames
      refine ⟨_, reached, ?_, before, by rintro _ ⟨⟩⟩
      dsimp only
      rw [same]
      rfl
  | error fault =>
    cases given with
    | ok names => cases sameNames
    | error other =>
      cases sameNames
      have isStated := stated fault rfl
      refine ⟨_, reached.noting (unresolvedRecord cluster), ?_,
        List.append_nil calls ▸ before.trans (reached.adds_noting _), ?_⟩
      · unfold Targets.resolveFault
        dsimp only
        rw [if_pos isStated, perform_bind, perform_log]
        rfl
      · rintro _ ⟨⟩
        exact ⟨isStated, _, rfl⟩

variable (answer name) in
theorem exists_sourceOf [Interpreter] (scripted : cluster.client = script.client)
    (compiles : filter.db = "" ∨ ∃ compiled, NamePattern.compile filter.db = .ok compiled) :
    ∃ mode calls source, SourceOf script answer cluster name filter mode calls source := by
  by_cases db : filter.db = ""
  · by_cases dbs : filter.dbs = []
    · by_cases webhook : filter.webhook = ""
      · obtain ⟨source, lists⟩ := exists_lists scripted exists_compile_empty
        exact ⟨_, _, source, .all db dbs webhook lists⟩
      · exact ⟨_, _, _, .lookup db dbs webhook⟩
    · exact ⟨_, _, _, .names db dbs⟩
  · obtain ⟨source, lists⟩ := exists_lists scripted (compiles.resolve_left db)
    exact ⟨_, _, source, .pattern db lists⟩

end Precedence

/-- A resolution goes by a source: it makes the calls that the source takes, and gives the names of
the source, each at its first place, or states the fault of the source. -/
structure ResolvesFrom (cluster : Cluster) (mode : FilterMode) (calls : List Call)
    (source : Except Fault (List String)) (session last : Session)
    (outcome : Except Fault Targets) : Prop where
  calls : callsIn (session.since last) = calls
  succeeds : ∀ names, source = .ok names →
    ∃ databases, outcome = .ok ⟨cluster.uri, databases, mode⟩ ∧ FirstAppearances names databases
  fails : ∀ fault, source = .error fault →
    outcome = .error fault ∧ fault.isStated = true ∧
      ∃ earlier, recordsIn (session.since last) =
        earlier ++ session.kept [unresolvedRecord cluster]

/-- **The way to select that counts decides alone.** A resolution goes by the source of the first
way that is filled in. Another filter that agrees on all that counts comes to the same, whatever it
holds otherwise and whenever it is used. -/
theorem resolves_by_precedence [Interpreter] (script : ClientScript)
    (answer : (endpoint cluster label : String) → Except Fault (List String)) (cluster : Cluster)
    (name : String) (filter : TargetFilter) (session last : Session)
    (outcome : Except Fault Targets) (scripted : cluster.client = script.client)
    (named : cluster.name = .ok name)
    (compiles : filter.db = "" ∨ ∃ compiled, NamePattern.compile filter.db = .ok compiled)
    (performed : (resolve cluster filter (some (.naming answer))).perform session =
      (outcome, last)) :
    (∃ mode calls source, SourceOf script answer cluster name filter mode calls source ∧
      ResolvesFrom cluster mode calls source session last outcome) ∧
    ∀ other elsewhere, filter.AgreesWith other →
      ((resolve cluster other (some (.naming answer))).perform elsewhere).1 = outcome := by
  obtain ⟨mode, calls, source, sourceOf⟩ := exists_sourceOf answer name scripted compiles
  obtain ⟨records, reached, resolved, adds, failure⟩ :=
    perform_resolve session scripted named compiles sourceOf
  cases resolved.symm.trans performed
  refine ⟨⟨mode, calls, source, sourceOf, adds.calls, ?_, ?_⟩, fun other elsewhere agrees => ?_⟩
  · rintro names rfl
    exact ⟨unique names, rfl, firstAppearances_unique names⟩
  · rintro fault rfl
    obtain ⟨isStated, earlier, rfl⟩ := failure fault rfl
    exact ⟨rfl, isStated, _, adds.records.trans (List.filter_append earlier _)⟩
  · rw [← agrees.db] at compiles
    obtain ⟨_, _, same, _⟩ :=
      perform_resolve elsewhere scripted named compiles (sourceOf.agreeing agrees)
    rw [same]

/-- A lookup service that names a database twice, and a filter that also has a label. -/
theorem resolves_by_precedence_looked_up :
    let script : ClientScript := ⟨[], none, none, none, none⟩
    let cluster : Cluster := ⟨"https://f.k", script.client, "log", none⟩
    let filter : TargetFilter := ⟨"", [], "https://l.k", "blue"⟩
    let answer : String → String → String → Except Fault (List String) :=
      fun _ name label => .ok [name, label, name]
    ∃ last, (resolve cluster filter (some (.naming answer))).perform (.start ⟨[], []⟩) =
        (.ok ⟨"https://f.k", ["f", "blue"], .webhook⟩, last) ∧
      ∃ mode calls source, SourceOf script answer cluster "f" filter mode calls source ∧
        ResolvesFrom cluster mode calls source (.start ⟨[], []⟩) last
          (.ok ⟨"https://f.k", ["f", "blue"], .webhook⟩) := by
  intro script cluster filter answer
  have named : cluster.name = .ok "f" := eq_ok_of_toOption (by decide +kernel)
  have resolves : ((resolve cluster filter (some (.naming answer))).perform
      (.start ⟨[], []⟩)).1.toOption = some ⟨"https://f.k", ["f", "blue"], .webhook⟩ := by
    decide +kernel
  generalize ended : (resolve cluster filter (some (.naming answer))).perform (.start ⟨[], []⟩) =
    performed at resolves
  obtain ⟨outcome, last⟩ := performed
  obtain rfl := eq_ok_of_toOption resolves
  exact ⟨last, rfl, (resolves_by_precedence script answer cluster "f" filter _ last _ rfl named
    (.inl rfl) ended).1⟩

end FleetSchema
