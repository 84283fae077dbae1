/-
**Resolving several clusters: all or none.**

Clusters are resolved one after the other. There are targets for all of them when every resolution
succeeds; otherwise there is the fault of the first one that fails, and the clusters behind it are
left alone.

* `ResolvesEach`: clusters are resolved, each in the session that the earlier ones leave;
* `resolveAll_eq_ok_iff`, `resolveAll_eq_error_iff`: when there are targets, and which fault there
  is otherwise;
* `ResolvingFault`, `resolve_eq_error`: what the fault of a resolution may be.
-/

import FleetSchema.Proofs.Targets.Pairs
import FleetSchema.Proofs.Targets.Precedence

namespace FleetSchema

open FleetSchema.Action

/-! ### One after the other -/

/-- Clusters are resolved one after the other, each in the session that the earlier ones leave. -/
inductive ResolvesEach [Interpreter] (filter : TargetFilter) (service : Option LookupService) :
    List Cluster → List Targets → Session → Session → Prop
  | nil (session : Session) : ResolvesEach filter service [] [] session session
  | cons {cluster : Cluster} {rest : List Cluster} {targets : Targets} {others : List Targets}
      {first middle last : Session}
      (resolves : (resolve cluster filter service).perform first = (.ok targets, middle))
      (behind : ResolvesEach filter service rest others middle last) :
      ResolvesEach filter service (cluster :: rest) (targets :: others) first last

section OneAfterTheOther

variable [Interpreter] {filter : TargetFilter} {service : Option LookupService} {cluster : Cluster}
  {clusters earlier rest : List Cluster} {found : List Targets} {first middle last : Session}
  {fault : Fault}

theorem perform_resolveAll_cons (filter : TargetFilter) (service : Option LookupService)
    (cluster : Cluster) (rest : List Cluster) (session : Session) :
    (resolveAll filter service (cluster :: rest)).perform session =
      match (resolve cluster filter service).perform session with
      | (.error fault, reached) => (.error fault, reached)
      | (.ok targets, reached) =>
        let others := (resolveAll filter service rest).perform reached
        (others.1.map (targets :: ·), others.2) := by
  rw [resolveAll, perform_bind]
  rcases (resolve cluster filter service).perform session with ⟨fault | targets, reached⟩
  · rfl
  · exact perform_bind_pure _ _ reached

/-- Behind clusters that are resolved, the others are resolved as if they came first. -/
theorem ResolvesEach.perform_append
    (resolves : ResolvesEach filter service earlier found first middle) (rest : List Cluster) :
    (resolveAll filter service (earlier ++ rest)).perform first =
      let others := (resolveAll filter service rest).perform middle
      (others.1.map (found ++ ·), others.2) := by
  induction resolves with
  | nil session =>
    rw [List.nil_append]
    generalize (resolveAll filter service rest).perform session = ended
    rcases ended with ⟨fault | others, reached⟩
    · rfl
    · rfl
  | cons resolved _ ih =>
    rw [List.cons_append, perform_resolveAll_cons, resolved]
    dsimp only
    rw [ih]
    generalize (resolveAll filter service rest).perform _ = ended
    rcases ended with ⟨fault | others, reached⟩
    · rfl
    · rfl

/-- There are targets exactly when the clusters are resolved one after the other. -/
theorem resolveAll_eq_ok_iff :
    (resolveAll filter service clusters).perform first = (.ok found, last) ↔
      ResolvesEach filter service clusters found first last := by
  constructor
  · intro performed
    induction clusters generalizing found first with
    | nil =>
      cases performed
      exact .nil _
    | cons cluster rest ih =>
      unfold resolveAll at performed
      obtain ⟨targets, middle, resolved, performed⟩ := perform_bind_eq_ok performed
      obtain ⟨others, _, all, performed⟩ := perform_bind_eq_ok performed
      cases performed
      exact .cons resolved (ih all)
  · intro resolves
    have performed := resolves.perform_append []
    rw [List.append_nil] at performed
    rw [performed]
    exact congrArg (fun names => (Except.ok names, last)) (List.append_nil found)

/-- There is a fault exactly when some cluster fails behind clusters that are resolved. -/
theorem resolveAll_eq_error_iff :
    (resolveAll filter service clusters).perform first = (.error fault, last) ↔
      ∃ earlier cluster later found middle, clusters = earlier ++ cluster :: later ∧
        ResolvesEach filter service earlier found first middle ∧
        (resolve cluster filter service).perform middle = (.error fault, last) := by
  constructor
  · intro performed
    induction clusters generalizing first with
    | nil => cases performed
    | cons cluster rest ih =>
      unfold resolveAll at performed
      obtain ⟨_, failed, ⟨⟩⟩ | ⟨targets, middle, resolved, performed⟩ :=
        perform_bind_cases performed
      · exact ⟨[], cluster, rest, [], first, rfl, .nil first, failed⟩
      obtain ⟨_, failed, ⟨⟩⟩ | ⟨_, _, _, performed⟩ := perform_bind_cases performed
      · obtain ⟨earlier, other, later, found, before, rfl, resolves, failed⟩ := ih failed
        exact ⟨cluster :: earlier, other, later, targets :: found, before, rfl,
          .cons resolved resolves, failed⟩
      · cases performed
  · rintro ⟨earlier, cluster, later, found, middle, rfl, resolves, failed⟩
    rw [resolves.perform_append, perform_resolveAll_cons, failed]
    rfl

theorem ResolvesEach.uris (resolves : ResolvesEach filter service clusters found first last) :
    List.Forall₂ (fun cluster targets => targets.clusterUri = cluster.uri) clusters found :=
  (resolveAll_eq_ok (resolveAll_eq_ok_iff.mpr resolves)).imp fun _ _ same => same.1

end OneAfterTheOther

/-! ### Listings for a filter -/

section Faults

variable {filter : TargetFilter} {cluster : Cluster} {first last : Session} {fault : Fault}

/-- The pattern of a filter that makes sense compiles. -/
theorem Selection.compiles_of_check [Interpreter] {selectAll : Bool}
    (checked : check filter selectAll = .ok ()) :
    filter.db = "" ∨ ∃ compiled, NamePattern.compile filter.db = .ok compiled := by
  by_cases db : filter.db = ""
  · exact Or.inl db
  right
  have given : filter.db.isEmpty = false := by simpa using db
  cases compiled : compileNamePattern filter.db with
  | ok pattern => exact ⟨pattern, compileNamePattern_eq_ok_iff.mp compiled⟩
  | error fault =>
    unfold check at checked
    rw [given, compiled] at checked
    simp only [bind, Except.bind] at checked
    -- the earlier checks end in faults as well
    split at checked
    · cases checked
    split at checked
    · cases checked
    split at checked
    · cases checked
    · cases checked

theorem Selection.compiles_of_filter [Interpreter] {selection : Selection}
    (filtered : selection.filter = .ok filter) :
    filter.db = "" ∨ ∃ compiled, NamePattern.compile filter.db = .ok compiled := by
  unfold Selection.filter at filtered
  cases checked : check selection.draft selection.selectAll with
  | error fault =>
    rw [checked] at filtered
    cases filtered
  | ok value =>
    rw [checked] at filtered
    cases filtered
    exact compiles_of_check checked

/-- A listing for a pattern that compiles fails with a fault of the query only, whatever its client
is. -/
theorem isKind_of_listDatabases_eq_error [Interpreter] {client : QueryClient}
    {uri logger source : String} (compiles : ∃ compiled, NamePattern.compile source = .ok compiled)
    (performed : (listDatabases client uri logger source).perform first = (.error fault, last)) :
    fault.isKind .query = true := by
  obtain ⟨pattern, compiles⟩ := compiles
  obtain ⟨_, listed, _⟩ := perform_listDatabases_queried uri logger pattern first client compiles
  rw [listed] at performed
  obtain ⟨cause, rfl⟩ := mapError_eq_error (Prod.mk.inj performed).1
  exact isKind_listingFaultOf uri cause

/-! ### Lookups over the web -/

/-- Asking the web ends in a defect or in the fault that the web answers with. -/
theorem ask_eq_error {patience : Value} {endpoint name label : String}
    (performed : (LookupService.ask patience endpoint name label).perform first =
      (.error fault, last)) :
    fault.isStated = false ∨ first.web.head? = some (.error fault) := by
  unfold LookupService.ask at performed
  obtain ⟨_, fetched, ⟨⟩⟩ | ⟨answer, middle, _, performed⟩ := perform_bind_cases performed
  · rw [Web.perform_fetch] at fetched
    cases answers : first.web with
    | nil =>
      rw [answers] at fetched
      cases fetched
      exact Or.inl rfl
    | cons next rest =>
      rw [answers] at fetched
      cases fetched
      exact Or.inr rfl
  obtain ⟨_, refused, ⟨⟩⟩ | ⟨_, _, _, performed⟩ := perform_bind_cases performed
  · left
    rw [perform_ofExcept] at refused
    have refused := (Prod.mk.inj refused).1
    unfold Web.checkStatus at refused
    split at refused
    · cases refused
      rfl
    · cases refused
  · left
    rw [perform_ofExcept] at performed
    obtain ⟨_, rfl⟩ := mapError_eq_error (Prod.mk.inj performed).1
    rfl

/-- A lookup over the web ends in a fault of the lookup, in a defect, or in the fault that the web
answers with. -/
theorem overWeb_eq_error {patience : Value} {logger endpoint name label : String}
    (performed : ((LookupService.overWeb patience logger).lookup endpoint name label).perform first =
      (.error fault, last)) :
    fault.isKind .lookup = true ∨ fault.isStated = false ∨
      first.web.head? = some (.error fault) := by
  unfold LookupService.overWeb at performed
  obtain ⟨_, failed, ⟨⟩⟩ | ⟨_, _, _, performed⟩ := perform_bind_cases performed
  · unfold LookupService.namesOverWeb at failed
    obtain ⟨_, refused, ⟨⟩⟩ | ⟨answer, _, _, unreadable⟩ := perform_bind_cases failed
    · rw [perform_onFault] at refused
      split at refused
      · cases refused
      · next cause reached asked =>
        cases refused
        unfold LookupService.restate
        split
        · exact Or.inl rfl
        split
        · exact Or.inl rfl
        · exact Or.inr (ask_eq_error asked)
    · split at unreadable
      · cases unreadable
        exact Or.inl rfl
      · rw [perform_bind, perform_log] at unreadable
        cases unreadable
  · cases performed

/-- The service behind a web address answers with names. -/
theorem overWeb_eq_ok {patience : Value} {logger endpoint name label : String} {answer : Value}
    (performed : ((LookupService.overWeb patience logger).lookup endpoint name label).perform first =
      (.ok answer, last)) : ∃ names : List String, answer = .list (names.map .text) := by
  unfold LookupService.overWeb at performed
  obtain ⟨names, _, _, answered⟩ := perform_bind_eq_ok performed
  cases answered
  exact ⟨names, rfl⟩

/-! ### Faults of resolving -/

/-- What resolving may end in during a session: a fault of the query or of the lookup, or a stated
fault that the web answers with. -/
inductive ResolvingFault (session : Session) (fault : Fault) : Prop
  | query (isQuery : fault.isKind .query = true)
  | lookup (isLookup : fault.isKind .lookup = true)
  | web (isStated : fault.isStated = true) (next : session.web.head? = some (.error fault))

theorem ResolvingFault.isStated (resolving : ResolvingFault first fault) :
    fault.isStated = true := by
  cases resolving with
  | query isQuery => exact Fault.isStated_of_isKind isQuery
  | lookup isLookup => exact Fault.isStated_of_isKind isLookup
  | web isStated => exact isStated

variable {patience : Value} {logger name : String}

theorem lookUp_eq_error (named : cluster.name = .ok name)
    (performed : (Targets.lookUp cluster filter (.overWeb patience logger)).perform first =
      (.error fault, last)) : ResolvingFault first fault := by
  unfold Targets.lookUp at performed
  rw [named, perform_bind, perform_ofExcept] at performed
  dsimp only at performed
  obtain ⟨_, failed, ⟨⟩⟩ | ⟨answer, _, answered, performed⟩ := perform_bind_cases performed
  · rw [perform_onFault] at failed
    split at failed
    · cases failed
    · next cause reached looked =>
      cases failed
      by_cases stated : cause.isStated = true
      · rw [if_pos stated]
        obtain isLookup | unstated | next := overWeb_eq_error looked
        · exact .lookup isLookup
        · rw [stated] at unstated
          cases unstated
        · exact .web stated next
      · rw [if_neg stated]
        exact .lookup rfl
  · obtain ⟨names, rfl⟩ := overWeb_eq_ok (perform_onFault_eq_ok (fun _ _ => by rintro ⟨⟩) answered)
    rw [answeredNames_texts] at performed
    cases performed

theorem source_eq_error [Interpreter] {mode : FilterMode} (named : cluster.name = .ok name)
    (compiles : filter.db = "" ∨ ∃ compiled, NamePattern.compile filter.db = .ok compiled)
    (isMode : filter.mode = mode)
    (performed : (Targets.source cluster filter (.overWeb patience logger) mode).perform first =
      (.error fault, last)) : ResolvingFault first fault := by
  cases mode with
  | singleDb =>
    have compiled := compiles.resolve_left (db_of_mode isMode)
    exact .query (isKind_of_listDatabases_eq_error compiled performed)
  | explicitList => cases performed
  | webhook => exact lookUp_eq_error named performed
  | all =>
    unfold Targets.source at performed
    rw [perform_bind, perform_log] at performed
    exact .query (isKind_of_listDatabases_eq_error exists_compile_empty performed)

/-- A resolution for a filter that makes sense, on a cluster with a name and with a service behind a
web address, ends in such faults only. -/
theorem resolve_eq_error [Interpreter] (named : cluster.name = .ok name)
    (compiles : filter.db = "" ∨ ∃ compiled, NamePattern.compile filter.db = .ok compiled)
    (performed : (resolve cluster filter (some (.overWeb patience logger))).perform first =
      (.error fault, last)) : ResolvingFault first fault := by
  obtain ⟨warnings, warned⟩ := perform_warnIgnored first cluster filter
  unfold resolve at performed
  rw [perform_bind, warned] at performed
  dsimp only at performed
  obtain ⟨_, failed, ⟨⟩⟩ | ⟨names, _, _, performed⟩ := perform_bind_cases performed
  · rw [perform_onFault] at failed
    split at failed
    · cases failed
    · next cause reached ended =>
      have same : fault = cause := by
        unfold Targets.resolveFault at failed
        split at failed
        · rw [perform_bind, perform_log] at failed
          cases failed
          rfl
        · cases failed
          rfl
      rw [same]
      cases source_eq_error named compiles rfl ended with
      | query isQuery => exact .query isQuery
      | lookup isLookup => exact .lookup isLookup
      | web isStated next =>
        rw [Session.web_notingAll] at next
        exact .web isStated next
  · cases performed

end Faults

end FleetSchema
