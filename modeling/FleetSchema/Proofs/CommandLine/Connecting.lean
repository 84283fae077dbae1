/-
**Connecting to the clusters of a command.**

* `Gateway.serviceOf_client_inj`: a client of a service tells which client it is;
* `Connects`: how connecting to the cluster at an address goes;
* `Surroundings.TakesUp`: how one address of several is taken up;
* `Surroundings.connectEach_induction`: what holds after each address that is taken up;
* `Surroundings.Reached`: clusters of distinct addresses, each with a client made for it;
* `perform_connectEach`: connecting gives such clusters;
* `Surroundings.Closes`: how a command ends once its clusters are closed;
* `within_withClusters`: work on such clusters, and the closing afterwards.
-/

import FleetSchema.Proofs.CommandLine.Stages
import Mathlib.Data.List.Nodup

namespace FleetSchema

open FleetSchema.Action

variable {kinds : List EventKind} {writes : Bool}

/-! ### One cluster -/

theorem ClientScript.within_failing (fault : Option Fault) :
    (failing fault).Within kinds writes := by
  cases fault with
  | none => exact within_pure _
  | some fault => exact within_throw _

namespace Connection

theorem within_makeClient (gateway : Gateway) (named : Variables) (uri : String)
    (connects : .connection ∈ kinds) : (makeClient gateway named uri).Within kinds writes :=
  within_get.bind fun _ => (ClientScript.within_failing _).bind fun _ =>
    (within_call (Or.inr connects)).bind fun _ =>
      (ClientScript.within_failing _).bind fun _ => within_pure _

theorem within_clientFor (gateway : Gateway) (named : Variables) (uri : String)
    (connects : .connection ∈ kinds) : (clientFor gateway named uri).Within kinds writes :=
  (within_ofExcept _).bind fun _ =>
    (within_makeClient gateway named _ connects).onFault fun _ => within_throw _

/-- The call of an attempt that comes to the making of its client. -/
def makingOf (named : Variables) (client : Client) : Call :=
  .connected client (loginFor named client.uri)

/-- A session in which a client for an address was tried to be made. -/
def tried (named : Variables) (uri : String) (session : Session) : Session :=
  session.adding (.call (makingOf named (Attempt.mk uri session.events).client))

theorem since_tried (named : Variables) (uri : String) (session : Session) :
    session.since (tried named uri session) =
      [.call (makingOf named (Attempt.mk uri session.events).client)] :=
  Session.since_eq rfl

theorem perform_makeClient (gateway : Gateway) (named : Variables) (uri : String)
    (session : Session) :
    (makeClient gateway named uri).perform session =
      match gateway.loginFault ⟨uri, session.events⟩, gateway.clientFault ⟨uri, session.events⟩ with
      | some fault, _ => (.error fault, session)
      | none, some fault => (.error fault, tried named uri session)
      | none, none =>
        (.ok (gateway.serviceOf (Attempt.mk uri session.events).client).client,
          tried named uri session) := by
  unfold makeClient
  rw [perform_bind, perform_get]
  dsimp only
  cases gateway.loginFault ⟨uri, session.events⟩ with
  | some fault => rfl
  | none =>
    cases gateway.clientFault ⟨uri, session.events⟩ with
    | some fault => rfl
    | none => rfl

end Connection

theorem within_connect (gateway : Gateway) (named : Variables) (uri : String)
    (logger : Option String) (connects : .connection ∈ kinds) :
    (connect gateway named uri logger).Within kinds writes :=
  (Connection.within_clientFor gateway named uri connects).bind fun _ =>
    (within_ofExcept _).bind fun _ => within_ofExcept _

namespace Gateway

/-- A client is made when neither preparing its login nor making it fails. -/
def Makes (gateway : Gateway) (attempt : Attempt) : Prop :=
  gateway.loginFault attempt = none ∧ gateway.clientFault attempt = none

/-- **A client of a service tells which client it is**: closing it says so. -/
theorem serviceOf_client_inj (gateway : Gateway) {first second : Client} :
    (gateway.serviceOf first).client = (gateway.serviceOf second).client ↔ first = second := by
  refine ⟨fun same => ?_, fun same => same ▸ rfl⟩
  have closings := congrArg
    (fun client => callsIn (client.close.perform (.start ⟨[], []⟩)).2.events) same
  have calls (client : Client) : callsIn
      ((gateway.serviceOf client).client.close.perform (.start ⟨[], []⟩)).2.events =
        [.clientClosed (some client)] := by
    unfold ManagementService.client ManagementService.close
    simp only [perform_bind, perform_get, perform_call, perform_ofExcept]
    rfl
  rw [calls, calls] at closings
  injection closings with sameCall
  injection sameCall with sameClient
  exact Option.some.inj sameClient

end Gateway

/-- How connecting to the cluster at an address goes. -/
inductive Connects (gateway : Gateway) (named : Variables) (uri : String) (first : Session) :
    Session → Except Fault Cluster → Prop
  /-- The address names no host, or the login cannot be prepared: no client is tried to be made. -/
  | untried (fault : Fault) : Connects gateway named uri first first (.error fault)
  /-- Making the client fails. -/
  | unmade {cause : Fault} (fault : Fault)
      (fails : gateway.clientFault ⟨ClusterUri.normalize uri, first.events⟩ = some cause) :
      Connects gateway named uri first
        (Connection.tried named (ClusterUri.normalize uri) first) (.error fault)
  /-- The cluster gets the client that is made for its address. -/
  | made {cluster : Cluster} (makes : gateway.Makes ⟨ClusterUri.normalize uri, first.events⟩)
      (address : cluster.uri = ClusterUri.normalize uri)
      (client : cluster.client = (gateway.serviceOf
        (Attempt.mk (ClusterUri.normalize uri) first.events).client).client)
      (valid : ∃ name, cluster.name = .ok name) :
      Connects gateway named uri first
        (Connection.tried named (ClusterUri.normalize uri) first) (.ok cluster)

theorem connects {gateway : Gateway} {named : Variables} {uri : String} {logger : Option String}
    {first last : Session} {outcome : Except Fault Cluster}
    (performed : (connect gateway named uri logger).perform first = (outcome, last)) :
    Connects gateway named uri first last outcome := by
  unfold connect Connection.clientFor at performed
  cases valid : ClusterUri.name (ClusterUri.normalize uri) with
  | error fault =>
    simp only [valid, perform_bind, perform_ofExcept] at performed
    cases performed
    exact .untried fault
  | ok name =>
    have isMade (client : QueryClient) (text : String) : Cluster.make uri client text =
        .ok ⟨ClusterUri.normalize uri, client, text, none⟩ := by
      unfold Cluster.make
      rw [valid]
      rfl
    simp only [valid, isMade, perform_bind, perform_ofExcept, perform_onFault,
      Connection.perform_makeClient] at performed
    cases login : gateway.loginFault ⟨ClusterUri.normalize uri, first.events⟩ with
    | some fault =>
      rw [login] at performed
      cases performed
      exact .untried _
    | none =>
      cases service : gateway.clientFault ⟨ClusterUri.normalize uri, first.events⟩ with
      | some fault =>
        rw [login, service] at performed
        cases performed
        exact .unmade _ service
      | none =>
        rw [login, service] at performed
        cases performed
        exact .made ⟨login, service⟩ rfl rfl ⟨name, valid⟩

theorem Cluster.within_close {cluster : Cluster} (served : cluster.IsServed) :
    cluster.close.Within kinds writes := by
  obtain ⟨service, isClient⟩ := served
  unfold close
  rw [isClient]
  exact service.within_close

/-- Closing the client of a service is one call, which ends as closing the service does. -/
theorem Cluster.perform_close_served {cluster : Cluster} {service : ManagementService}
    (client : cluster.client = service.client) (session : Session) :
    cluster.close.perform session =
      (service.ending session.events, session.calling [.clientClosed service.identity]) := by
  unfold close
  rw [client]
  unfold ManagementService.client ManagementService.close
  simp only [perform_bind, perform_get, perform_call, perform_ofExcept]
  rfl

namespace Surroundings

theorem within_closeEach {clusters : List Cluster}
    (served : ∀ cluster ∈ clusters, cluster.IsServed) :
    (closeEach clusters).Within kinds writes := by
  induction clusters with
  | nil => exact within_pure _
  | cons cluster rest ih =>
    exact (Cluster.within_close (served _ List.mem_cons_self)).bind fun _ =>
      ih fun other member => served other (List.mem_cons_of_mem _ member)

theorem quiet_connectStop (fault : Fault) : (connectStop fault : Action Stop Unit).Quiet :=
  Within.ite (Stop.within_exitFrom _ _) (Within.ite (Stop.within_die _ _) (within_throw _))

variable {surroundings : Surroundings} {events : List Event} {clusters : List Cluster}

/-! ### Address by address -/

/-- How one address of several is taken up: it is the end of the command, or it leads from the
clusters that are connected to so far to others. -/
inductive TakesUp (surroundings : Surroundings) (connected : List Cluster) (uri : String)
    (first : Session) : Session → Except (Action Stop Unit) (List Cluster) → Prop
  /-- The cluster cannot be connected to. -/
  | refused {last : Session} {fault : Fault}
      (refuses : (connect surroundings.gateway surroundings.named uri none).perform first =
        (.error fault, last)) :
      TakesUp surroundings connected uri first last (.error (connectStop fault))
  /-- The cluster is connected to already, and its second client cannot be closed. -/
  | unclosed {cluster : Cluster} {middle last : Session} {fault : Fault}
      (connects : (connect surroundings.gateway surroundings.named uri none).perform first =
        (.ok cluster, middle))
      (known : cluster.uri ∈ connected.map Cluster.uri)
      (fails : cluster.close.perform middle = (.error fault, last)) :
      TakesUp surroundings connected uri first last (.error (Stop.unexpected fault))
  /-- The cluster is connected to already, and its second client is closed. -/
  | again {cluster : Cluster} {middle last : Session}
      (connects : (connect surroundings.gateway surroundings.named uri none).perform first =
        (.ok cluster, middle))
      (known : cluster.uri ∈ connected.map Cluster.uri)
      (closes : cluster.close.perform middle = (.ok (), last)) :
      TakesUp surroundings connected uri first last (.ok connected)
  /-- The cluster is connected to for the first time. -/
  | anew {cluster : Cluster} {last : Session}
      (connects : (connect surroundings.gateway surroundings.named uri none).perform first =
        (.ok cluster, last))
      (unknown : cluster.uri ∉ connected.map Cluster.uri) :
      TakesUp surroundings connected uri first last (.ok (connected ++ [cluster]))

theorem any_uri_iff (connected : List Cluster) (cluster : Cluster) :
    connected.any (·.uri == cluster.uri) = true ↔ cluster.uri ∈ connected.map Cluster.uri := by
  rw [List.any_eq_true, List.mem_map]
  exact exists_congr fun other => and_congr_right fun _ => beq_iff_eq

/-- The first of several addresses is taken up, and connecting ends there or goes on behind it. -/
theorem perform_connectEach_cons (surroundings : Surroundings) (connected : List Cluster)
    (uri : String) (rest : List String) (session : Session) :
    ∃ taken last, surroundings.TakesUp connected uri session last taken ∧
      (surroundings.connectEach connected (uri :: rest)).perform session =
        match taken with
        | .error stop => (.ok (connected, some stop), last)
        | .ok next => (surroundings.connectEach next rest).perform last := by
  rw [connectEach, perform_bind, perform_attempt]
  dsimp only
  cases ended : (connect surroundings.gateway surroundings.named uri none).perform session with
  | mk outcome reached =>
    cases outcome with
    | error fault => exact ⟨_, reached, .refused ended, rfl⟩
    | ok cluster =>
      dsimp only
      by_cases known : connected.any (·.uri == cluster.uri) = true
      · have isKnown := (any_uri_iff connected cluster).mp known
        rw [if_pos known, perform_bind, perform_attempt]
        dsimp only
        cases closed : cluster.close.perform reached with
        | mk outcome last =>
          cases outcome with
          | error fault => exact ⟨_, last, .unclosed ended isKnown closed, rfl⟩
          | ok value => exact ⟨_, last, .again ended isKnown closed, rfl⟩
      · rw [if_neg known]
        exact ⟨_, reached, .anew ended fun isKnown =>
          known ((any_uri_iff connected cluster).mpr isKnown), rfl⟩

/-- What connecting to addresses comes to when something holds after each address that is taken up:
it holds of all clusters in the end, or it held when the command came to its end at an address. -/
inductive ConnectsEach (surroundings : Surroundings)
    (invariant : List String → List Cluster → Session → Prop) (uris : List String)
    (clusters : List Cluster) (last : Session) : Option (Action Stop Unit) → Prop
  | all (holds : invariant uris clusters last) :
      ConnectsEach surroundings invariant uris clusters last none
  | upTo {earlier later : List String} {uri : String} {reached : Session}
      {stop : Action Stop Unit} (split : uris = earlier ++ uri :: later)
      (held : invariant earlier clusters reached)
      (ends : surroundings.TakesUp clusters uri reached last (.error stop)) :
      ConnectsEach surroundings invariant uris clusters last (some stop)

/-- **What holds after each address that is taken up.** -/
theorem connectEach_induction (invariant : List String → List Cluster → Session → Prop)
    (steps : ∀ {earlier connected uri first last next}, invariant earlier connected first →
      surroundings.TakesUp connected uri first last (.ok next) →
        invariant (earlier ++ [uri]) next last)
    (earlier uris : List String) {connected : List Cluster} {first : Session}
    (start : invariant earlier connected first) :
    ∃ clusters ending last,
      (surroundings.connectEach connected uris).perform first = (.ok (clusters, ending), last) ∧
      surroundings.ConnectsEach invariant (earlier ++ uris) clusters last ending := by
  -- the addresses before the ones that are left have been taken up
  induction uris generalizing earlier connected first with
  | nil =>
    refine ⟨connected, none, first, rfl, .all ?_⟩
    rw [List.append_nil]
    exact start
  | cons uri rest ih =>
    obtain ⟨taken, middle, takes, performed⟩ :=
      surroundings.perform_connectEach_cons connected uri rest first
    cases taken with
    | error stop => exact ⟨connected, some stop, middle, performed, .upTo rfl start takes⟩
    | ok next =>
      obtain ⟨clusters, ending, last, ended, comes⟩ := ih (earlier ++ [uri]) (steps start takes)
      rw [List.append_assoc, List.singleton_append] at comes
      exact ⟨clusters, ending, last, performed.trans ended, comes⟩

/-! ### All clusters -/

/-- Clusters of distinct addresses, each with a client that was made for its address during some
events. -/
structure Reached (surroundings : Surroundings) (events : List Event) (clusters : List Cluster) :
    Prop where
  client : ∀ cluster ∈ clusters, ∃ client : Client, client.uri = cluster.uri ∧
    cluster.client = (surroundings.gateway.serviceOf client).client ∧
    .call (Connection.makingOf surroundings.named client) ∈ events
  distinct : (clusters.map Cluster.uri).Nodup

theorem reached_nil (surroundings : Surroundings) (events : List Event) :
    surroundings.Reached events [] where
  client _ member := absurd member List.not_mem_nil
  distinct := List.nodup_nil

theorem Reached.isServed (reached : surroundings.Reached events clusters) :
    ∀ cluster ∈ clusters, cluster.IsServed :=
  fun cluster member => (reached.client cluster member).elim fun _ made => ⟨_, made.2.1⟩

theorem Reached.mono {more : List Event} (reached : surroundings.Reached events clusters)
    (sub : events ⊆ more) : surroundings.Reached more clusters where
  client cluster member := (reached.client cluster member).imp fun _ made =>
    ⟨made.1, made.2.1, sub made.2.2⟩
  distinct := reached.distinct

theorem Reached.later (reached : surroundings.Reached events clusters) (more : List Event) :
    surroundings.Reached (events ++ more) clusters :=
  reached.mono (List.subset_append_left _ _)

/-- One more cluster at an address of its own. -/
theorem Reached.snoc {cluster : Cluster} {client : Client}
    (reached : surroundings.Reached events clusters) (address : client.uri = cluster.uri)
    (isClient : cluster.client = (surroundings.gateway.serviceOf client).client)
    (fresh : cluster.uri ∉ clusters.map Cluster.uri) :
    surroundings.Reached (events ++ [.call (Connection.makingOf surroundings.named client)])
      (clusters ++ [cluster]) where
  client := by
    rw [List.forall_mem_append, List.forall_mem_singleton]
    exact ⟨(reached.later _).client,
      client, address, isClient, List.mem_append_right _ List.mem_cons_self⟩
  distinct := by
    rw [List.map_append, List.map_singleton, List.nodup_append]
    refine ⟨reached.distinct, List.nodup_singleton _, ?_⟩
    intro uri member other isOther same
    rw [← List.mem_singleton.mp isOther, ← same] at fresh
    exact fresh member

section Run

variable {connected next : List Cluster} {uri : String} {first middle last : Session}
  {taken : Except (Action Stop Unit) (List Cluster)} {stop : Action Stop Unit}

/-- A cluster that is connected to is one that can be closed. -/
theorem isServed_of_connect {cluster : Cluster} {logger : Option String}
    (performed : (connect surroundings.gateway surroundings.named uri logger).perform first =
      (.ok cluster, last)) : cluster.IsServed := by
  cases connects performed with
  | made _ _ client => exact ⟨_, client⟩

/-- Taking up an address only connects. -/
theorem TakesUp.extends (takes : surroundings.TakesUp connected uri first last taken) :
    first.Extends [.connection] false last := by
  have within : (connect surroundings.gateway surroundings.named uri none).Within [.connection]
      false := within_connect _ _ _ _ List.mem_cons_self
  cases takes with
  | refused refuses => exact within.of_perform refuses
  | unclosed connects _ fails =>
    exact (within.of_perform connects).trans
      ((Cluster.within_close (isServed_of_connect connects)).of_perform fails)
  | again connects _ closes =>
    exact (within.of_perform connects).trans
      ((Cluster.within_close (isServed_of_connect connects)).of_perform closes)
  | anew connects => exact within.of_perform connects

theorem TakesUp.quiet (takes : surroundings.TakesUp connected uri first last (.error stop)) :
    stop.Quiet := by
  cases takes with
  | refused => exact quiet_connectStop _
  | unclosed => exact within_throw _

/-- Taking up an address leaves clusters of distinct addresses. -/
theorem TakesUp.reached (takes : surroundings.TakesUp connected uri middle last (.ok next))
    (before : surroundings.Reached (first.since middle) connected)
    (grown : first.Extends [.connection] false middle) :
    surroundings.Reached (first.since last) next := by
  rw [grown.since_append takes.extends]
  cases takes with
  | again => exact before.later _
  | anew performed unknown =>
    cases connects performed with
    | made _ address client =>
      rw [Connection.since_tried]
      exact before.snoc address.symm client unknown

/-- Taking up an address leaves clusters with names. -/
theorem TakesUp.valid (takes : surroundings.TakesUp connected uri first last (.ok next))
    (before : ∀ cluster ∈ connected, ∃ name, cluster.name = .ok name) :
    ∀ cluster ∈ next, ∃ name, cluster.name = .ok name := by
  cases takes with
  | again => exact before
  | anew performed =>
    rw [List.forall_mem_append, List.forall_mem_singleton]
    cases connects performed with
    | made _ _ _ valid => exact ⟨before, valid⟩

/-- **Connecting comes to clusters of distinct addresses** with names and with clients made for
them, and perhaps to a quiet end of the command. -/
theorem perform_connectEach (surroundings : Surroundings) (uris : List String)
    (session : Session) :
    ∃ clusters ending last,
      (surroundings.connectEach [] uris).perform session = (.ok (clusters, ending), last) ∧
      session.Extends [.connection] false last ∧
      surroundings.Reached (session.since last) clusters ∧
      (∀ cluster ∈ clusters, ∃ name, cluster.name = .ok name) ∧
      ∀ stop, ending = some stop → stop.Quiet := by
  obtain ⟨clusters, ending, last, performed, comes⟩ := connectEach_induction
    (fun _ connected later => session.Extends [.connection] false later ∧
      surroundings.Reached (session.since later) connected ∧
      ∀ cluster ∈ connected, ∃ name, cluster.name = .ok name)
    (fun ⟨grown, reached, valid⟩ takes =>
      ⟨grown.trans takes.extends, takes.reached reached grown, takes.valid valid⟩)
    [] uris ⟨.refl session, surroundings.reached_nil _, by rintro _ ⟨⟩⟩
  refine ⟨clusters, ending, last, performed, ?_⟩
  cases comes with
  | all holds =>
    obtain ⟨grown, reached, valid⟩ := holds
    refine ⟨grown, reached, valid, ?_⟩
    rintro stop ⟨⟩
  | upTo _ held ends =>
    obtain ⟨grown, reached, valid⟩ := held
    refine ⟨grown.trans ends.extends, ?_, valid, ?_⟩
    · rw [grown.since_append ends.extends]
      exact reached.later _
    · rintro _ ⟨⟩
      exact ends.quiet

end Run

/-! ### Closing -/

/-- A command ends as its work on clusters has ended once they are closed, or with the fault of
closing them. -/
inductive Closes (clusters : List Cluster) (worked : Session) (ended : Except Stop Unit)
    (last : Session) : Except Stop Unit → Prop
  | closed (closes : (closeEach clusters).perform worked = (.ok (), last)) :
      Closes clusters worked ended last ended
  | failed {other : Fault} (fails : (closeEach clusters).perform worked = (.error other, last)) :
      Closes clusters worked ended last (.error (.fault other))

/-- Work that is followed by closing clusters, which are quiet to close. -/
theorem perform_closing_closeEach {work : Action Stop Unit} {first worked last : Session}
    {ended outcome : Except Stop Unit} (served : ∀ cluster ∈ clusters, cluster.IsServed)
    (working : work.perform first = (ended, worked))
    (performed : (work.closing (Stop.plainly (closeEach clusters))).perform first =
      (outcome, last)) :
    Closes clusters worked ended last outcome ∧ worked.Extends [] false last := by
  have quiet : worked.Extends [] false ((closeEach clusters).perform worked).2 :=
    within_closeEach served worked
  unfold Stop.plainly at performed
  rw [perform_closing, working, perform_onFault] at performed
  cases closing : (closeEach clusters).perform worked with
  | mk closed reached =>
    rw [closing] at performed quiet
    cases closed with
    | ok value =>
      cases performed
      exact ⟨.closed closing, quiet⟩
    | error other =>
      cases performed
      exact ⟨.failed closing, quiet⟩

/-- Work on clusters within bounds, with the connecting before it and the closing afterwards. -/
theorem within_withClusters (surroundings : Surroundings) (uris : List String)
    {work : List Cluster → Action Stop Unit} (connects : .connection ∈ kinds)
    (within : ∀ clusters, (∀ cluster ∈ clusters, cluster.IsServed) →
      (work clusters).Within kinds writes) :
    (surroundings.withClusters uris work).Within kinds writes := by
  intro session
  obtain ⟨clusters, ending, last, performed, extended, reached, _, quiet⟩ :=
    surroundings.perform_connectEach uris session
  have connecting : session.Extends kinds writes last :=
    extended.mono (List.cons_subset.mpr ⟨connects, List.nil_subset _⟩) fun _ => rfl
  have inner : (ending.getD (work clusters)).Within kinds writes := by
    cases ending with
    | none => exact within clusters reached.isServed
    | some stop => exact (quiet stop rfl).within
  rw [withClusters_eq]
  rw [perform_bind, performed]
  exact connecting.trans
    (inner.closing (Stop.within_plainly (within_closeEach reached.isServed)) last)

end Surroundings

end FleetSchema
