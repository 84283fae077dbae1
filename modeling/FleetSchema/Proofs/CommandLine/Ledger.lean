/-
**Every client is owned or closed.**

Connecting to several addresses makes a client for each of them. A client is kept by the cluster
that it was made for, or it is closed at once, when its cluster is connected to already. The clients
are entered in a ledger in the order in which they are made, each with the number that tells it
apart; the calls of connecting are those of its entries, and the entries that are kept are the
clusters.

* `ClientEntry`, `callsOf`: a client that was made, and the calls that it took;
* `Surroundings.Ledger`: clusters and calls agree with a ledger;
* `Surroundings.OwnedOrClosed`: each client is owned by one cluster, or it was closed once;
* `TakesUp.covers`: taking up an address enters its client;
* `connects_each_once`: connecting keeps a ledger, and each address is connected to once.
-/

import FleetSchema.Proofs.CommandLine.Connecting
import FleetSchema.Unique
import Mathlib.Data.List.Forall2

namespace FleetSchema

open FleetSchema.Action

/-- A client that was made, and whether a cluster has kept it. -/
structure ClientEntry where
  client : Client
  kept : Bool
  deriving DecidableEq, Repr

/-- The client that a call closes. -/
def Call.closed? : Call → Option Client
  | .clientClosed client => client
  | _ => none

/-- The clients that calls close, each as often as it is closed. -/
def closedIn (calls : List Call) : List Client := calls.filterMap Call.closed?

theorem closedIn_append (first second : List Call) :
    closedIn (first ++ second) = closedIn first ++ closedIn second :=
  List.filterMap_append

namespace Surroundings

variable {surroundings : Surroundings}

/-- The calls that a client took: it was made, and it was closed again unless it was kept. -/
def callsFor (surroundings : Surroundings) (entry : ClientEntry) : List Call :=
  Connection.makingOf surroundings.named entry.client ::
    if entry.kept then [] else [.clientClosed (some entry.client)]

/-- The calls that several clients took, one after the other. -/
def callsOf (surroundings : Surroundings) (entries : List ClientEntry) : List Call :=
  entries.flatMap surroundings.callsFor

theorem callsOf_snoc (entries : List ClientEntry) (entry : ClientEntry) :
    surroundings.callsOf (entries ++ [entry]) =
      surroundings.callsOf entries ++ surroundings.callsFor entry := by
  unfold callsOf
  rw [List.flatMap_append, List.flatMap_singleton]

/-- The clients that are closed are those that are not kept. -/
theorem closedIn_callsOf (entries : List ClientEntry) :
    closedIn (surroundings.callsOf entries) =
      (entries.filter fun entry => !entry.kept).map ClientEntry.client := by
  induction entries with
  | nil => rfl
  | cons entry rest ih =>
    change closedIn (surroundings.callsFor entry ++ surroundings.callsOf rest) = _
    rw [closedIn_append, ih]
    obtain ⟨client, kept⟩ := entry
    cases kept with
    | true => rfl
    | false => rfl

/-! ### Clients that could be made -/

/-- A client is the one that is made next behind some events, and it could be made then. -/
def MakesNext (surroundings : Surroundings) (past : List Event) (client : Client) : Prop :=
  surroundings.gateway.Makes ⟨client.uri, past⟩ ∧ client = (Attempt.mk client.uri past).client

/-- Each client could be made when the ones before it had been. -/
def AllMade (surroundings : Surroundings) : Session → List ClientEntry → Prop
  | _, [] => True
  | session, entry :: rest =>
    surroundings.MakesNext session.events entry.client ∧
      surroundings.AllMade (session.calling (surroundings.callsFor entry)) rest

theorem AllMade.snoc {session : Session} {entries : List ClientEntry} {entry : ClientEntry}
    (before : surroundings.AllMade session entries)
    (makes : surroundings.MakesNext (session.calling (surroundings.callsOf entries)).events
      entry.client) :
    surroundings.AllMade session (entries ++ [entry]) := by
  induction entries generalizing session with
  | nil =>
    refine ⟨?_, trivial⟩
    rw [← session.calling_nil]
    exact makes
  | cons first rest ih =>
    refine ⟨before.1, ih before.2 ?_⟩
    rw [Session.calling_calling]
    exact makes

/-- The calls that a client took hold one making of a client. -/
theorem countP_callsFor (session : Session) (entry : ClientEntry) :
    (session.calling (surroundings.callsFor entry)).events.countP Attempt.isMaking =
      session.events.countP Attempt.isMaking + 1 := by
  unfold Session.calling
  rw [List.countP_append]
  obtain ⟨client, kept⟩ := entry
  cases kept with
  | true => rfl
  | false => rfl

/-- Clients that are made one after the other have numbers of their own, from the next one on. -/
theorem AllMade.numbers {session : Session} {entries : List ClientEntry}
    (made : surroundings.AllMade session entries) :
    (∀ entry ∈ entries, session.events.countP Attempt.isMaking ≤ entry.client.number) ∧
      (entries.map fun entry => entry.client.number).Nodup := by
  induction entries generalizing session with
  | nil => exact ⟨by rintro _ ⟨⟩, List.nodup_nil⟩
  | cons first rest ih =>
    obtain ⟨later, apart⟩ := ih made.2
    have number : first.client.number = session.events.countP Attempt.isMaking :=
      congrArg Client.number made.1.2
    have greater (entry : ClientEntry) (member : entry ∈ rest) :
        first.client.number < entry.client.number := by
      have least := later entry member
      rw [countP_callsFor] at least
      omega
    refine ⟨?_, List.nodup_cons.mpr ⟨fun same => ?_, apart⟩⟩
    · rw [List.forall_mem_cons]
      exact ⟨Nat.le_of_eq number.symm, fun entry member =>
        number ▸ Nat.le_of_lt (greater entry member)⟩
    · obtain ⟨entry, member, isNumber⟩ := List.mem_map.mp same
      exact absurd isNumber (Nat.ne_of_gt (greater entry member))

/-! ### Ledgers -/

/-- A cluster owns a client when that is the one it works with. -/
def Owns (surroundings : Surroundings) (cluster : Cluster) (client : Client) : Prop :=
  cluster.client = (surroundings.gateway.serviceOf client).client

theorem Owns.unique {cluster : Cluster} {first second : Client}
    (owns : surroundings.Owns cluster first) (alsoOwns : surroundings.Owns cluster second) :
    first = second :=
  (surroundings.gateway.serviceOf_client_inj).mp (owns.symm.trans alsoOwns)

/-- Clusters agree with a ledger of the clients that were made: the clients that were kept and the
clusters go together one by one, a cluster owning the client that was made for its address. -/
structure Ledger (surroundings : Surroundings) (first : Session) (entries : List ClientEntry)
    (clusters : List Cluster) : Prop where
  made : surroundings.AllMade first entries
  kept : List.Forall₂
    (fun entry cluster => surroundings.Owns cluster entry.client ∧ entry.client.uri = cluster.uri)
    (entries.filter ClientEntry.kept) clusters

/-- Each client of a ledger is owned by exactly one of the clusters and not closed, or owned by none
of them and closed exactly once, and each cluster owns a client that was made for its address.
Numbers tell the clients apart. -/
structure OwnedOrClosed (surroundings : Surroundings) (entries : List ClientEntry)
    (clusters : List Cluster) (calls : List Call) : Prop where
  apart : (entries.map fun entry => entry.client.number).Nodup
  owned : ∀ entry ∈ entries, entry.kept = true →
    (∃ cluster ∈ clusters, surroundings.Owns cluster entry.client ∧
      ∀ other ∈ clusters, surroundings.Owns other entry.client → other = cluster) ∧
    (closedIn calls).count entry.client = 0
  closed : ∀ entry ∈ entries, entry.kept = false →
    (∀ cluster ∈ clusters, ¬ surroundings.Owns cluster entry.client) ∧
    (closedIn calls).count entry.client = 1
  clusters : ∀ cluster ∈ clusters, ∃ entry ∈ entries, entry.kept = true ∧
    surroundings.Owns cluster entry.client ∧ entry.client.uri = cluster.uri

section OneByOne

variable {α β : Type} {related : α → β → Prop} {firsts : List α} {seconds : List β}

/-- Each item of one list has a partner in the other one. -/
theorem exists_mem_of_forall₂ (pairs : List.Forall₂ related firsts seconds) {first : α}
    (member : first ∈ firsts) : ∃ second ∈ seconds, related first second := by
  obtain ⟨index, inside, rfl⟩ := List.getElem_of_mem member
  have insideToo : index < seconds.length := pairs.length_eq ▸ inside
  exact ⟨seconds[index], List.getElem_mem insideToo, pairs.get inside insideToo⟩

end OneByOne

variable {first middle last : Session} {entries : List ClientEntry} {uris : List String}
  {uri : String} {connected clusters next : List Cluster} {stop : Action Stop Unit}

/-- **What a ledger says of each client**, when its clusters have addresses of their own and no call
beside those of its entries closes a client. -/
theorem Ledger.ownedOrClosed {tried : List Call}
    (ledger : surroundings.Ledger first entries clusters)
    (distinct : (clusters.map Cluster.uri).Nodup) (unclosing : closedIn tried = []) :
    surroundings.OwnedOrClosed entries clusters (surroundings.callsOf entries ++ tried) := by
  obtain ⟨_, apart⟩ := ledger.made.numbers
  have numbered {entry other : ClientEntry} (isEntry : entry ∈ entries) (isOther : other ∈ entries)
      (same : entry.client = other.client) : entry = other :=
    List.inj_on_of_nodup_map apart isEntry isOther (congrArg Client.number same)
  have owners (cluster : Cluster) (member : cluster ∈ clusters) : ∃ entry ∈ entries,
      entry.kept = true ∧ surroundings.Owns cluster entry.client ∧
        entry.client.uri = cluster.uri := by
    obtain ⟨entry, isEntry, owns, address⟩ := exists_mem_of_forall₂ ledger.kept.flip member
    obtain ⟨isEntry, kept⟩ := List.mem_filter.mp isEntry
    exact ⟨entry, isEntry, kept, owns, address⟩
  have closings : closedIn (surroundings.callsOf entries ++ tried) =
      (entries.filter fun entry => !entry.kept).map ClientEntry.client := by
    rw [closedIn_append, unclosing, List.append_nil, closedIn_callsOf]
  refine ⟨apart, fun entry isEntry kept => ⟨?_, ?_⟩, fun entry isEntry open' => ⟨?_, ?_⟩, owners⟩
  · obtain ⟨cluster, member, owns, address⟩ :=
      exists_mem_of_forall₂ ledger.kept (List.mem_filter.mpr ⟨isEntry, kept⟩)
    refine ⟨cluster, member, owns, fun other isOther alsoOwns => ?_⟩
    obtain ⟨_, _, _, otherOwns, otherAddress⟩ := owners other isOther
    refine List.inj_on_of_nodup_map distinct isOther member ?_
    rw [← otherAddress, ← address, otherOwns.unique alsoOwns]
  · rw [closings]
    refine List.count_eq_zero_of_not_mem fun closed => ?_
    obtain ⟨other, isOther, same⟩ := List.mem_map.mp closed
    obtain ⟨isOther, unkept⟩ := List.mem_filter.mp isOther
    rw [numbered isOther isEntry same, kept] at unkept
    cases unkept
  · intro cluster member owns
    obtain ⟨other, isOther, kept, otherOwns, _⟩ := owners cluster member
    rw [numbered isOther isEntry (otherOwns.unique owns), open'] at kept
    cases kept
  · rw [closings]
    refine List.count_eq_one_of_mem ?_ (List.mem_map_of_mem (List.mem_filter.mpr ⟨isEntry, ?_⟩))
    · refine List.Nodup.of_map Client.number ?_
      rw [List.map_map]
      exact apart.sublist (List.filter_sublist.map _)
    · rw [open']
      rfl

/-- A ledger that covers addresses: there is a client for each of them, and there are the clusters
of the distinct ones among them. -/
structure Covers (surroundings : Surroundings) (first : Session) (entries : List ClientEntry)
    (uris : List String) (clusters : List Cluster) (last : Session) : Prop where
  ledger : surroundings.Ledger first entries clusters
  calls : last = first.calling (surroundings.callsOf entries)
  entered : (entries.map fun entry => entry.client.uri) = uris.map ClusterUri.normalize
  distinct : clusters.map Cluster.uri = unique (uris.map ClusterUri.normalize)

theorem covers_nil (surroundings : Surroundings) (session : Session) :
    surroundings.Covers session [] [] [] session :=
  ⟨⟨trivial, .nil⟩, session.calling_nil.symm, rfl, rfl⟩

/-- The clusters of covered addresses have addresses of their own. -/
theorem Covers.nodup (covers : surroundings.Covers first entries uris clusters last) :
    (clusters.map Cluster.uri).Nodup := by
  rw [covers.distinct]
  exact nodup_unique _

section OneClient

variable {client : Client}

/-- A client that is closed again leaves the clusters as they are. -/
theorem Ledger.close (ledger : surroundings.Ledger first entries clusters)
    (makes : surroundings.MakesNext (first.calling (surroundings.callsOf entries)).events client) :
    surroundings.Ledger first (entries ++ [⟨client, false⟩]) clusters where
  made := ledger.made.snoc makes
  kept := by
    rw [List.filter_append]
    exact (List.append_nil _).symm ▸ ledger.kept

/-- A client that is kept comes with a cluster. -/
theorem Ledger.keep {cluster : Cluster} (ledger : surroundings.Ledger first entries clusters)
    (makes : surroundings.MakesNext (first.calling (surroundings.callsOf entries)).events client)
    (owns : surroundings.Owns cluster client) (address : client.uri = cluster.uri) :
    surroundings.Ledger first (entries ++ [⟨client, true⟩]) (clusters ++ [cluster]) where
  made := ledger.made.snoc makes
  kept := by
    rw [List.filter_append]
    exact List.rel_append ledger.kept (.cons ⟨owns, address⟩ .nil)

/-- Closing an owned client is one call, which says which client it is. -/
theorem perform_close {cluster : Cluster} {outcome : Except Fault Unit}
    (owns : surroundings.Owns cluster client)
    (performed : cluster.close.perform middle = (outcome, last)) :
    last = middle.calling [.clientClosed (some client)] := by
  rw [Cluster.perform_close_served owns] at performed
  exact (Prod.mk.inj performed).2.symm

end OneClient

/-! ### One address -/

section OneAddress

variable {cluster : Cluster} {reached : Session}

/-- The client of the next attempt at an address. -/
def nextClient (uri : String) (reached : Session) : Client :=
  (Attempt.mk (ClusterUri.normalize uri) reached.events).client

/-- A client that is made and closed again, whether or not closing it succeeds. -/
theorem Covers.close {outcome : Except Fault Unit}
    (covers : surroundings.Covers first entries uris connected reached)
    (performed : (connect surroundings.gateway surroundings.named uri none).perform reached =
      (.ok cluster, middle))
    (closing : cluster.close.perform middle = (outcome, last)) :
    surroundings.Ledger first (entries ++ [⟨nextClient uri reached, false⟩]) connected ∧
      last = first.calling
        (surroundings.callsOf (entries ++ [⟨nextClient uri reached, false⟩])) := by
  cases connects performed with
  | made makes address owns =>
    refine ⟨covers.ledger.close ?_, ?_⟩
    · rw [← covers.calls]
      exact ⟨makes, rfl⟩
    · rw [perform_close owns closing, callsOf_snoc, ← Session.calling_calling, ← covers.calls]
      exact Session.calling_calling reached [_] [_]

/-- A client that is made and kept. -/
theorem Covers.keep
    (covers : surroundings.Covers first entries uris connected reached)
    (performed : (connect surroundings.gateway surroundings.named uri none).perform reached =
      (.ok cluster, last)) :
    surroundings.Ledger first (entries ++ [⟨nextClient uri reached, true⟩])
        (connected ++ [cluster]) ∧
      last = first.calling
        (surroundings.callsOf (entries ++ [⟨nextClient uri reached, true⟩])) := by
  cases connects performed with
  | made makes address owns =>
    refine ⟨covers.ledger.keep ?_ owns address.symm, ?_⟩
    · rw [← covers.calls]
      exact ⟨makes, rfl⟩
    · rw [callsOf_snoc, ← Session.calling_calling, ← covers.calls]
      rfl

/-- The cluster that is connected to is the one at the address. -/
theorem uri_of_connect
    (performed : (connect surroundings.gateway surroundings.named uri none).perform reached =
      (.ok cluster, last)) : cluster.uri = ClusterUri.normalize uri := by
  cases connects performed with
  | made _ address => exact address

/-- Whether a cluster is connected to already is told by the addresses before. -/
theorem Covers.contains_iff (covers : surroundings.Covers first entries uris connected last)
    (address : cluster.uri = ClusterUri.normalize uri) :
    (uris.map ClusterUri.normalize).contains (ClusterUri.normalize uri) = true ↔
      cluster.uri ∈ connected.map Cluster.uri := by
  rw [List.contains_iff_mem, ← address, covers.distinct, mem_unique]

/-- **Taking up an address enters its client**, and its cluster when it is the first one there. -/
theorem TakesUp.covers (takes : surroundings.TakesUp connected uri reached last (.ok next))
    (covers : surroundings.Covers first entries uris connected reached) :
    ∃ more, surroundings.Covers first more (uris ++ [uri]) next last := by
  have entered (kept : Bool) :
      (entries ++ [ClientEntry.mk (nextClient uri reached) kept]).map
          (fun entry => entry.client.uri) =
        (uris ++ [uri]).map ClusterUri.normalize := by
    rw [List.map_append, covers.entered, List.map_append]
    rfl
  cases takes with
  | again performed known closes =>
    have address := uri_of_connect performed
    obtain ⟨ledger, calls⟩ := covers.close performed closes
    refine ⟨_, ledger, calls, entered false, ?_⟩
    rw [List.map_append, List.map_singleton, unique_snoc,
      if_pos ((covers.contains_iff address).mpr known)]
    exact covers.distinct
  | anew performed unknown =>
    have address := uri_of_connect performed
    obtain ⟨ledger, calls⟩ := covers.keep performed
    refine ⟨_, ledger, calls, entered true, ?_⟩
    rw [List.map_append, List.map_singleton, List.map_append, List.map_singleton, unique_snoc,
      if_neg fun known => unknown ((covers.contains_iff address).mp known), covers.distinct,
      address]

/-- The calls of an attempt that made no client: there is none, or there is the one on making the
client, which failed. -/
def Unmade (surroundings : Surroundings) (attempt : Attempt) (calls : List Call) : Prop :=
  calls = [] ∨
    calls = [Connection.makingOf surroundings.named attempt.client] ∧
      surroundings.gateway.clientFault attempt ≠ none

theorem Unmade.closedIn_eq {attempt : Attempt} {calls : List Call}
    (unmade : surroundings.Unmade attempt calls) : closedIn calls = [] := by
  obtain rfl | ⟨rfl, _⟩ := unmade
  · rfl
  · rfl

/-- An address at which connecting ends leaves no client that is not entered. -/
theorem TakesUp.ends (takes : surroundings.TakesUp connected uri reached last (.error stop))
    (covers : surroundings.Covers first entries uris connected reached) :
    ∃ more tried, surroundings.Ledger first more connected ∧
      last = first.calling (surroundings.callsOf more ++ tried) ∧
      surroundings.Unmade ⟨ClusterUri.normalize uri, reached.events⟩ tried := by
  cases takes with
  | refused refuses =>
    cases connects refuses with
    | untried =>
      refine ⟨entries, [], covers.ledger, ?_, Or.inl rfl⟩
      rw [List.append_nil]
      exact covers.calls
    | unmade _ fails =>
      refine ⟨entries, _, covers.ledger, ?_, Or.inr ⟨rfl, ?_⟩⟩
      · rw [← Session.calling_calling, ← covers.calls]
        rfl
      · rw [fails]
        exact Option.some_ne_none _
  | unclosed performed _ fails =>
    obtain ⟨ledger, calls⟩ := covers.close performed fails
    refine ⟨_, [], ledger, ?_, Or.inl rfl⟩
    rw [List.append_nil]
    exact calls

end OneAddress

/-! ### All addresses -/

/-- **Connecting neither duplicates nor leaks.** Whatever becomes of each attempt, the clients that
are made are entered in a ledger, and the calls are those of its entries, behind which there may be
the one on making a client that failed. Each client that was made is owned by exactly one of the
clusters and was not closed, or it is owned by none of them and was closed exactly once, and each
cluster owns a client that was made for its own address. When all addresses are connected to, the
clusters are those of the distinct ones, and otherwise those of the distinct ones before the address
at which connecting ends. -/
theorem connects_each_once (surroundings : Surroundings) (uris : List String)
    (session : Session) :
    ∃ clusters ending last entries tried,
      (surroundings.connectEach [] uris).perform session = (.ok (clusters, ending), last) ∧
      surroundings.Ledger session entries clusters ∧
      last = session.calling (surroundings.callsOf entries ++ tried) ∧
      surroundings.OwnedOrClosed entries clusters (callsIn (session.since last)) ∧
      (ending = none → tried = [] ∧
        FirstAppearances (uris.map ClusterUri.normalize) (clusters.map Cluster.uri)) ∧
      ∀ stop, ending = some stop → ∃ earlier uri later reached,
        uris = earlier ++ uri :: later ∧
        FirstAppearances (earlier.map ClusterUri.normalize) (clusters.map Cluster.uri) ∧
        surroundings.TakesUp clusters uri reached last (.error stop) ∧
        surroundings.Unmade ⟨ClusterUri.normalize uri, reached.events⟩ tried := by
  obtain ⟨clusters, ending, last, performed, comes⟩ := connectEach_induction
    (fun earlier connected later =>
      ∃ entries, surroundings.Covers session entries earlier connected later)
    (fun ⟨_, covers⟩ takes => takes.covers covers) [] uris ⟨[], surroundings.covers_nil session⟩
  have accounted {entries : List ClientEntry} {tried : List Call}
      (ledger : surroundings.Ledger session entries clusters)
      (calls : last = session.calling (surroundings.callsOf entries ++ tried))
      (distinct : (clusters.map Cluster.uri).Nodup) (unclosing : closedIn tried = []) :
      surroundings.OwnedOrClosed entries clusters (callsIn (session.since last)) := by
    rw [calls, Session.callsIn_since_calling]
    exact ledger.ownedOrClosed distinct unclosing
  cases comes with
  | all holds =>
    obtain ⟨entries, covers⟩ := holds
    have calls : last = session.calling (surroundings.callsOf entries ++ []) := by
      rw [List.append_nil]
      exact covers.calls
    refine ⟨clusters, none, last, entries, [], performed, covers.ledger, calls,
      accounted covers.ledger calls covers.nodup rfl, fun _ => ⟨rfl, ?_⟩, ?_⟩
    · rw [covers.distinct]
      exact firstAppearances_unique _
    · rintro stop ⟨⟩
  | @upTo earlier later uri reached stop split held ends =>
    obtain ⟨_, covers⟩ := held
    obtain ⟨entries, tried, ledger, calls, unmade⟩ := ends.ends covers
    refine ⟨clusters, some stop, last, entries, tried, performed, ledger, calls,
      accounted ledger calls covers.nodup unmade.closedIn_eq, ?_, ?_⟩
    · rintro ⟨⟩
    · rintro _ ⟨⟩
      refine ⟨earlier, uri, later, reached, split, ?_, ends, unmade⟩
      rw [covers.distinct]
      exact firstAppearances_unique _

end Surroundings

end FleetSchema
