/-
**Closing the clusters of a command.**

The clusters that a command has registered are closed one after the other. The first client that
cannot be closed ends this: the clients behind it stay open, and all clusters stay registered.

* `AllClosable`: every client can be closed when those before it have been;
* `ClosesUpTo`: closing goes through, or it ends at a client that cannot be closed;
* `closesUpTo_closeEach`: closing one after the other ends in one of these ways;
* `closes_all_iff_closable`: each client is closed once and no cluster stays registered exactly when
  every client can be closed.
-/

import FleetSchema.Proofs.CommandLine.Connecting

namespace FleetSchema

open FleetSchema.Action

namespace Surroundings

variable {service : Cluster → ManagementService} {cluster : Cluster} {clusters rest : List Cluster}
  {session last : Session} {outcome : Except Fault Unit} {fault : Fault}

/-! ### Clients that can be closed -/

/-- The calls that close the clients of clusters, one for each. -/
def closingsOf (service : Cluster → ManagementService) (clusters : List Cluster) : List Call :=
  clusters.map fun cluster => .clientClosed (service cluster).identity

/-- Every client can be closed when those before it have been. -/
def AllClosable (service : Cluster → ManagementService) (session : Session)
    (clusters : List Cluster) : Prop :=
  ∀ earlier cluster later, clusters = earlier ++ cluster :: later →
    (service cluster).ending (session.calling (closingsOf service earlier)).events = .ok ()

theorem calling_closingsOf_nil (service : Cluster → ManagementService) (session : Session) :
    session.calling (closingsOf service []) = session := session.calling_nil

/-- A session behind the closing of a cluster and of others is one behind the closing of the others.
-/
theorem calling_closingsOf_cons (service : Cluster → ManagementService) (cluster : Cluster)
    (others : List Cluster) (session : Session) :
    session.calling (closingsOf service (cluster :: others)) =
      (session.calling [.clientClosed (service cluster).identity]).calling
        (closingsOf service others) :=
  (session.calling_calling [.clientClosed (service cluster).identity] _).symm

theorem allClosable_nil (service : Cluster → ManagementService) (session : Session) :
    AllClosable service session [] := fun _ _ _ split =>
  absurd split.symm (List.append_ne_nil_of_right_ne_nil _ (List.cons_ne_nil _ _))

theorem allClosable_cons_iff :
    AllClosable service session (cluster :: rest) ↔
      (service cluster).ending session.events = .ok () ∧
        AllClosable service (session.calling [.clientClosed (service cluster).identity]) rest := by
  constructor
  · intro closable
    refine ⟨?_, fun earlier other later split => ?_⟩
    · have first := closable [] cluster rest rfl
      rwa [calling_closingsOf_nil] at first
    · rw [← calling_closingsOf_cons]
      exact closable (cluster :: earlier) other later (congrArg (cluster :: ·) split)
  · rintro ⟨first, behind⟩ earlier other later split
    cases earlier with
    | nil =>
      obtain ⟨rfl, rfl⟩ := List.cons.inj split
      rwa [calling_closingsOf_nil]
    | cons front others =>
      obtain ⟨rfl, isRest⟩ := List.cons.inj split
      rw [calling_closingsOf_cons]
      exact behind others other later isRest

/-! ### How closing ends -/

/-- How closing clusters ends. -/
inductive ClosesUpTo (service : Cluster → ManagementService) (clusters : List Cluster)
    (session : Session) : Except Fault Unit → Session → Prop
  /-- Every client is closed. -/
  | through (closable : AllClosable service session clusters) :
      ClosesUpTo service clusters session (.ok ())
        (session.calling (closingsOf service clusters))
  /-- A client cannot be closed, and those behind it stay open. -/
  | failed {earlier later : List Cluster} {cluster : Cluster} {fault : Fault}
      (split : clusters = earlier ++ cluster :: later)
      (before : AllClosable service session earlier)
      (fails : (service cluster).ending
        (session.calling (closingsOf service earlier)).events = .error fault) :
      ClosesUpTo service clusters session (.error fault)
        (session.calling (closingsOf service (earlier ++ [cluster])))

/-- The first client cannot be closed. -/
theorem closesUpTo_of_fails (rest : List Cluster)
    (fails : (service cluster).ending session.events = .error fault) :
    ClosesUpTo service (cluster :: rest) session (.error fault)
      (session.calling [.clientClosed (service cluster).identity]) := by
  refine .failed (List.nil_append (cluster :: rest)).symm (allClosable_nil service session) ?_
  rwa [calling_closingsOf_nil]

/-- The first client is closed, and closing goes on behind it. -/
theorem ClosesUpTo.cons (closable : (service cluster).ending session.events = .ok ())
    (behind : ClosesUpTo service rest (session.calling [.clientClosed (service cluster).identity])
      outcome last) :
    ClosesUpTo service (cluster :: rest) session outcome last := by
  cases behind with
  | through others =>
    rw [← calling_closingsOf_cons]
    exact .through (allClosable_cons_iff.mpr ⟨closable, others⟩)
  | @failed earlier later other fault split before fails =>
    rw [← calling_closingsOf_cons] at fails ⊢
    exact .failed (congrArg (cluster :: ·) split)
      (allClosable_cons_iff.mpr ⟨closable, before⟩) fails

/-- **Closing one after the other** goes through, or it ends at a client that cannot be closed. -/
theorem closesUpTo_closeEach
    (served : ∀ cluster ∈ clusters, cluster.client = (service cluster).client)
    (session : Session) :
    ClosesUpTo service clusters session ((closeEach clusters).perform session).1
      ((closeEach clusters).perform session).2 := by
  induction clusters generalizing session with
  | nil =>
    have through := ClosesUpTo.through (allClosable_nil service session)
    rwa [calling_closingsOf_nil] at through
  | cons cluster rest ih =>
    have servedRest : ∀ other ∈ rest, other.client = (service other).client :=
      fun other member => served other (List.mem_cons_of_mem _ member)
    rw [closeEach, perform_bind,
      Cluster.perform_close_served (served cluster List.mem_cons_self) session]
    cases ended : (service cluster).ending session.events with
    | error fault => exact closesUpTo_of_fails rest ended
    | ok value => exact (ih servedRest _).cons ended

/-- Not every client can be closed when closing ends at one. -/
theorem not_allClosable_of_fails {earlier later : List Cluster}
    (fails : (service cluster).ending
      (session.calling (closingsOf service earlier)).events = .error fault) :
    ¬ AllClosable service session (earlier ++ cluster :: later) := by
  intro closable
  have closes := closable earlier cluster later rfl
  rw [fails] at closes
  cases closes

/-- **Closing the registered clusters** closes each client once and leaves no cluster registered
exactly when every client can be closed when those before it have been. Otherwise it ends with the
fault of the first client that cannot be closed: this one and those before it have been closed once,
those behind it stay open, and all clusters stay registered. -/
theorem closes_all_iff_closable (service : Cluster → ManagementService) (clusters : List Cluster)
    (served : ∀ cluster ∈ clusters, cluster.client = (service cluster).client)
    (session : Session) :
    let ended := StateT.run (closeAll clusters) session
    (callsIn (session.since ended.2) = closingsOf service clusters ∧ ended.1.2 = [] ↔
      AllClosable service session clusters) ∧
    ClosesUpTo service clusters session ended.1.1 ended.2 ∧
    (ended.1.1 = .ok () → ended.1.2 = []) ∧
    ∀ fault, ended.1.1 = .error fault → ended.1.2 = clusters := by
  have closes := closesUpTo_closeEach served session
  rw [run_closeAll]
  generalize (closeEach clusters).perform session = reached at closes
  obtain ⟨outcome, last⟩ := reached
  cases closes with
  | through closable =>
    refine ⟨?_, .through closable, fun _ => rfl, fun _ => ?_⟩
    · exact ⟨fun _ => closable, fun _ => ⟨session.callsIn_since_calling _, rfl⟩⟩
    · rintro ⟨⟩
  | failed split before fails =>
    refine ⟨?_, .failed split before fails, ?_, fun _ _ => rfl⟩
    · constructor
      · rintro ⟨_, none⟩
        rw [split] at none
        exact absurd none (List.append_ne_nil_of_right_ne_nil _ (List.cons_ne_nil _ _))
      · intro closable
        rw [split] at closable
        exact absurd closable (not_allClosable_of_fails fails)
    · rintro ⟨⟩

/-- Three clusters, of which the second one cannot be closed: the third one stays open, and all of
them stay registered. -/
theorem closes_all_iff_closable_second_failing :
    let uris := ["https://a.k", "https://b.k", "https://c.k"]
    let serviceAt (uri : String) : ManagementService :=
      ⟨some ⟨uris.idxOf uri, uri⟩, fun _ _ _ => .ok ⟨[], []⟩,
        fun _ => if uri = "https://b.k" then .error (.stated .general "reset") else .ok ()⟩
    let clusters := uris.map fun uri => (⟨uri, (serviceAt uri).client, "log", none⟩ : Cluster)
    let session := Session.start ⟨[], []⟩
    let ended := StateT.run (closeAll clusters) session
    (∀ cluster ∈ clusters, cluster.client = (serviceAt cluster.uri).client) ∧
      ended.2 = session.calling
        [.clientClosed (some ⟨0, "https://a.k"⟩), .clientClosed (some ⟨1, "https://b.k"⟩)] ∧
      ended.1.2 = clusters ∧ ¬ AllClosable (serviceAt ·.uri) session clusters := by
  intro uris serviceAt clusters session ended
  have served : ∀ cluster ∈ clusters, cluster.client = (serviceAt cluster.uri).client := by
    intro cluster member
    obtain ⟨uri, _, rfl⟩ := List.mem_map.mp member
    rfl
  obtain ⟨closesAll, _, _, stays⟩ :=
    closes_all_iff_closable (serviceAt ·.uri) clusters served session
  have fault : ended.1.1 = .error (.stated .general "reset") := by rfl
  have left := stays _ fault
  refine ⟨served, rfl, left, fun closable => ?_⟩
  have none := (closesAll.mpr closable).2
  rw [left] at none
  exact absurd none (List.cons_ne_nil _ _)

/-- Two clusters, of which the first one cannot be closed: the second one is not closed at all, and
both stay registered. -/
theorem closes_one_of_two :
    let uris := ["https://a.k", "https://b.k"]
    let serviceAt (uri : String) : ManagementService :=
      ⟨some ⟨uris.idxOf uri, uri⟩, fun _ _ _ => .ok ⟨[], []⟩,
        fun _ => if uri = "https://a.k" then .error (.stated .general "reset") else .ok ()⟩
    let clusters := uris.map fun uri => (⟨uri, (serviceAt uri).client, "log", none⟩ : Cluster)
    let ended := StateT.run (closeAll clusters) (.start ⟨[], []⟩)
    callsIn ended.2.events = [.clientClosed (some ⟨0, "https://a.k"⟩)] ∧
      ended.1.2.map Cluster.uri = ["https://a.k", "https://b.k"] := ⟨rfl, rfl⟩

end Surroundings

end FleetSchema
