/-
**The listing that a cluster keeps.**

A cluster lists its databases when that is asked for, or when no request before has succeeded.
Otherwise it answers with the names of its latest listing and leaves its client alone. A listing
that fails leaves what the cluster keeps as it was, and a listing without names is kept like any
other one.

* `NamePattern.find_empty`: the empty pattern is found in every name;
* `Cluster.answerAll`: requests for all databases, one after the other;
* `Cluster.lastListed`: the names of the latest listing among answered requests;
* `Cluster.Answered.Coherent`, `Cluster.answers_coherently`: how every request is answered.
-/

import FleetSchema.Cluster
import FleetSchema.Proofs.Session.History
import FleetSchema.Proofs.Targets.Precedence

namespace FleetSchema

open FleetSchema.Action

/-- The empty pattern is found in every name. -/
theorem NamePattern.find_empty [Interpreter] {pattern : NamePattern}
    (compiles : NamePattern.compile "" = .ok pattern) (name : String) :
    pattern.find name = .found := by
  have plain : (NamePattern.ofText "").toOption.map
      (fun compiled => (compiled.codes.isEmpty, compiled.groups)) = some (true, 0) := by
    decide +kernel
  rw [← NamePattern.compile_empty, compiles] at plain
  obtain ⟨isEmpty, groups⟩ := Prod.mk.inj (Option.some.inj plain)
  have codes : pattern.codes = [] := List.isEmpty_iff.mp isEmpty
  unfold NamePattern.find Pattern.Matcher.search
  rw [codes, groups]
  dsimp only
  cases name.toList.toArray.size with
  | zero => rfl
  | succ more => rfl

/-- A listing with the empty pattern has all names, when its client delivers. -/
theorem ClientScript.listing_empty_eq_ok_iff [Interpreter] {script : ClientScript}
    {pattern : NamePattern} {uri : String} {names : List String}
    (compiles : NamePattern.compile "" = .ok pattern) :
    script.listing pattern uri = .ok names ↔
      script.Delivers ∧ names = unique (namesAmong script.items) := by
  have all : (namesAmong script.items).filter (fun name => pattern.find name == .found) =
      namesAmong script.items := by
    refine List.filter_eq_self.mpr fun name _ => ?_
    rw [NamePattern.find_empty compiles name]
    rfl
  rw [listing_eq_ok_iff, all]
  constructor
  · rintro ⟨delivers, _, rfl⟩
    exact ⟨delivers, rfl⟩
  · rintro ⟨delivers, rfl⟩
    refine ⟨delivers, fun name _ => ?_, rfl⟩
    rw [NamePattern.find_empty compiles name]
    rintro ⟨⟩

namespace Cluster

/-! ### One request -/

section Requests

variable {cluster : Cluster} {refresh : Bool} {names : List String} {script : ClientScript}
  {pattern : NamePattern}

/-- The names that a cluster answers with, unless it lists them anew. -/
def recalled (cluster : Cluster) (refresh : Bool) : Option (List String) :=
  if refresh then none else cluster.known

theorem run_ask_recalled [Interpreter] (recalls : cluster.recalled refresh = some names)
    (session : Session) :
    StateT.run (cluster.ask refresh) session = ((.ok names, cluster), session) := by
  have performed : (cluster.databases refresh).perform session =
      (.ok (names, cluster), session) := by
    unfold databases
    rw [show (if refresh then none else cluster.known) = some names from recalls]
    rfl
  rw [run_ask, performed]

/-- The cluster that keeps what a listing comes to; a fault leaves it as it was. -/
def keeping (cluster : Cluster) : Except Fault (List String) → Cluster
  | .ok names => { cluster with known := some names }
  | .error _ => cluster

theorem run_ask_listed [Interpreter] (scripted : cluster.client = script.client)
    (compiles : NamePattern.compile "" = .ok pattern)
    (forgets : cluster.recalled refresh = none) (session : Session) :
    ∃ records final, StateT.run (cluster.ask refresh) session =
      ((script.listing pattern cluster.uri, cluster.keeping (script.listing pattern cluster.uri)),
        (script.left session records).noting final) := by
  obtain ⟨records, final, listed, _⟩ :=
    perform_listDatabases script cluster.uri cluster.logger pattern session compiles
  refine ⟨records, final, ?_⟩
  have performed : (cluster.databases refresh).perform session =
      ((script.listing pattern cluster.uri).map fun names =>
        (names, { cluster with known := some names }),
        (script.left session records).noting final) := by
    unfold databases
    rw [show (if refresh then none else cluster.known) = none from forgets]
    dsimp only
    rw [perform_bind_pure]
    unfold list
    rw [scripted, listed]
  rw [run_ask, performed]
  cases script.listing pattern cluster.uri with
  | ok names => rfl
  | error fault => rfl

end Requests

/-! ### One request after the other -/

/-- A request for all databases, and how the client behaves then. -/
structure Request where
  refresh : Bool
  script : ClientScript

/-- An answered request: the outcome, the calls to the client, and the names that are kept then. -/
structure Answered where
  request : Request
  outcome : Except Fault (List String)
  calls : List Call
  kept : Option (List String)

/-- Answer a request during a session, with the client that there is then. -/
def answerOnce [Interpreter] (state : Cluster × Session) (request : Request) :
    Answered × Cluster × Session :=
  let served : Cluster := { state.1 with client := request.script.client }
  let ended := StateT.run (served.ask request.refresh) state.2
  (⟨request, ended.1.1, callsIn (state.2.since ended.2), ended.1.2.known⟩, ended.1.2, ended.2)

/-- Answer requests one after the other. -/
def answerAll [Interpreter] (cluster : Cluster) (session : Session) :
    List Request → List Answered :=
  recordEach answerOnce (cluster, session)

/-- The names of a listing that succeeded. A request without calls is answered without one. -/
def Answered.listed? (answered : Answered) : Option (List String) :=
  if answered.calls.isEmpty then none else answered.outcome.toOption

/-- The names of the latest listing among answered requests that succeeded. -/
def lastListed (past : List Answered) : Option (List String) :=
  (past.filterMap Answered.listed?).getLast?

/-- A request is answered by a new listing: that is asked for, or no request before has succeeded.
-/
def Lists (past : List Answered) (request : Request) : Prop :=
  request.refresh = true ∨ ∀ earlier ∈ past, ∀ names, earlier.outcome ≠ .ok names

/-- How a request is answered behind other ones. It asks the client exactly when it lists. It
succeeds unless it lists and the client does not deliver. A success has the names of the latest
listing, which is its own if it lists, and a failure leaves the names that are kept. -/
structure Answered.Coherent (past : List Answered) (answered : Answered) : Prop where
  queries_iff : .queried "" showDatabases ∈ answered.calls ↔ Lists past answered.request
  calls : answered.calls = [] ∨ answered.calls = answered.request.script.listingCalls
  succeeds_iff : (∃ names, answered.outcome = .ok names) ↔
    (Lists past answered.request → answered.request.script.Delivers)
  lists : Lists past answered.request → ∀ names, answered.outcome = .ok names →
    names = unique (namesAmong answered.request.script.items)
  latest : ∀ names, answered.outcome = .ok names → lastListed (past ++ [answered]) = some names
  recalls : ¬ Lists past answered.request → answered.outcome.toOption = lastListed past
  fails : ∀ fault, answered.outcome = .error fault →
    fault.isKind .query = true ∧ lastListed (past ++ [answered]) = lastListed past
  keeps : answered.kept = lastListed (past ++ [answered])

section Past

variable {past : List Answered} {answered : Answered} {cluster : Cluster}

theorem lastListed_snoc : lastListed (past ++ [answered]) =
    answered.listed?.or (lastListed past) := by
  unfold lastListed
  rw [List.filterMap_append, List.getLast?_append]
  cases isListed : answered.listed? with
  | none => simp [isListed]
  | some names => simp [isListed]

/-- What a cluster keeps behind answered requests: the names of the latest listing, which there are
when some request has succeeded. -/
structure Keeps (past : List Answered) (cluster : Cluster) : Prop where
  known : cluster.known = lastListed past
  succeeded_iff : (∃ names, lastListed past = some names) ↔
    ∃ earlier ∈ past, ∃ names, earlier.outcome = .ok names

theorem keeps_nil (unknown : cluster.known = none) : Keeps [] cluster := by
  refine ⟨unknown, ?_⟩
  constructor
  · rintro ⟨_, ⟨⟩⟩
  · rintro ⟨_, ⟨⟩, _⟩

/-- A cluster answers from what it keeps exactly when it does not list. -/
theorem Keeps.recalled_eq_none_iff (keeps : Keeps past cluster) (request : Request) :
    cluster.recalled request.refresh = none ↔ Lists past request := by
  unfold recalled Lists
  rw [keeps.known]
  by_cases refresh : request.refresh = true
  · rw [if_pos refresh]
    exact ⟨fun _ => Or.inl refresh, fun _ => rfl⟩
  · rw [if_neg refresh]
    constructor
    · intro isNone
      right
      intro earlier member names succeeded
      obtain ⟨others, isSome⟩ := keeps.succeeded_iff.mpr ⟨earlier, member, names, succeeded⟩
      cases isNone.symm.trans isSome
    · rintro (refreshes | none)
      · exact absurd refreshes refresh
      · cases isListed : lastListed past with
        | none => rfl
        | some names =>
          obtain ⟨earlier, member, others, succeeded⟩ := keeps.succeeded_iff.mp ⟨names, isListed⟩
          exact absurd succeeded (none earlier member others)

/-- A request that is answered coherently takes what a cluster keeps further. -/
theorem Keeps.behind {next : Cluster} (keeps : Keeps past cluster)
    (coherent : answered.Coherent past) (known : next.known = answered.kept) :
    Keeps (past ++ [answered]) next := by
  refine ⟨known.trans coherent.keeps, ?_⟩
  cases isOutcome : answered.outcome with
  | ok names =>
    constructor
    · exact fun _ => ⟨answered, List.mem_append_right _ List.mem_cons_self, names, isOutcome⟩
    · exact fun _ => ⟨names, coherent.latest names isOutcome⟩
  | error fault =>
    rw [(coherent.fails fault isOutcome).2, keeps.succeeded_iff]
    constructor
    · rintro ⟨earlier, member, succeeded⟩
      exact ⟨earlier, List.mem_append_left _ member, succeeded⟩
    · rintro ⟨earlier, member, names, succeeded⟩
      rcases List.mem_append.mp member with before | here
      · exact ⟨earlier, before, names, succeeded⟩
      · rw [List.mem_singleton.mp here, isOutcome] at succeeded
        cases succeeded

/-- A request is answered coherently with the names that are kept. -/
theorem coherent_recalled [Interpreter] (keeps : Keeps past cluster) (request : Request)
    {names : List String} (recalls : cluster.recalled request.refresh = some names) :
    (⟨request, .ok names, [], cluster.known⟩ : Answered).Coherent past := by
  have stays : ¬ Lists past request := by
    rw [← keeps.recalled_eq_none_iff, recalls]
    rintro ⟨⟩
  have isLast : lastListed past = some names := by
    rw [← keeps.known, ← recalls]
    unfold recalled
    rw [if_neg fun refresh => stays (Or.inl refresh)]
  have same : lastListed (past ++ [⟨request, .ok names, [], cluster.known⟩]) = lastListed past :=
    lastListed_snoc
  refine ⟨?_, Or.inl rfl, ?_, fun lists => absurd lists stays, ?_, fun _ => isLast.symm, ?_, ?_⟩
  · constructor
    · rintro ⟨⟩
    · exact fun lists => absurd lists stays
  · exact ⟨fun _ lists => absurd lists stays, fun _ => ⟨names, rfl⟩⟩
  · rintro _ ⟨⟩
    exact same.trans isLast
  · rintro _ ⟨⟩
  · exact keeps.known.trans same.symm

/-- A request is answered coherently with a new listing. -/
theorem coherent_listed [Interpreter] (keeps : Keeps past cluster) (request : Request)
    {pattern : NamePattern} (compiles : NamePattern.compile "" = .ok pattern)
    (forgets : cluster.recalled request.refresh = none) :
    (⟨request, request.script.listing pattern cluster.uri, request.script.listingCalls,
      (cluster.keeping (request.script.listing pattern cluster.uri)).known⟩ :
        Answered).Coherent past := by
  have lists : Lists past request := (keeps.recalled_eq_none_iff request).mp forgets
  have asks : (Call.queried "" showDatabases) ∈ request.script.listingCalls := List.mem_cons_self
  have ok_iff (names : List String) : request.script.listing pattern cluster.uri = .ok names ↔
      request.script.Delivers ∧ names = unique (namesAmong request.script.items) :=
    ClientScript.listing_empty_eq_ok_iff compiles
  have isQuery (fault : Fault)
      (failed : request.script.listing pattern cluster.uri = .error fault) :
      fault.isKind .query = true := isKind_of_listing_eq_error failed
  generalize request.script.listing pattern cluster.uri = outcome at ok_iff isQuery
  have isListed : Answered.listed? ⟨request, outcome, request.script.listingCalls,
      (cluster.keeping outcome).known⟩ = outcome.toOption := rfl
  refine ⟨⟨fun _ => lists, fun _ => asks⟩, Or.inr rfl, ?_, ?_, ?_, fun stays => absurd lists stays,
    ?_, ?_⟩
  · constructor
    · rintro ⟨names, succeeded⟩ _
      exact ((ok_iff names).mp succeeded).1
    · intro delivers
      exact ⟨_, (ok_iff _).mpr ⟨delivers lists, rfl⟩⟩
  · exact fun _ names succeeded => ((ok_iff names).mp succeeded).2
  · rintro names rfl
    rw [lastListed_snoc, isListed]
    rfl
  · rintro fault rfl
    refine ⟨isQuery fault rfl, ?_⟩
    rw [lastListed_snoc, isListed]
    rfl
  · rw [lastListed_snoc, isListed]
    cases outcome with
    | ok names => rfl
    | error fault => exact keeps.known

/-- **One request** is answered coherently, and the cluster keeps the latest listing behind it. -/
theorem coherent_ask [Interpreter] (keeps : Keeps past cluster) (session : Session)
    (request : Request) :
    let served : Cluster := { cluster with client := request.script.client }
    let ended := StateT.run (served.ask request.refresh) session
    let answered : Answered :=
      ⟨request, ended.1.1, callsIn (session.since ended.2), ended.1.2.known⟩
    answered.Coherent past ∧ Keeps (past ++ [answered]) ended.1.2 := by
  intro served ended answered
  have serves : Keeps past served := ⟨keeps.known, keeps.succeeded_iff⟩
  have coherent : answered.Coherent past := by
    cases recalls : served.recalled request.refresh with
    | some names =>
      have isEnded : ended = ((.ok names, served), session) := run_ask_recalled recalls session
      have isAnswered : answered = ⟨request, .ok names, [], served.known⟩ := by
        show (⟨_, _, _, _⟩ : Answered) = _
        rw [isEnded, (Session.Adds.refl session).calls]
      rw [isAnswered]
      exact coherent_recalled serves request recalls
    | none =>
      obtain ⟨pattern, compiles⟩ := exists_compile_empty
      obtain ⟨records, final, performed⟩ := run_ask_listed rfl compiles recalls session
      have isEnded : ended = _ := performed
      have adds := (adds_left request.script session records).trans (Session.adds_noting _ final)
      have isAnswered : answered = ⟨request, request.script.listing pattern served.uri,
          request.script.listingCalls,
          (served.keeping (request.script.listing pattern served.uri)).known⟩ := by
        show (⟨_, _, _, _⟩ : Answered) = _
        rw [isEnded, adds.calls, List.append_nil]
      rw [isAnswered]
      exact coherent_listed serves request compiles recalls
  exact ⟨coherent, keeps.behind coherent rfl⟩

/-- **A cluster answers all requests for its databases coherently**, whatever its client does at
each of them. It asks the client exactly when that is asked for or no request before has succeeded,
and it answers with the names of its latest listing. -/
theorem answers_coherently [Interpreter] (uri : String) (client : QueryClient) (logger : String)
    (cluster : Cluster) (made : Cluster.make uri client logger = .ok cluster) (session : Session)
    (requests : List Request) :
    (answerAll cluster session requests).map Answered.request = requests ∧
      ∀ before answered later, answerAll cluster session requests = before ++ answered :: later →
        answered.Coherent before := by
  have unknown : cluster.known = none := by
    unfold make at made
    cases named : ClusterUri.name (ClusterUri.normalize uri) with
    | error fault =>
      rw [named] at made
      cases made
    | ok name =>
      rw [named] at made
      cases made
      rfl
  refine ⟨map_recordEach (fun _ _ => rfl) _, fun before answered later isAnswers => ?_⟩
  exact fits_recordEach Answered.Coherent (fun past state => Keeps past state.1)
    (fun past state request keeps => coherent_ask keeps state.2 request) (keeps_nil unknown)
    isAnswers

/-- A failure before the first success, a listing without names, a failed refresh and a new listing,
with requests between them that are answered from what is kept. -/
theorem answers_coherently_six :
    let down : ClientScript := ⟨[], none, some (.stated .query "down"), none, none⟩
    let cut : ClientScript := ⟨[.row (.list [.text "x"])], some .streamClosed, none, none, none⟩
    let bare : ClientScript := ⟨[], none, none, none, none⟩
    let full : ClientScript := ⟨[.row (.list [.text "b"]), .row (.list [.text "a"]),
      .row (.list [.text "b"])], none, none, none, none⟩
    let cluster : Cluster := ⟨"https://f.k", bare.client, "log", none⟩
    let requests : List Request := [⟨false, down⟩, ⟨false, bare⟩, ⟨false, full⟩, ⟨true, cut⟩,
      ⟨false, full⟩, ⟨true, full⟩]
    let answers := answerAll cluster (.start ⟨[], []⟩) requests
    Cluster.make "https://f.k/" bare.client "log" = .ok cluster ∧
      answers.map (·.outcome.toOption) =
        [none, some [], some [], none, some [], some ["b", "a"]] ∧
      answers.map (·.calls.length) = [1, 2, 0, 2, 0, 2] ∧
      ∀ before answered later, answers = before ++ answered :: later →
        answered.Coherent before := by
  intro down cut bare full cluster requests answers
  have made : Cluster.make "https://f.k/" bare.client "log" = .ok cluster := by
    have normal : ClusterUri.normalize "https://f.k/" = "https://f.k" := by decide +kernel
    have named : ClusterUri.name "https://f.k" = .ok "f" := eq_ok_of_toOption (by decide +kernel)
    unfold make
    rw [normal, named]
    rfl
  refine ⟨made, by decide +kernel, by decide +kernel, ?_⟩
  exact (answers_coherently "https://f.k/" bare.client "log" cluster made (.start ⟨[], []⟩)
    requests).2

end Past

end Cluster

end FleetSchema
