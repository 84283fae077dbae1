/-
**Where the token of a registry goes.**

A registry with a credential sends a fresh token along with each request for a page. The first
request and those for links within the registry go to its own host. A link that is a whole address
is followed as it stands, and the token goes where it leads.

* `Origin.ofAddress?`: the scheme and the host of a web address;
* `Registry.LeadsHome`: an address on the host of a registry;
* `Walks.requests`: the requests of a listing, each with the link that it follows;
* `sends_home_or_follows`: a listing stays on its host until it follows a whole address;
* `sends_token_elsewhere`: a whole address on another host is sent the token.
-/

import FleetSchema.Proofs.Registry.Pagination
import Mathlib.Data.List.TakeWhile

namespace FleetSchema

/-! ### Where an address leads -/

/-- The host that an address leads to, and the scheme under which it is asked. -/
structure Origin where
  scheme : String
  host : String
  deriving DecidableEq, Repr

namespace Origin

/-- A mark that ends the part of an address that names its host. -/
def endsAuthority (letter : Char) : Bool :=
  letter == '/' || letter == '?' || letter == '#' || letter == '\\'

/-- The part at the front of an address without its scheme that names its host. -/
def authorityOf (letters : List Char) : List Char := letters.takeWhile fun letter =>
  !endsAuthority letter

/-- The host in such a part: it stands behind a user and in front of a port. A host in brackets may
hold colons. -/
def hostIn (authority : List Char) : List Char :=
  match (authority.reverse.takeWhile (· != '@')).reverse with
  | '[' :: rest => '[' :: rest.takeWhile (· != ']') ++ [']']
  | other => other.takeWhile (· != ':')

/-- Where an address leads. -/
def ofAddress? (address : String) : Option Origin :=
  match address.toList.dropWhile (· != ':') with
  | ':' :: '/' :: '/' :: rest =>
    some ⟨String.ofList ((address.toList.takeWhile (· != ':')).map Char.toLower),
      String.ofList (hostIn (authorityOf rest))⟩
  | _ => none

/-- A text is a host and nothing else: no mark in it ends a host or sets off a part of it. -/
def IsHost (text : String) : Prop :=
  ∀ letter ∈ text.toList, endsAuthority letter = false ∧ letter ∉ ['@', ':', '[']

instance (text : String) : Decidable (IsHost text) := List.decidableBAll _ text.toList

theorem authorityOf_append_slash (letters rest : List Char) :
    authorityOf (letters ++ '/' :: rest) = authorityOf letters := by
  induction letters with
  | nil => rfl
  | cons letter others ih =>
    unfold authorityOf at ih ⊢
    rw [List.cons_append, List.takeWhile_cons, List.takeWhile_cons, ih]

/-- An address behind the secure scheme leads to the host at the front of it. -/
theorem ofAddress?_scheme {address : String} {rest : List Char}
    (letters : address.toList = ClusterUri.scheme.toList ++ rest) :
    ofAddress? address = some ⟨"https", String.ofList (hostIn (authorityOf rest))⟩ := by
  unfold ofAddress?
  rw [letters]
  rfl

/-- A host is all of the part that it stands in. -/
theorem hostIn_authorityOf {text : String} (isHost : IsHost text) :
    String.ofList (hostIn (authorityOf text.toList)) = text := by
  have whole : authorityOf text.toList = text.toList := by
    refine List.takeWhile_eq_self_iff.mpr fun letter member => ?_
    rw [(isHost letter member).1]
    rfl
  have noUser : (text.toList.reverse.takeWhile (· != '@')).reverse = text.toList := by
    have all : text.toList.reverse.takeWhile (· != '@') = text.toList.reverse :=
      List.takeWhile_eq_self_iff.mpr fun letter member => by
        have other := (isHost letter (List.mem_reverse.mp member)).2
        simp only [List.mem_cons, not_or] at other
        exact bne_iff_ne.mpr other.1
    rw [all, List.reverse_reverse]
  have noPort : text.toList.takeWhile (· != ':') = text.toList :=
    List.takeWhile_eq_self_iff.mpr fun letter member => by
      have other := (isHost letter member).2
      simp only [List.mem_cons, not_or] at other
      exact bne_iff_ne.mpr other.2.1
  unfold hostIn
  rw [whole, noUser]
  split
  · next rest bracket =>
    have other := (isHost '[' (bracket ▸ List.mem_cons_self)).2
    exact absurd (by decide) other
  · rw [noPort, String.ofList_toList]

end Origin

/-! ### Requests -/

/-- The web request that an event sends. -/
def Event.request? : Event → Option WebRequest
  | .call (.fetched request) => some request
  | _ => none

/-- The web requests among events. -/
def requestsIn (events : List Event) : List WebRequest := events.filterMap Event.request?

theorem requestsIn_append (first second : List Event) :
    requestsIn (first ++ second) = requestsIn first ++ requestsIn second := List.filterMap_append

/-- Whether a request carries a token. -/
def WebRequest.isAuthorized (request : WebRequest) : Bool :=
  (request.headers.getD []).any (·.1 == "Authorization")

namespace Registry

variable {registry : Registry} {visit : Visit} {session last : Session}
  {ended : Except Fault (List String)} {outcome : Except Fault WebAnswer}

/-- The host that a registry is asked on. -/
def host (registry : Registry) : String :=
  String.ofList (Origin.hostIn (Origin.authorityOf registry.endpoint.toList))

/-- An address on the host of a registry, under the secure scheme. -/
def LeadsHome (registry : Registry) (address : String) : Prop :=
  Origin.ofAddress? address = some ⟨"https", registry.host⟩

instance (registry : Registry) (address : String) : Decidable (registry.LeadsHome address) :=
  inferInstanceAs (Decidable (Origin.ofAddress? address = _))

/-- Addresses within a registry are on its host. -/
theorem leadsHome_append (registry : Registry) {tail : String}
    (within : ClusterUri.startsAs "/" tail = true) :
    registry.LeadsHome (ClusterUri.scheme ++ registry.endpoint ++ tail) := by
  obtain ⟨rest, isTail⟩ := List.isPrefixOf_iff_prefix.mp within
  have letters : (ClusterUri.scheme ++ registry.endpoint ++ tail).toList =
      ClusterUri.scheme.toList ++ (registry.endpoint.toList ++ '/' :: rest) := by
    rw [String.toList_append, String.toList_append, List.append_assoc, ← isTail]
    rfl
  unfold LeadsHome host
  rw [Origin.ofAddress?_scheme letters, Origin.authorityOf_append_slash]

theorem requestsIn_callsFor (registry : Registry) (past : List Event) (visit : Visit) :
    requestsIn ((registry.callsFor past visit).map .call) = [registry.requestFor past visit] := by
  unfold callsFor tokenCalls
  split
  · rfl
  · rfl

/-- A request carries a token when the registry has a credential, once the token is given. -/
theorem isAuthorized_requestFor {past : List Event} (given : registry.tokenFault? past = none)
    (visit : Visit) :
    (registry.requestFor past visit).isAuthorized = registry.credential.isSome := by
  unfold tokenFault? at given
  unfold WebRequest.isAuthorized requestFor headersFor authorization
  cases isCredential : registry.credential with
  | none => rfl
  | some credential =>
    rw [isCredential] at given
    dsimp only at given ⊢
    cases isToken : credential past with
    | ok token => rfl
    | error fault =>
      rw [isToken] at given
      cases given

/-! ### Links -/

/-- What comes of a request is a page with a link. -/
def LinksTo (outcome : Except Fault WebAnswer) (link : String) : Prop :=
  ∃ answer fields, outcome = .ok answer ∧ answer.status = 200 ∧
    Web.readJson answer = .ok (.object fields) ∧ Value.field fields "nextLink" = .text link

/-- Fields are those of an answer of success. -/
theorem fieldsOf_eq_ok {fields : List (String × Value)}
    (shows : registry.fieldsOf outcome = .ok fields) :
    ∃ answer, outcome = .ok answer ∧ answer.status = 200 ∧
      Web.readJson answer = .ok (.object fields) := by
  unfold fieldsOf at shows
  cases outcome with
  | error fault => cases shows
  | ok answer =>
    dsimp only [Except.bind] at shows
    by_cases status : answer.status = 200
    · refine ⟨answer, rfl, status, ?_⟩
      rw [valueIn_of_status status] at shows
      split at shows
      · next read =>
        cases shows
        exact read
      · cases shows
      · cases shows
    · unfold valueIn at shows
      rw [if_pos (bne_iff_ne.mpr status)] at shows
      cases shows

/-- The next address is that of the link on a page. -/
theorem nextAddress_eq_some {fields : List (String × Value)} {next : String}
    (leads : registry.nextAddress fields = .ok (some next)) :
    ∃ link, Value.field fields "nextLink" = .text link ∧ next = registry.addressOf link := by
  unfold nextAddress at leads
  split at leads
  · cases leads
  · next link _ isText =>
    cases leads
    exact ⟨link, isText, rfl⟩
  · split at leads
    · cases leads
    · cases leads

/-- A page that leads on has the link that leads there. -/
theorem linksTo_of_turn {names : List String} {next : String}
    (leads : registry.turn outcome = .ok (names, some next)) :
    ∃ link, LinksTo outcome link ∧ next = registry.addressOf link := by
  unfold turn at leads
  cases shows : registry.fieldsOf outcome with
  | error fault =>
    rw [shows] at leads
    cases leads
  | ok fields =>
    rw [shows] at leads
    dsimp only at leads
    cases told : registry.tell fields with
    | error defect =>
      rw [told] at leads
      cases leads
    | ok page =>
      rw [told] at leads
      cases leads
      unfold tell at told
      split at told
      · cases told
      · cases told
      · next isNext =>
        cases told
        obtain ⟨link, isText, rfl⟩ := nextAddress_eq_some isNext
        obtain ⟨answer, isAnswer, status, read⟩ := fieldsOf_eq_ok shows
        exact ⟨link, ⟨answer, fields, isAnswer, status, read, isText⟩, rfl⟩

/-! ### The requests of a listing -/

/-- A request of a listing from a page on: it is the one for the page itself, or it follows the link
on the page before. -/
structure SentFor (registry : Registry) (visit : Visit) (web : List (Except Fault WebAnswer))
    (place : Nat) (request : WebRequest) : Prop where
  authorized : request.isAuthorized = registry.credential.isSome
  reason : place = 0 ∧ request.address = visit.address ∨
    ∃ earlier outcome link, place = earlier + 1 ∧ web[earlier]? = some outcome ∧
      LinksTo outcome link ∧ request.address = registry.addressOf link

/-- The request for the page itself. -/
theorem sentFor_visit (given : registry.tokenFault? session.events = none) (visit : Visit)
    (web : List (Except Fault WebAnswer)) :
    registry.SentFor visit web 0 (registry.requestFor session.events visit) :=
  ⟨isAuthorized_requestFor given visit, Or.inl ⟨rfl, rfl⟩⟩

/-- A request behind a page with a link, seen from that page. -/
theorem SentFor.behind {request : WebRequest} {rest : List (Except Fault WebAnswer)} {link : String}
    {place : Nat} (links : LinksTo outcome link)
    (sentFor : registry.SentFor ⟨registry.addressOf link, none⟩ rest place request)
    (visit : Visit) : registry.SentFor visit (outcome :: rest) (place + 1) request := by
  refine ⟨sentFor.authorized, Or.inr ?_⟩
  obtain ⟨rfl, isAddress⟩ | ⟨earlier, other, further, rfl, held, linksOn, isAddress⟩ :=
    sentFor.reason
  · exact ⟨0, outcome, link, rfl, rfl, links, isAddress⟩
  · exact ⟨earlier + 1, other, further, rfl, held, linksOn, isAddress⟩

/-- **Each request behind the first one follows a link.** -/
theorem Walks.requests (walks : registry.Walks visit session ended last) :
    ∃ added, last.events = session.events ++ added ∧ ∀ place request,
      (requestsIn added)[place]? = some request →
        registry.SentFor visit session.web place request := by
  induction walks with
  | untokened =>
    refine ⟨registry.tokenCalls.map .call, rfl, fun place request sent => ?_⟩
    have none : requestsIn (registry.tokenCalls.map .call) = [] := by
      unfold tokenCalls
      split
      · rfl
      · rfl
    rw [none] at sent
    cases sent
  | @unanswered visit session given | @failed visit session _ _ _ given
  | @last visit session _ _ _ given =>
    refine ⟨_, rfl, fun place request sent => ?_⟩
    rw [requestsIn_callsFor] at sent
    cases place with
    | zero =>
      cases sent
      exact sentFor_visit given visit session.web
    | succ place => cases sent
  | @linked visit session _ outcome rest names next ended given left leads _ ih =>
    obtain ⟨added, isAdded, behind⟩ := ih
    obtain ⟨link, links, rfl⟩ := linksTo_of_turn leads
    refine ⟨(registry.callsFor session.events visit).map .call ++ added, ?_,
      fun place request sent => ?_⟩
    · rw [isAdded, ← List.append_assoc]
      rfl
    · rw [requestsIn_append, requestsIn_callsFor] at sent
      cases place with
      | zero =>
        cases sent
        exact sentFor_visit given visit session.web
      | succ place =>
        rw [left]
        exact (behind place request sent).behind links visit

/-- **A listing stays on the host of its registry until it follows a whole address.** The host is
the endpoint when that is a host and nothing else. Each request of a listing carries a token when
there is a credential for it. It goes to the host of the registry under the secure scheme, or where
the link on the page before leads, if that does not start within the registry. -/
theorem sends_home_or_follows (registry : Registry) (session : Session) :
    (Origin.IsHost registry.endpoint → registry.host = registry.endpoint) ∧
    ∀ place request,
      (requestsIn (session.since (registry.groups.perform session).2))[place]? = some request →
        request.isAuthorized = registry.credential.isSome ∧
        (registry.LeadsHome request.address ∨
          ∃ earlier outcome, place = earlier + 1 ∧ session.web[earlier]? = some outcome ∧
            LinksTo outcome request.address ∧
            ClusterUri.startsAs "/" request.address = false) := by
  refine ⟨Origin.hostIn_authorityOf, fun place request sent => ?_⟩
  obtain ⟨added, isAdded, requests⟩ :=
    (perform_groups_iff.mp (Prod.eta (registry.groups.perform session)).symm).requests
  rw [Session.since_eq isAdded] at sent
  obtain ⟨authorized, ⟨_, isFirst⟩ | ⟨earlier, outcome, link, isPlace, held, links, isAddress⟩⟩ :=
    requests place request sent
  · refine ⟨authorized, Or.inl ?_⟩
    rw [isFirst]
    exact registry.leadsHome_append rfl
  · refine ⟨authorized, ?_⟩
    unfold addressOf at isAddress
    by_cases within : ClusterUri.startsAs "/" link = true
    · left
      rw [isAddress, if_pos within]
      exact registry.leadsHome_append within
    · right
      rw [if_neg within] at isAddress
      rw [isAddress]
      exact ⟨earlier, outcome, isPlace, held, links, Bool.not_eq_true _ ▸ within⟩

/-- A listing of three pages, the last of them on another host. -/
theorem sends_home_or_follows_three :
    let registry := Registry.make "https://r.n/" (some (.ok "t")) Web.patience
    let session : Session := { Session.start ⟨[], []⟩ with web := [
      .ok ⟨200, "OK", "\x7b\"nextLink\": \"//o.n/b\"\x7d"⟩,
      .ok ⟨200, "OK", "\x7b\"nextLink\": \"https://o.n/c\"\x7d"⟩, .ok ⟨200, "OK", "\x7b\x7d"⟩] }
    let requests := requestsIn (session.since (registry.groups.perform session).2)
    registry.host = "r.n" ∧
      (∃ request, requests[1]? = some request ∧ request.address = "https://r.n//o.n/b" ∧
        request.isAuthorized = true ∧ registry.LeadsHome request.address) ∧
      ∃ request outcome, requests[2]? = some request ∧ request.isAuthorized = true ∧
        session.web[1]? = some outcome ∧ LinksTo outcome request.address := by
  intro registry session requests
  have addresses : requests.map WebRequest.address =
      ["https://r.n/$schemaGroups", "https://r.n//o.n/b", "https://o.n/c"] := by decide +kernel
  have isHost : Origin.IsHost registry.endpoint := by decide +kernel
  obtain ⟨host, goes⟩ := sends_home_or_follows registry session
  have known (place : Nat) : (requests[place]?).map WebRequest.address =
      ["https://r.n/$schemaGroups", "https://r.n//o.n/b", "https://o.n/c"][place]? := by
    rw [← addresses, List.getElem?_map]
  refine ⟨host isHost, ?_, ?_⟩
  · obtain ⟨request, sent, isAddress⟩ := Option.map_eq_some_iff.mp (known 1)
    refine ⟨request, sent, isAddress, (goes 1 request sent).1, ?_⟩
    rw [isAddress]
    decide +kernel
  · obtain ⟨request, sent, isAddress⟩ := Option.map_eq_some_iff.mp (known 2)
    obtain ⟨authorized, home | ⟨earlier, outcome, isPlace, held, links, _⟩⟩ := goes 2 request sent
    · rw [isAddress] at home
      exact absurd home (by decide +kernel)
    · obtain rfl := Nat.succ.inj isPlace
      exact ⟨request, outcome, sent, authorized, held, links⟩

/-- A page with a whole address on another host, and under another scheme: the request that follows
carries the token there. -/
theorem sends_token_elsewhere :
    let registry := Registry.make "r.n" (some (.ok "t")) Web.patience
    let session : Session := { Session.start ⟨[], []⟩ with web := [
      .ok ⟨200, "OK", "\x7b\"nextLink\": \"http://o.n/c\"\x7d"⟩] }
    ¬ ∀ request ∈ requestsIn (session.since (registry.groups.perform session).2),
      request.isAuthorized = true → ∃ origin, Origin.ofAddress? request.address = some origin ∧
        origin.scheme = "https" ∧ origin.host = registry.endpoint := by
  intro registry session stays
  have sent : (requestsIn (session.since (registry.groups.perform session).2)).map
      (fun request => (request.address, request.isAuthorized)) =
        [("https://r.n/$schemaGroups", true), ("http://o.n/c", true)] := by decide +kernel
  have member : ("http://o.n/c", true) ∈
      (requestsIn (session.since (registry.groups.perform session).2)).map
        fun request => (request.address, request.isAuthorized) := by
    rw [sent]
    decide
  obtain ⟨request, among, isSent⟩ := List.mem_map.mp member
  obtain ⟨isAddress, authorized⟩ := Prod.mk.inj isSent
  obtain ⟨origin, leads, scheme, _⟩ := stays request among authorized
  rw [isAddress] at leads
  have other : Origin.ofAddress? "http://o.n/c" = some ⟨"http", "o.n"⟩ := by decide +kernel
  rw [other] at leads
  cases leads
  exact absurd scheme (by decide)

end Registry

end FleetSchema
