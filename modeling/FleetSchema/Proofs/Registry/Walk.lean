/-
**Walking through the pages of a registry.**

A listing asks for page after page. Each request takes one answer of the web, and a token before
that when the registry has a credential. What the answer comes to is the end of the listing, or the
names on a page and perhaps the address of the next one.

* `callsFor`, `visited`: the calls of one request, and the session behind it;
* `turn`: what the answer to one request comes to;
* `Walks`: a listing, request by request;
* `perform_groups_iff`: a registry lists its groups by such a walk.
-/

import FleetSchema.Proofs.Session.Traces
import FleetSchema.Registry

namespace FleetSchema

open FleetSchema.Action

/-- A page that is asked for: its address, and the parameters that go with it. -/
structure Visit where
  address : String
  parameters : Option (List (String × String))
  deriving DecidableEq, Repr

namespace Registry

variable {registry : Registry} {visit : Visit} {session last : Session}
  {ended : Except Fault (List String)}

/-! ### One request -/

/-- The fault of asking for a token, after all that happened before. -/
def tokenFault? (registry : Registry) (past : List Event) : Option Fault :=
  match registry.credential with
  | none => none
  | some credential =>
    match credential past with
    | .ok _ => none
    | .error fault => some fault

/-- The header with the token that is given, after all that happened before. -/
def authorization (registry : Registry) (past : List Event) : List (String × String) :=
  match registry.credential with
  | none => []
  | some credential =>
    match credential past with
    | .ok token => [("Authorization", "Bearer " ++ token)]
    | .error _ => []

/-- The calls on a credential before a request. -/
def tokenCalls (registry : Registry) : List Call :=
  if registry.credential.isSome then [.tokenAsked [scope]] else []

/-- The headers of a request. -/
def headersFor (registry : Registry) (past : List Event) : List (String × String) :=
  ("Accept", "application/json") :: registry.authorization past

/-- The request for a page. -/
def requestFor (registry : Registry) (past : List Event) (visit : Visit) : WebRequest :=
  ⟨visit.address, visit.parameters, some (registry.headersFor past), registry.patience⟩

/-- The calls of asking for a page: on the credential, if there is one, and on the web. -/
def callsFor (registry : Registry) (past : List Event) (visit : Visit) : List Call :=
  registry.tokenCalls ++ [.fetched (registry.requestFor past visit)]

/-- The session in which a page was asked for, with the answers that are left of the web. -/
def visited (registry : Registry) (session : Session) (visit : Visit)
    (rest : List (Except Fault WebAnswer)) : Session :=
  { session.calling (registry.callsFor session.events visit) with web := rest }

theorem perform_headers (registry : Registry) (session : Session) :
    registry.headers.perform session =
      (match registry.tokenFault? session.events with
        | none => .ok (registry.headersFor session.events)
        | some fault => .error (.registryToken registry.endpoint fault),
        session.calling registry.tokenCalls) := by
  unfold headers tokenFault? headersFor authorization tokenCalls
  cases registry.credential with
  | none =>
    rw [Option.isSome_none, if_neg Bool.false_ne_true, session.calling_nil]
    rfl
  | some credential =>
    dsimp only
    rw [perform_bind, perform_get]
    dsimp only
    rw [perform_bind, perform_call]
    cases credential session.events with
    | ok token => rfl
    | error fault => rfl

/-- What an answer holds. -/
def valueIn (registry : Registry) (answer : WebAnswer) : Except Fault Value :=
  if answer.status != 200 then
    .error (.registryStatus registry.endpoint answer.status
      (String.ofList (answer.body.toList.take shownCharacters)))
  else Web.readJson answer

theorem perform_ask (registry : Registry) (visit : Visit) (session : Session) :
    (registry.ask visit.address visit.parameters).perform session =
      match registry.tokenFault? session.events, session.web with
      | some fault, _ =>
        (.error (.registryToken registry.endpoint fault), session.calling registry.tokenCalls)
      | none, [] =>
        (.error (.defect .noAnswerLeft), session.calling (registry.callsFor session.events visit))
      | none, outcome :: rest =>
        (outcome.bind registry.valueIn, registry.visited session visit rest) := by
  have asked : (session.calling registry.tokenCalls).adding
      (.call (.fetched (registry.requestFor session.events visit))) =
        session.calling (registry.callsFor session.events visit) :=
    session.calling_calling registry.tokenCalls [_]
  have sameWeb : (session.calling registry.tokenCalls).web = session.web := rfl
  unfold requestFor at asked
  unfold ask
  rw [perform_bind, perform_headers]
  cases registry.tokenFault? session.events with
  | some fault => rfl
  | none =>
    dsimp only
    rw [perform_bind, Web.perform_fetch, sameWeb, asked]
    cases session.web with
    | nil => rfl
    | cons outcome rest =>
      cases outcome with
      | error fault => rfl
      | ok answer =>
        dsimp only [Except.bind]
        unfold valueIn
        by_cases refused : (answer.status != 200) = true
        · rw [if_pos refused, if_pos refused]
          rfl
        · rw [if_neg refused, if_neg refused]
          exact perform_ofExcept _ _

/-- The fields of the page that an answer shows. -/
def fieldsOf (registry : Registry) (outcome : Except Fault WebAnswer) :
    Except Fault (List (String × Value)) :=
  match outcome.bind registry.valueIn with
  | .ok (.object fields) => .ok fields
  | .ok _ => .error (.registryPayload registry.endpoint)
  | .error fault => .error (registry.restate fault)

theorem perform_page (registry : Registry) (visit : Visit) (session : Session) :
    (registry.page visit.address visit.parameters).perform session =
      match registry.tokenFault? session.events, session.web with
      | some fault, _ =>
        (.error (.registryToken registry.endpoint fault), session.calling registry.tokenCalls)
      | none, [] =>
        (.error (.registryRequest registry.endpoint (.defect .noAnswerLeft)),
          session.calling (registry.callsFor session.events visit))
      | none, outcome :: rest =>
        (registry.fieldsOf outcome, registry.visited session visit rest) := by
  unfold page
  rw [perform_bind, perform_onFault, perform_ask]
  cases registry.tokenFault? session.events with
  | some fault => rfl
  | none =>
    cases session.web with
    | nil => rfl
    | cons outcome rest =>
      dsimp only
      unfold fieldsOf
      cases outcome.bind registry.valueIn with
      | error fault => rfl
      | ok value =>
        cases value with
        | object fields => rfl
        | null | bool | int | float | text | path | list => rfl

/-- What the fields of a page tell: the names on it, and the address of the next one. -/
def tell (registry : Registry) (fields : List (String × Value)) :
    Except Defect (List String × Option String) :=
  match groupsOn fields, registry.nextAddress fields with
  | .error defect, _ => .error defect
  | .ok _, .error defect => .error defect
  | .ok names, .ok next => .ok (names, next)

/-- What the answer to a request comes to. -/
def turn (registry : Registry) (outcome : Except Fault WebAnswer) :
    Except Fault (List String × Option String) :=
  match registry.fieldsOf outcome with
  | .error fault => .error fault
  | .ok fields => (registry.tell fields).mapError .defect

/-! ### A whole walk -/

/-- A listing from a page on, request by request: how it ends, and the session behind it. -/
inductive Walks (registry : Registry) :
    Visit → Session → Except Fault (List String) → Session → Prop
  /-- No token is given for the request. -/
  | untokened {visit : Visit} {session : Session} {fault : Fault}
      (refuses : registry.tokenFault? session.events = some fault) :
      Walks registry visit session (.error (.registryToken registry.endpoint fault))
        (session.calling registry.tokenCalls)
  /-- The web has no answer left. -/
  | unanswered {visit : Visit} {session : Session}
      (given : registry.tokenFault? session.events = none) (left : session.web = []) :
      Walks registry visit session
        (.error (.registryRequest registry.endpoint (.defect .noAnswerLeft)))
        (session.calling (registry.callsFor session.events visit))
  /-- The answer is no page, or a page that cannot be used. -/
  | failed {visit : Visit} {session : Session} {outcome : Except Fault WebAnswer}
      {rest : List (Except Fault WebAnswer)} {fault : Fault}
      (given : registry.tokenFault? session.events = none) (left : session.web = outcome :: rest)
      (fails : registry.turn outcome = .error fault) :
      Walks registry visit session (.error fault) (registry.visited session visit rest)
  /-- The answer is the last page. -/
  | last {visit : Visit} {session : Session} {outcome : Except Fault WebAnswer}
      {rest : List (Except Fault WebAnswer)} {names : List String}
      (given : registry.tokenFault? session.events = none) (left : session.web = outcome :: rest)
      (ends : registry.turn outcome = .ok (names, none)) :
      Walks registry visit session (.ok names) (registry.visited session visit rest)
  /-- The answer is a page with another one behind it. -/
  | linked {visit : Visit} {session last : Session} {outcome : Except Fault WebAnswer}
      {rest : List (Except Fault WebAnswer)} {names : List String} {next : String}
      {ended : Except Fault (List String)}
      (given : registry.tokenFault? session.events = none) (left : session.web = outcome :: rest)
      (leads : registry.turn outcome = .ok (names, some next))
      (behind : Walks registry ⟨next, none⟩ (registry.visited session visit rest) ended last) :
      Walks registry visit session (ended.map (names ++ ·)) last

/-- Asking for a page, and for those behind it. -/
theorem perform_groupsFrom_succ (registry : Registry) (visit : Visit) (fuel : Nat)
    (session : Session) :
    (registry.groupsFrom visit.address visit.parameters (fuel + 1)).perform session =
      match registry.tokenFault? session.events, session.web with
      | some fault, _ =>
        (.error (.registryToken registry.endpoint fault), session.calling registry.tokenCalls)
      | none, [] =>
        (.error (.registryRequest registry.endpoint (.defect .noAnswerLeft)),
          session.calling (registry.callsFor session.events visit))
      | none, outcome :: rest =>
        match registry.turn outcome with
        | .error fault => (.error fault, registry.visited session visit rest)
        | .ok (names, none) => (.ok names, registry.visited session visit rest)
        | .ok (names, some next) =>
          let behind := (registry.groupsFrom next none fuel).perform
            (registry.visited session visit rest)
          (behind.1.map (names ++ ·), behind.2) := by
  rw [groupsFrom, perform_bind, perform_page]
  cases registry.tokenFault? session.events with
  | some fault => rfl
  | none =>
    cases session.web with
    | nil => rfl
    | cons outcome rest =>
      dsimp only
      unfold turn
      cases registry.fieldsOf outcome with
      | error fault => rfl
      | ok fields =>
        dsimp only
        rw [perform_bind, perform_ofDefect]
        unfold tell
        cases groupsOn fields with
        | error defect => rfl
        | ok names =>
          dsimp only [Except.mapError]
          rw [perform_bind, perform_ofDefect]
          cases registry.nextAddress fields with
          | error defect => rfl
          | ok next =>
            cases next with
            | none => rfl
            | some address => exact perform_bind_pure _ _ _

/-- A listing goes by a walk when it is allowed more requests than the web has answers. -/
theorem walks_groupsFrom (registry : Registry) (visit : Visit) {fuel : Nat}
    (enough : session.web.length < fuel) :
    Walks registry visit session
      ((registry.groupsFrom visit.address visit.parameters fuel).perform session).1
      ((registry.groupsFrom visit.address visit.parameters fuel).perform session).2 := by
  induction fuel generalizing visit session with
  | zero => exact absurd enough (Nat.not_lt_zero _)
  | succ fuel ih =>
    rw [perform_groupsFrom_succ]
    cases given : registry.tokenFault? session.events with
    | some fault => exact .untokened given
    | none =>
      cases left : session.web with
      | nil => exact .unanswered given left
      | cons outcome rest =>
        dsimp only
        cases turned : registry.turn outcome with
        | error fault => exact .failed given left turned
        | ok told =>
          obtain ⟨names, _ | next⟩ := told
          · exact .last given left turned
          · rw [left] at enough
            exact .linked given left turned (ih ⟨next, none⟩ (Nat.lt_of_succ_lt_succ enough))

/-- A walk is what a listing goes by. -/
theorem Walks.perform {fuel : Nat} (walks : registry.Walks visit session ended last)
    (enough : session.web.length ≤ fuel) :
    (registry.groupsFrom visit.address visit.parameters (fuel + 1)).perform session =
      (ended, last) := by
  induction walks generalizing fuel with
  | untokened refuses => rw [perform_groupsFrom_succ, refuses]
  | unanswered given left => rw [perform_groupsFrom_succ, given, left]
  | failed given left fails => simp only [perform_groupsFrom_succ, given, left, fails]
  | last given left ends => simp only [perform_groupsFrom_succ, given, left, ends]
  | linked given left leads _ ih =>
    rw [left] at enough
    obtain ⟨more, rfl⟩ := Nat.exists_eq_add_one.mpr (Nat.lt_of_lt_of_le (Nat.succ_pos _) enough)
    have behind := ih (Nat.le_of_succ_le_succ enough)
    simp only [perform_groupsFrom_succ, given, left, leads, behind]

/-- The first page that is asked for. -/
def firstVisit (registry : Registry) : Visit :=
  ⟨registry.firstAddress, some [("api-version", interfaceVersion)]⟩

/-- **A registry lists its groups by a walk from its first page.** -/
theorem perform_groups_iff :
    registry.groups.perform session = (ended, last) ↔
      registry.Walks registry.firstVisit session ended last := by
  have whole : registry.groups.perform session =
      (registry.groupsFrom registry.firstVisit.address registry.firstVisit.parameters
        (session.web.length + 1)).perform session := rfl
  constructor
  · intro performed
    have walks := walks_groupsFrom registry registry.firstVisit
      (Nat.lt_succ_self session.web.length)
    rw [← whole, performed] at walks
    exact walks
  · intro walks
    rw [whole]
    exact walks.perform (Nat.le_refl _)

end Registry

end FleetSchema
