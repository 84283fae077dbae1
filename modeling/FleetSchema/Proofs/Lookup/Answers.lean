/-
**Which answers a lookup over the web takes.**

A lookup over the web sends one request. It gives names exactly when the answer has a status that
does not stand for failure and its body is a JSON list of texts, and it gives these names in their
order. Everything else ends in a fault of the lookup. Only the statuses from 400 to 599 stand for
failure, so a list is also taken from an answer whose status does not stand for success.

* `Web.StandsForFailure`, `Web.StandsForSuccess`: what statuses stand for;
* `LookupService.namesFrom`: the names or the fault that an answer of the web comes to;
* `LookupService.Lists`: an answer lists names, and its status does not stand for failure;
* `LookupService.TakesLists`, `takes_unless_failing`: what every lookup over the web takes.
-/

import FleetSchema.Lookup
import FleetSchema.Proofs.Session.Frame

namespace FleetSchema

open FleetSchema.Action

/-! ### Statuses -/

namespace Web

/-- A status that stands for failure. -/
def StandsForFailure (status : Int) : Prop := 400 ≤ status ∧ status < 600

/-- A status that stands for success. -/
def StandsForSuccess (status : Int) : Prop := 200 ≤ status ∧ status < 300

instance (status : Int) : Decidable (StandsForFailure status) :=
  inferInstanceAs (Decidable (400 ≤ status ∧ status < 600))

theorem StandsForSuccess.not_failure {status : Int} (succeeds : StandsForSuccess status) :
    ¬ StandsForFailure status := by
  rintro ⟨low, _⟩
  have high := succeeds.2
  omega

theorem checkStatus_eq (address : String) (answer : WebAnswer) : checkStatus address answer =
    if StandsForFailure answer.status then
      .error (.defect (.badStatus answer.status answer.reason address))
    else .ok () := by
  unfold checkStatus
  by_cases fails : StandsForFailure answer.status
  · rw [if_pos fails, if_pos]
    simpa [StandsForFailure] using fails
  · rw [if_neg fails, if_neg]
    simpa [StandsForFailure] using fails

end Web

namespace LookupService

/-! ### Names in a value -/

theorem textsOf?_eq_some_iff {items : List Value} {names : List String} :
    TargetFilter.textsOf? items = some names ↔ items = names.map .text := by
  induction items generalizing names with
  | nil =>
    cases names with
    | nil => simp [TargetFilter.textsOf?]
    | cons name others => simp [TargetFilter.textsOf?]
  | cons item rest ih =>
    cases item with
    | text text =>
      cases names with
      | nil => simp [TargetFilter.textsOf?]
      | cons name others =>
        rw [TargetFilter.textsOf?, Option.map_eq_some_iff, List.map_cons, List.cons.injEq,
          Value.text.injEq]
        constructor
        · rintro ⟨names, isNames, ⟨⟩⟩
          exact ⟨rfl, ih.mp isNames⟩
        · rintro ⟨rfl, isRest⟩
          exact ⟨others, ih.mpr isRest, rfl⟩
    | null | bool | int | float | path | list | object =>
      cases names with
      | nil => simp [TargetFilter.textsOf?]
      | cons name others => simp [TargetFilter.textsOf?]

/-- The value that lists names. -/
def listed (names : List String) : Value := .list (names.map .text)

/-- A value lists names exactly when it is the list of their texts. -/
theorem names?_eq_some_iff {value : Value} {names : List String} :
    names? value = some names ↔ value = listed names := by
  unfold names? listed
  cases value with
  | list items => simp [textsOf?_eq_some_iff]
  | null | bool | int | float | text | path | object => simp

/-- A body lists names when names can be taken from what it holds. -/
theorem parse_eq_listed {body : String} {names : List String}
    (reads : (Json.parse body).toOption.bind names? = some names) :
    Json.parse body = .ok (listed names) := by
  cases parsed : Json.parse body with
  | error fault =>
    rw [parsed] at reads
    cases reads
  | ok value =>
    rw [parsed] at reads
    exact congrArg Except.ok (names?_eq_some_iff.mp reads)

/-! ### Names in an answer -/

/-- The value that an answer of the web comes to. -/
def valueFrom (endpoint : String) (outcome : Except Fault WebAnswer) : Except Fault Value := do
  let answer ← outcome
  Web.checkStatus endpoint answer
  Web.readJson answer

/-- The names or the fault that an answer of the web comes to. -/
def namesFrom (endpoint cluster : String) (outcome : Except Fault WebAnswer) :
    Except Fault (List String) :=
  match valueFrom endpoint outcome with
  | .error fault => .error (restate endpoint cluster fault)
  | .ok value =>
    match names? value with
    | none => .error (.lookupNames endpoint)
    | some names => .ok names

/-- An answer lists names, and its status does not stand for failure. -/
def Lists (outcome : Except Fault WebAnswer) (names : List String) : Prop :=
  ∃ answer, outcome = .ok answer ∧ ¬ Web.StandsForFailure answer.status ∧
    Json.parse answer.body = .ok (listed names)

section Answers

variable {patience value : Value} {logger endpoint cluster label : String} {names : List String}
  {outcome : Except Fault WebAnswer} {rest : List (Except Fault WebAnswer)} {fault : Fault}
  {session : Session}

theorem valueFrom_eq_ok_iff (endpoint : String) : valueFrom endpoint outcome = .ok value ↔
    ∃ answer, outcome = .ok answer ∧ ¬ Web.StandsForFailure answer.status ∧
      Json.parse answer.body = .ok value := by
  cases outcome with
  | error fault =>
    constructor
    · rintro ⟨⟩
    · rintro ⟨_, ⟨⟩, _⟩
  | ok answer =>
    have only : (∃ other, (.ok answer : Except Fault WebAnswer) = .ok other ∧
        ¬ Web.StandsForFailure other.status ∧ Json.parse other.body = .ok value) ↔
          ¬ Web.StandsForFailure answer.status ∧ Json.parse answer.body = .ok value :=
      ⟨by rintro ⟨_, ⟨⟩, both⟩; exact both, fun both => ⟨answer, rfl, both⟩⟩
    rw [only, ← Web.readJson_eq_ok_iff]
    show (Web.checkStatus endpoint answer).bind (fun _ => Web.readJson answer) = .ok value ↔ _
    rw [Web.checkStatus_eq]
    by_cases fails : Web.StandsForFailure answer.status
    · rw [if_pos fails]
      constructor
      · rintro ⟨⟩
      · exact fun both => absurd fails both.1
    · rw [if_neg fails]
      exact ⟨fun read => ⟨fails, read⟩, fun both => both.2⟩

/-- What stands in the way of a value is a fault of the transport or one about a value. -/
theorem families_of_valueFrom
    (transported : ∀ fault, outcome = .error fault → fault.families.transport = true)
    (failed : valueFrom endpoint outcome = .error fault) :
    fault.families.transport = true ∨ fault.families.value = true := by
  cases outcome with
  | error cause =>
    cases failed
    exact Or.inl (transported _ rfl)
  | ok answer =>
    have failed : (Web.checkStatus endpoint answer).bind (fun _ => Web.readJson answer) =
        .error fault := failed
    cases checked : Web.checkStatus endpoint answer with
    | error refusal =>
      rw [checked] at failed
      cases failed
      exact Or.inl (Web.families_of_checkStatus checked)
    | ok _ =>
      rw [checked] at failed
      exact Or.inr (Web.families_of_readJson failed)

/-- An answer comes to names exactly when it lists them. -/
theorem namesFrom_eq_ok_iff : namesFrom endpoint cluster outcome = .ok names ↔
    Lists outcome names := by
  unfold namesFrom Lists
  rw [← valueFrom_eq_ok_iff endpoint]
  cases valueFrom endpoint outcome with
  | error fault =>
    constructor
    · rintro ⟨⟩
    · rintro ⟨⟩
  | ok value =>
    dsimp only
    rw [Except.ok.injEq, ← names?_eq_some_iff]
    cases names? value with
    | none =>
      constructor
      · rintro ⟨⟩
      · rintro ⟨⟩
    | some others => rw [Except.ok.injEq, Option.some.injEq]

/-- Otherwise an answer comes to a fault of the lookup. -/
theorem isKind_of_namesFrom
    (transported : ∀ fault, outcome = .error fault → fault.families.transport = true)
    (failed : namesFrom endpoint cluster outcome = .error fault) : fault.isKind .lookup = true := by
  unfold namesFrom at failed
  split at failed
  · rename_i cause isCause
    cases failed
    unfold restate
    rcases families_of_valueFrom transported isCause with transport | value
    · rw [if_pos transport]
      rfl
    · rw [if_pos value]
      split
      · rfl
      · rfl
  · split at failed
    · cases failed
      rfl
    · cases failed

/-! ### Lookups -/

/-- The session in which a request took an answer. -/
def asked (patience : Value) (endpoint cluster label : String) (session : Session)
    (rest : List (Except Fault WebAnswer)) : Session :=
  { session.adding (.call (.fetched (request patience endpoint cluster label))) with web := rest }

theorem perform_ask (served : session.web = outcome :: rest) :
    (ask patience endpoint cluster label).perform session =
      (valueFrom endpoint outcome, asked patience endpoint cluster label session rest) := by
  unfold ask asked
  rw [perform_bind, Web.perform_fetch, served]
  cases outcome with
  | error fault => rfl
  | ok answer =>
    dsimp only
    rw [perform_bind, perform_ofExcept]
    show _ = ((Web.checkStatus endpoint answer).bind fun _ => Web.readJson answer, _)
    cases Web.checkStatus endpoint answer with
    | error fault => rfl
    | ok _ => exact perform_ofExcept _ _

/-- **What a lookup over the web comes to**: the names that the next answer comes to, after one
request, and one diagnostic more if there are names. -/
theorem perform_overWeb (patience : Value) (logger endpoint cluster label : String)
    (served : session.web = outcome :: rest) :
    ∃ records, ((overWeb patience logger).lookup endpoint cluster label).perform session =
      ((namesFrom endpoint cluster outcome).map listed,
        (asked patience endpoint cluster label session rest).notingAll records) := by
  unfold overWeb namesOverWeb namesFrom
  dsimp only
  rw [perform_bind_pure, perform_bind, perform_onFault, perform_ask served]
  cases valueFrom endpoint outcome with
  | error fault => exact ⟨[], rfl⟩
  | ok value =>
    dsimp only
    cases names? value with
    | none => exact ⟨[], rfl⟩
    | some names =>
      dsimp only
      rw [perform_bind, perform_log]
      exact ⟨[_], rfl⟩

end Answers

/-! ### Every answer -/

/-- What a lookup takes from what the web answers: lists of names and nothing else. Among the
statuses for success and those for failure, the ones for success are what it takes. -/
structure TakesLists (outcome : Except Fault WebAnswer) (ended : Except Fault Value) : Prop where
  takes_iff : ∀ value, ended = .ok value ↔ ∃ names, Lists outcome names ∧ value = listed names
  refuses : ∀ fault, ended = .error fault → fault.isKind .lookup = true
  succeeds_iff : ∀ answer, outcome = .ok answer →
    Web.StandsForSuccess answer.status ∨ Web.StandsForFailure answer.status →
      ((∃ value, ended = .ok value) ↔
        Web.StandsForSuccess answer.status ∧ ∃ names, Json.parse answer.body = .ok (listed names))

section Taking

variable {endpoint cluster : String} {outcome : Except Fault WebAnswer}

theorem map_listed_eq_ok_iff {found : Except Fault (List String)} {value : Value} :
    found.map listed = .ok value ↔ ∃ names, found = .ok names ∧ value = listed names := by
  cases found with
  | error fault =>
    constructor
    · rintro ⟨⟩
    · rintro ⟨_, ⟨⟩, _⟩
  | ok names =>
    constructor
    · rintro ⟨⟩
      exact ⟨names, rfl, rfl⟩
    · rintro ⟨_, ⟨⟩, rfl⟩
      rfl

theorem takesLists_namesFrom (endpoint cluster : String)
    (transported : ∀ fault, outcome = .error fault → fault.families.transport = true) :
    TakesLists outcome ((namesFrom endpoint cluster outcome).map listed) := by
  have takes_iff (value : Value) : (namesFrom endpoint cluster outcome).map listed = .ok value ↔
      ∃ names, Lists outcome names ∧ value = listed names := by
    simp only [map_listed_eq_ok_iff, namesFrom_eq_ok_iff]
  refine ⟨takes_iff, ?_, ?_⟩
  · intro fault failed
    cases named : namesFrom endpoint cluster outcome with
    | error cause =>
      rw [named] at failed
      cases failed
      exact isKind_of_namesFrom transported named
    | ok names =>
      rw [named] at failed
      cases failed
  · rintro answer rfl settled
    constructor
    · rintro ⟨value, taken⟩
      obtain ⟨names, ⟨_, ⟨⟩, lasting, parsed⟩, _⟩ := (takes_iff value).mp taken
      exact ⟨settled.resolve_right lasting, names, parsed⟩
    · rintro ⟨succeeds, names, parsed⟩
      exact ⟨_, (takes_iff _).mpr ⟨names, ⟨answer, rfl, succeeds.not_failure, parsed⟩, rfl⟩⟩

/-- **A lookup over the web takes lists of names, unless the status stands for failure.** For every
fault of the transport and every answer, it sends one request and uses up one answer. It gives names
exactly when the body of the answer is a JSON list of texts and the status is none from 400 to 599,
and it gives exactly these. In every other case it fails with a fault of the lookup. -/
theorem takes_unless_failing (patience : Value) (logger endpoint cluster label : String)
    (session : Session) (outcome : Except Fault WebAnswer) (rest : List (Except Fault WebAnswer))
    (served : session.web = outcome :: rest)
    (transported : ∀ fault, outcome = .error fault → fault.families.transport = true) :
    let ended := ((overWeb patience logger).lookup endpoint cluster label).perform session
    TakesLists outcome ended.1 ∧
      callsIn (session.since ended.2) = [.fetched (request patience endpoint cluster label)] ∧
      ended.2.web = rest := by
  intro ended
  obtain ⟨records, performed⟩ := perform_overWeb patience logger endpoint cluster label served
  have isEnded : ended = ((namesFrom endpoint cluster outcome).map listed,
      (asked patience endpoint cluster label session rest).notingAll records) := performed
  rw [isEnded]
  refine ⟨takesLists_namesFrom endpoint cluster transported, ?_, ?_⟩
  · have requested : session.Adds [.fetched (request patience endpoint cluster label)] []
        (asked patience endpoint cluster label session rest) := .of_events rfl rfl rfl rfl
    exact (requested.trans (Session.adds_notingAll _ records)).calls
  · exact Session.web_notingAll _ records

/-- A list of two names from an answer with a status for success. -/
theorem takes_unless_failing_two_names :
    let answer : WebAnswer := ⟨200, "OK", "[\"sales\", \"stock\"]"⟩
    let session : Session := { Session.start ⟨[], []⟩ with web := [.ok answer] }
    let ended := ((overWeb Web.patience defaultLogger).lookup "https://l.k" "f" "p").perform session
    ended.1 = .ok (.list [.text "sales", .text "stock"]) ∧
      callsIn (session.since ended.2) =
        [.fetched (request Web.patience "https://l.k" "f" "p")] := by
  intro answer session ended
  have parsed : Json.parse answer.body = .ok (listed ["sales", "stock"]) :=
    parse_eq_listed (by decide +kernel)
  obtain ⟨takes, calls, _⟩ := takes_unless_failing Web.patience defaultLogger "https://l.k" "f" "p"
    session (.ok answer) [] rfl (by rintro _ ⟨⟩)
  exact ⟨(takes.takes_iff _).mpr ⟨_, ⟨answer, rfl, by decide, parsed⟩, rfl⟩, calls⟩

/-- An answer that tells of several choices stands for no success, and its list is taken. -/
theorem takes_multiple_choices :
    let answer : WebAnswer := ⟨300, "Multiple Choices", "[\"a\"]"⟩
    let session : Session := { Session.start ⟨[], []⟩ with web := [.ok answer] }
    let ended := ((overWeb Web.patience defaultLogger).lookup "https://l.k" "f" "p").perform session
    ¬ Web.StandsForSuccess answer.status ∧ ended.1 = .ok (.list [.text "a"]) := by
  intro answer session ended
  have parsed : Json.parse answer.body = .ok (listed ["a"]) :=
    parse_eq_listed (by decide +kernel)
  have named : namesFrom "https://l.k" "f" (.ok answer) = .ok ["a"] :=
    namesFrom_eq_ok_iff.mpr ⟨answer, rfl, by decide, parsed⟩
  have served : session.web = [.ok answer] := rfl
  obtain ⟨records, performed⟩ :=
    perform_overWeb Web.patience defaultLogger "https://l.k" "f" "p" served
  have isEnded : ended.1 = (namesFrom "https://l.k" "f" (.ok answer)).map listed :=
    congrArg Prod.fst performed
  refine ⟨fun succeeds => absurd succeeds.2 (by decide), ?_⟩
  rw [isEnded, named]
  rfl

end Taking

end LookupService

end FleetSchema
