/-
**Web requests.**

A web request takes the next answer that the web has for the session. An answer whose status stands
for failure is told apart from a request that gets no answer.

* `fetch`: send a request;
* `checkStatus`: refuse an answer whose status stands for failure;
* `readJson`: the value that an answer holds.
-/

import FleetSchema.Session

namespace FleetSchema.Web

/-- Send a request and take the next answer. -/
def fetch (request : WebRequest) : Action Fault WebAnswer := do
  Action.call (.fetched request)
  let session ← get
  match session.web with
  | [] => throw (.defect .noAnswerLeft)
  | outcome :: rest =>
    set { session with web := rest }
    Action.ofExcept outcome

theorem perform_fetch (request : WebRequest) (session : Session) :
    (fetch request).perform session =
      match session.web with
      | [] => (.error (.defect .noAnswerLeft), session.adding (.call (.fetched request)))
      | outcome :: rest =>
        (outcome, { session.adding (.call (.fetched request)) with web := rest }) := by
  unfold fetch
  rw [Action.perform_bind, Action.perform_call]
  dsimp only
  rw [Action.perform_bind, Action.perform_get]
  dsimp only [Session.adding]
  cases session.web with
  | nil => rfl
  | cons outcome rest =>
    dsimp only
    rw [Action.perform_bind, Action.perform_set]
    dsimp only
    rw [Action.perform_ofExcept]

/-- Refuse an answer whose status stands for failure. -/
def checkStatus (address : String) (answer : WebAnswer) : Except Fault Unit :=
  if 400 ≤ answer.status && answer.status < 600 then
    .error (.defect (.badStatus answer.status answer.reason address))
  else .ok ()

/-- The value that an answer holds as JSON. A body that nests deeper than the program can follow has
none: the web gives the fault of the program in place of such an answer. -/
def readJson (answer : WebAnswer) : Except Fault Value :=
  (Json.parse answer.body).mapError fun fault => .defect (.notJson fault)

section Answers

variable {address : String} {answer : WebAnswer} {fault : Fault}

/-- An answer is refused for its status by a fault of the transport. -/
theorem families_of_checkStatus (refused : checkStatus address answer = .error fault) :
    fault.families.transport = true := by
  unfold checkStatus at refused
  split at refused
  · cases refused
    rfl
  · cases refused

theorem readJson_eq_ok_iff {value : Value} :
    readJson answer = .ok value ↔ Json.parse answer.body = .ok value := by
  unfold readJson
  cases Json.parse answer.body with
  | ok other =>
    constructor
    · rintro ⟨⟩
      rfl
    · rintro ⟨⟩
      rfl
  | error fault =>
    constructor
    · rintro ⟨⟩
    · rintro ⟨⟩

/-- A body that is no JSON gives a fault about a value. -/
theorem families_of_readJson (unread : readJson answer = .error fault) :
    fault.families.value = true := by
  unfold readJson at unread
  cases parsed : Json.parse answer.body with
  | ok value =>
    rw [parsed] at unread
    cases unread
  | error cause =>
    rw [parsed] at unread
    cases unread
    cases cause with
    | malformed | integerTooLong => rfl

end Answers

/-- How long a request waits unless it is told otherwise, in seconds. -/
def patience : Value := .float (.ofInt 30)

end FleetSchema.Web
