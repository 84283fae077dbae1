/-
**Sessions and actions.**

A session is what a run can change or use up: the events so far, the file tree, the web answers and
the prompt answers still to come, the turns that workers are going to take, and the least weight of
the diagnostics that are kept; and it has the devices that a run writes to. An action changes the
session and ends in a value or in a fault.

* `Devices`: what the console refuses to show, and what the disk refuses to take;
* `emit`, `call`, `log`, `display`: add an event;
* `tell`: write a line to the console, which may refuse it;
* `attempt`: an action whose fault becomes its answer;
* `closing`: an action followed by another one in any case;
* `perform_bind`, `perform_onFault`, `perform_closing`: what composed actions come to;
* `perform_bind_cases`: the parts that a composed action has gone through;
* `perform_call`, `perform_log`, `perform_display`, `perform_tell`: what they leave behind in a
  session.
-/

import FleetSchema.Event

namespace FleetSchema

/-- A web answer. -/
structure WebAnswer where
  status : Int
  reason : String
  body : String
  deriving DecidableEq, Repr

/-- What the user answers to a prompt with boxes. -/
inductive Picking where
  /-- The boxes are left as they are. -/
  | asChecked
  /-- The answer is given in full. -/
  | given (answer : Value)
  deriving Repr

/-- What prompts understand. -/
inductive PromptSupport where
  /-- All options are known. -/
  | full
  /-- The newer options are unknown. -/
  | reduced
  /-- No prompt works. -/
  | none
  deriving DecidableEq, Repr

/-- The answers that prompts will get, and what prompts understand. -/
structure PromptDesk where
  pickings : List Picking
  confirmations : List Value
  support : PromptSupport
  deriving Repr

/-- How a file fails to be written: the number and the wording of the system, and how many bytes
are written before. -/
structure WriteFault where
  number : Nat
  wording : String
  written : Nat
  deriving DecidableEq, Repr

/-- The devices that a run writes to. -/
structure Devices where
  /-- Why the console refuses a line, if it does. -/
  screen : ConsoleLine → Option Defect
  /-- Why the file at a path cannot be written, if it cannot. -/
  disk : Path → Option WriteFault

/-- Devices that refuse nothing. -/
def Devices.willing : Devices where
  screen _ := none
  disk _ := none

/-- What a run can change or use up, and what it writes to. Where several workers could go on, a
turn says which one of them does. -/
structure Session where
  events : List Event
  tree : FileTree
  web : List (Except Fault WebAnswer)
  prompts : PromptDesk
  threshold : Nat
  turns : List Nat
  devices : Devices

/-- A session at the start of a run, with a tree of files and with devices that refuse nothing. -/
def Session.start (tree : FileTree) : Session where
  events := []
  tree := tree
  web := []
  prompts := ⟨[], [], .full⟩
  threshold := LogLevel.debug.weight
  turns := []
  devices := .willing

namespace Session

/-- A session with one more event. -/
def adding (session : Session) (event : Event) : Session :=
  { session with events := session.events ++ [event] }

/-- A session with one more diagnostic, if diagnostics of its level are kept. -/
def noting (session : Session) (record : LogRecord) : Session :=
  if session.threshold ≤ record.level.weight then session.adding (.log record) else session

/-- Why the console of a session refuses a line, if it does. -/
def refusal (session : Session) (line : ConsoleLine) : Option Defect := session.devices.screen line

/-- A session in which a line was written to the console, unless it was refused. -/
def showing (session : Session) (line : ConsoleLine) : Session :=
  match session.refusal line with
  | none => session.adding (.console line)
  | some _ => session

/-- What comes of writing a line to the console. -/
def told (session : Session) (line : ConsoleLine) : Except Fault Unit :=
  match session.refusal line with
  | none => .ok ()
  | some defect => .error (.defect defect)

end Session

/-- An action changes the session and ends in a value or in a fault. -/
abbrev Action (ε α : Type) := ExceptT ε (StateM Session) α

namespace Action

variable {ε ε' α β : Type}

/-- Run an action in a session. -/
def perform (action : Action ε α) (session : Session) : Except ε α × Session :=
  StateT.run (ExceptT.run action) session

/-- An action whose fault becomes its answer. -/
def attempt (action : Action ε α) : Action ε' (Except ε α) :=
  ExceptT.mk do
    let outcome ← ExceptT.run action
    return .ok outcome

/-- An action with another way to state its fault, which may act itself. -/
def onFault (action : Action ε α) (restate : ε → Action ε' α) : Action ε' α := do
  match ← attempt action with
  | .ok value => return value
  | .error fault => restate fault

/-- An outcome as an action. -/
def ofExcept : Except ε α → Action ε α
  | .ok value => return value
  | .error fault => throw fault

/-- An action followed by another one in any case; a fault of the second one counts. -/
def closing (action : Action ε α) (close : Action ε Unit) : Action ε α := do
  let outcome ← (attempt action : Action ε (Except ε α))
  close
  ofExcept outcome

/-- An outcome with a defect as an action. -/
def ofDefect : Except Defect α → Action Fault α
  | .ok value => return value
  | .error defect => throw (.defect defect)

/-! ### Events -/

/-- Add an event. -/
def emit (event : Event) : Action ε Unit :=
  modify fun session => { session with events := session.events ++ [event] }

/-- Call on a collaborator. -/
def call (call : Call) : Action ε Unit := emit (.call call)

/-- Write a diagnostic, if diagnostics of its level are kept. -/
def log (level : LogLevel) (logger message : String) (showsFault : Bool) : Action ε Unit := do
  if (← get).threshold ≤ level.weight then emit (.log ⟨level, logger, message, showsFault⟩)

/-- Show a line that the console does not refuse. -/
def display (line : ConsoleLine) : Action ε Unit := emit (.console line)

/-- Write a line to the console. A line that it refuses is not shown. -/
def tell (line : ConsoleLine) : Action Fault Unit := do
  match (← get).refusal line with
  | none => display line
  | some defect => throw (.defect defect)

/-- The next turn; without one it is the turn of whoever comes first. -/
def nextTurn : Action ε Nat := do
  let session ← get
  set { session with turns := session.turns.tail }
  return session.turns.headD 0

/-! ### What an action comes to -/

@[simp]
theorem perform_pure (value : α) (session : Session) :
    (pure value : Action ε α).perform session = (.ok value, session) := rfl

@[simp]
theorem perform_throw (fault : ε) (session : Session) :
    (throw fault : Action ε α).perform session = (.error fault, session) := rfl

theorem perform_bind (action : Action ε α) (next : α → Action ε β) (session : Session) :
    (action >>= next).perform session =
      match action.perform session with
      | (.ok value, reached) => (next value).perform reached
      | (.error fault, reached) => (.error fault, reached) := by
  change StateT.run (ExceptT.run (action >>= next)) session = _
  rw [ExceptT.run_bind, StateT.run_bind]
  unfold perform
  rcases StateT.run (ExceptT.run action) session with ⟨_ | _, _⟩ <;> rfl

theorem perform_bind_of_error {action : Action ε α} {session reached : Session} {fault : ε}
    (failed : action.perform session = (.error fault, reached)) (next : α → Action ε β) :
    (action >>= next).perform session = (.error fault, reached) := by
  rw [perform_bind, failed]

theorem perform_bind_of_ok {action : Action ε α} {session reached : Session} {value : α}
    (performed : action.perform session = (.ok value, reached)) (next : α → Action ε β) :
    (action >>= next).perform session = (next value).perform reached := by
  rw [perform_bind, performed]

/-- A composed action that comes to a value has gone through both parts. -/
theorem perform_bind_eq_ok {action : Action ε α} {next : α → Action ε β} {session last : Session}
    {value : β} (performed : (action >>= next).perform session = (.ok value, last)) :
    ∃ first middle, action.perform session = (.ok first, middle) ∧
      (next first).perform middle = (.ok value, last) := by
  rw [perform_bind] at performed
  generalize action.perform session = ended at performed ⊢
  rcases ended with ⟨fault | first, middle⟩
  · cases performed
  · exact ⟨first, middle, rfl, performed⟩

/-- A composed action has ended in its first part or gone through it. -/
theorem perform_bind_cases {action : Action ε α} {next : α → Action ε β} {session last : Session}
    {outcome : Except ε β} (performed : (action >>= next).perform session = (outcome, last)) :
    (∃ fault, action.perform session = (.error fault, last) ∧ outcome = .error fault) ∨
      ∃ first middle, action.perform session = (.ok first, middle) ∧
        (next first).perform middle = (outcome, last) := by
  rw [perform_bind] at performed
  generalize action.perform session = ended at performed ⊢
  rcases ended with ⟨fault | first, middle⟩
  · cases performed
    exact Or.inl ⟨fault, rfl, rfl⟩
  · exact Or.inr ⟨first, middle, rfl, performed⟩

/-- An action whose value is put in another form. -/
theorem perform_bind_pure (action : Action ε α) (form : α → β) (session : Session) :
    (action >>= fun value => pure (form value)).perform session =
      ((action.perform session).1.map form, (action.perform session).2) := by
  rw [perform_bind]
  rcases action.perform session with ⟨fault | value, reached⟩
  · rfl
  · rfl

@[simp]
theorem perform_lift (step : StateM Session α) (session : Session) :
    perform (step : Action ε α) session =
      (.ok (StateT.run step session).1, (StateT.run step session).2) := rfl

@[simp]
theorem perform_attempt (action : Action ε α) (session : Session) :
    (attempt action : Action ε' (Except ε α)).perform session =
      (.ok (action.perform session).1, (action.perform session).2) := rfl

@[simp]
theorem perform_ofExcept (outcome : Except ε α) (session : Session) :
    (ofExcept outcome).perform session = (outcome, session) := by
  cases outcome <;> rfl

@[simp]
theorem perform_call (call : Call) (session : Session) :
    (Action.call call : Action ε Unit).perform session =
      (.ok (), session.adding (.call call)) := rfl

@[simp]
theorem perform_display (line : ConsoleLine) (session : Session) :
    (display line : Action ε Unit).perform session = (.ok (), session.adding (.console line)) := rfl

@[simp]
theorem perform_tell (line : ConsoleLine) (session : Session) :
    (tell line).perform session = (session.told line, session.showing line) := by
  change (match session.refusal line with
    | none => display line
    | some defect => throw (.defect defect) : Action Fault Unit).perform session = _
  unfold Session.told Session.showing
  cases session.refusal line with
  | none => rfl
  | some defect => rfl

@[simp]
theorem perform_get (session : Session) :
    (get : Action ε Session).perform session = (.ok session, session) := rfl

@[simp]
theorem perform_set (session next : Session) :
    (set next : Action ε PUnit).perform session = (.ok ⟨⟩, next) := rfl

@[simp]
theorem perform_ofDefect (outcome : Except Defect α) (session : Session) :
    (ofDefect outcome).perform session = (outcome.mapError .defect, session) := by
  cases outcome <;> rfl

@[simp]
theorem perform_log (level : LogLevel) (logger message : String) (showsFault : Bool)
    (session : Session) :
    (log level logger message showsFault : Action ε Unit).perform session =
      (.ok (), session.noting ⟨level, logger, message, showsFault⟩) := by
  unfold log Session.noting
  rw [perform_bind, perform_get]
  dsimp only
  split
  · rfl
  · rfl

@[simp]
theorem perform_nextTurn (session : Session) :
    (nextTurn : Action ε Nat).perform session =
      (.ok (session.turns.headD 0), { session with turns := session.turns.tail }) := rfl

theorem perform_onFault (action : Action ε α) (restate : ε → Action ε' α) (session : Session) :
    (action.onFault restate).perform session =
      match action.perform session with
      | (.ok value, reached) => (.ok value, reached)
      | (.error fault, reached) => (restate fault).perform reached := by
  unfold onFault
  rw [perform_bind, perform_attempt]
  rcases action.perform session with ⟨_ | _, _⟩ <;> rfl

/-- An action that came to a value met no fault, if faults are only restated. -/
theorem perform_onFault_eq_ok {action : Action ε α} {restate : ε → Action ε' α}
    {session last : Session} {value : α}
    (restates : ∀ fault reached, ((restate fault).perform reached).1 ≠ .ok value)
    (performed : (action.onFault restate).perform session = (.ok value, last)) :
    action.perform session = (.ok value, last) := by
  rw [perform_onFault] at performed
  generalize action.perform session = ended at performed ⊢
  rcases ended with ⟨fault | first, reached⟩
  · exact absurd (congrArg Prod.fst performed) (restates fault reached)
  · cases performed
    rfl

theorem perform_closing (action : Action ε α) (close : Action ε Unit) (session : Session) :
    (action.closing close).perform session =
      match close.perform (action.perform session).2 with
      | (.ok (), reached) => ((action.perform session).1, reached)
      | (.error fault, reached) => (.error fault, reached) := by
  unfold closing
  rw [perform_bind, perform_attempt]
  dsimp only
  rw [perform_bind]
  rcases close.perform (action.perform session).2 with ⟨_ | ⟨⟩, _⟩ <;> simp

end Action

end FleetSchema
