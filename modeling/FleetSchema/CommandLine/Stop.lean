/-
**How a command ends early.**

A command ends early with an exit code, because its command line is unusable, or because of a fault
that nobody expected. What the user does wrong gives another code than what fails while running.

* `exitCode`: the code for a fault;
* `okExit`, `die`, `warnExit`, `exitFrom`: end with a message;
* `expecting`: end with the message of a stated fault;
* `behind`: what becomes of an end whose message the console may refuse.
-/

import FleetSchema.CommandLine.Arguments
import FleetSchema.Console

namespace FleetSchema

/-- How a command ends early. -/
inductive Stop where
  /-- It ends with a code, perhaps because of a fault. -/
  | exit (code : Int) (cause : Option Fault)
  /-- Its command line is unusable. -/
  | usage (fault : UsageFault)
  /-- A fault was not expected. -/
  | fault (fault : Fault)
  deriving Repr

namespace Stop

variable {α : Type}

/-- The code for what the user does wrong. -/
def usageCode : Int := 2

/-- The code for what fails while running. -/
def failureCode : Int := 1

/-- The code for a fault: a wrong filter or address is the user's. -/
def exitCode (fault : Fault) : Int :=
  if fault.isKind .filter || fault.isKind .clusterUri then usageCode else failureCode

/-- End because of a fault that nobody expected. -/
def unexpected (fault : Fault) : Action Stop α := throw (.fault fault)

/-- End because the command line is unusable. -/
def misused (fault : UsageFault) : Action Stop α := throw (.usage fault)

/-- An action of which no fault is expected. -/
def plainly (action : Action Fault α) : Action Stop α := action.onFault unexpected

/-! ### Ending with a message -/

/-- End well, with a message unless it is empty. -/
def okExit (message : String) : Action Stop α := do
  unless message.isEmpty do plainly (Console.info message)
  throw (.exit 0 none)

/-- End with the message of a failure. -/
def die (message : String) (code : Int) : Action Stop α := do
  plainly (Console.error message)
  throw (.exit code none)

/-- End with a warning. -/
def warnExit (message : String) (code : Int) : Action Stop α := do
  plainly (Console.warn message)
  throw (.exit code none)

/-- End because of a fault, with its message unless another one is given. -/
def exitFrom (fault : Fault) (message : Option String) : Action Stop α := do
  plainly (Console.error ((message.filter fun text => !text.isEmpty).getD fault.message))
  throw (.exit (exitCode fault) (some fault))

/-! ### Actions within a command -/

/-- An action whose stated faults are expected. -/
def expecting (action : Action Fault α) : Action Stop α :=
  action.onFault fun fault => if fault.isStated then exitFrom fault none else unexpected fault

/-- An outcome in place of an action whose stated faults are expected. -/
def expectingOutcome (outcome : Except Fault α) : Action Stop α :=
  expecting (Action.ofExcept outcome)

/-! ### What a message makes of an end -/

/-- An end that is told in a line: when the console has refused the line, there is the end by that
defect instead. -/
def behind (refused : Option Defect) (stop : Stop) : Stop :=
  match refused with
  | none => stop
  | some defect => .fault (.defect defect)

@[simp]
theorem perform_plainly (action : Action Fault α) (session : Session) :
    (plainly action).perform session =
      ((action.perform session).1.mapError .fault, (action.perform session).2) := by
  unfold plainly
  rw [Action.perform_onFault]
  rcases action.perform session with ⟨fault | value, reached⟩
  · rfl
  · rfl

/-- What is behind a line that is told happens when the line is not refused. -/
theorem perform_tell_bind (line : ConsoleLine) (next : Action Stop α) (session : Session) :
    (plainly (Action.tell line) >>= fun _ => next).perform session =
      match session.refusal line with
      | none => next.perform (session.adding (.console line))
      | some defect => (.error (.fault (.defect defect)), session) := by
  rw [Action.perform_bind, perform_plainly, Action.perform_tell]
  unfold Session.told Session.showing
  cases session.refusal line with
  | none => rfl
  | some defect => rfl

/-- An action that tells a line and ends. -/
theorem perform_tell_throw (line : ConsoleLine) (stop : Stop) (session : Session) :
    (plainly (Action.tell line) >>= fun _ => throw stop : Action Stop α).perform session =
      (.error (stop.behind (session.refusal line)), session.showing line) := by
  rw [perform_tell_bind]
  unfold Session.showing
  cases session.refusal line with
  | none => rfl
  | some defect => rfl

/-- An end with a message that is not empty. -/
theorem perform_okExit {message : String} (given : message.isEmpty = false) (session : Session) :
    (okExit message : Action Stop α).perform session =
      (.error ((Stop.exit 0 none).behind (session.refusal (Console.infoLine message))),
        session.showing (Console.infoLine message)) := by
  unfold okExit
  rw [given]
  exact perform_tell_throw _ _ session

theorem perform_die (message : String) (code : Int) (session : Session) :
    (die message code : Action Stop α).perform session =
      (.error ((Stop.exit code none).behind (session.refusal (Console.errorLine message))),
        session.showing (Console.errorLine message)) :=
  perform_tell_throw _ _ session

theorem perform_warnExit (message : String) (code : Int) (session : Session) :
    (warnExit message code : Action Stop α).perform session =
      (.error ((Stop.exit code none).behind (session.refusal (Console.warningLine message))),
        session.showing (Console.warningLine message)) :=
  perform_tell_throw _ _ session

theorem perform_exitFrom (fault : Fault) (session : Session) :
    (exitFrom fault none : Action Stop α).perform session =
      (.error ((Stop.exit (exitCode fault) (some fault)).behind
        (session.refusal (Console.errorLine fault.message))),
        session.showing (Console.errorLine fault.message)) :=
  perform_tell_throw _ _ session

/-! ### What is expected -/

section Expecting

variable {action : Action Fault α} {session reached : Session} {value : α} {fault : Fault}

theorem perform_expecting_of_ok (performed : action.perform session = (.ok value, reached)) :
    (expecting action).perform session = (.ok value, reached) := by
  unfold expecting
  rw [Action.perform_onFault, performed]

/-- A stated fault is told and ends the command; any other one is passed on. -/
theorem perform_expecting_of_error (failed : action.perform session = (.error fault, reached)) :
    (expecting action).perform session =
      if fault.isStated then
        (.error ((Stop.exit (exitCode fault) (some fault)).behind
          (reached.refusal (Console.errorLine fault.message))),
          reached.showing (Console.errorLine fault.message))
      else (.error (.fault fault), reached) := by
  unfold expecting
  rw [Action.perform_onFault, failed]
  dsimp only
  split
  · rw [perform_exitFrom]
  · rfl

end Expecting

end Stop

end FleetSchema
