/-
**Whose events an action leaves behind.**

An action adds events to a session and takes none away. When collaborators take part in it, their
events are theirs and not to be foreseen; what can be told is of which class all events are that the
action leaves behind, as long as those of its collaborators are of this class.

* `Session.AddsOnly`: a session comes out of another one by events of a class only;
* `Action.AddsOnly`: an action leads to such sessions only, and so do actions composed of such
  actions;
* `QueryClient.AddsOnly`, `LookupService.AddsOnly`: so do all steps of a collaborator.
-/

import FleetSchema.Lookup
import FleetSchema.Proofs.Session.Frame

namespace FleetSchema

open FleetSchema.Action

/-- A session comes out of another one by events of a class only. -/
def Session.AddsOnly (own : Event → Prop) (first last : Session) : Prop :=
  ∃ added, last.events = first.events ++ added ∧ ∀ event ∈ added, own event

section Sessions

variable {own : Event → Prop} {first middle last : Session}

theorem Session.AddsOnly.refl (session : Session) : session.AddsOnly own session :=
  ⟨[], (List.append_nil _).symm, fun _ inside => absurd inside List.not_mem_nil⟩

theorem Session.AddsOnly.mono {others : Event → Prop} (adds : first.AddsOnly own last)
    (sub : ∀ event, own event → others event) : first.AddsOnly others last := by
  obtain ⟨added, events, areOwn⟩ := adds
  exact ⟨added, events, fun event inside => sub event (areOwn event inside)⟩

theorem Session.AddsOnly.trans (before : first.AddsOnly own middle)
    (after : middle.AddsOnly own last) : first.AddsOnly own last := by
  obtain ⟨added, events, areOwn⟩ := before
  obtain ⟨more, laterEvents, moreOwn⟩ := after
  refine ⟨added ++ more, by rw [laterEvents, events, List.append_assoc], fun event inside => ?_⟩
  obtain earlier | later := List.mem_append.mp inside
  · exact areOwn event earlier
  · exact moreOwn event later

theorem Session.addsOnly_adding (session : Session) {event : Event} (isOwn : own event) :
    session.AddsOnly own (session.adding event) := by
  refine ⟨[event], rfl, fun other inside => ?_⟩
  rwa [List.mem_singleton.mp inside]

theorem Session.addsOnly_noting (session : Session) {record : LogRecord}
    (isOwn : own (.log record)) : session.AddsOnly own (session.noting record) := by
  unfold Session.noting
  split
  · exact session.addsOnly_adding isOwn
  · exact .refl session

/-- The events behind those of the earlier session are of the class. -/
theorem Session.AddsOnly.of_mem (adds : first.AddsOnly own last) {event : Event}
    (inside : event ∈ first.since last) : own event := by
  obtain ⟨added, events, areOwn⟩ := adds
  rw [Session.since_eq events] at inside
  exact areOwn event inside

end Sessions

namespace Action

variable {ε ε' α β : Type} {own : Event → Prop}

/-- An action leaves only events of a class behind, whenever it is performed. -/
def AddsOnly (own : Event → Prop) (action : Action ε α) : Prop :=
  ∀ session : Session, session.AddsOnly own (action.perform session).2

theorem AddsOnly.mono {others : Event → Prop} {action : Action ε α} (adds : action.AddsOnly own)
    (sub : ∀ event, own event → others event) : action.AddsOnly others :=
  fun session => (adds session).mono sub

theorem addsOnly_pure (value : α) : (pure value : Action ε α).AddsOnly own := Session.AddsOnly.refl

theorem addsOnly_throw (fault : ε) : (throw fault : Action ε α).AddsOnly own :=
  Session.AddsOnly.refl

theorem addsOnly_ofExcept (outcome : Except ε α) : (ofExcept outcome).AddsOnly own := by
  intro session
  rw [perform_ofExcept]
  exact .refl session

theorem addsOnly_ofDefect (outcome : Except Defect α) : (ofDefect outcome).AddsOnly own := by
  intro session
  rw [perform_ofDefect]
  exact .refl session

theorem addsOnly_log {level : LogLevel} {logger message : String} {showsFault : Bool}
    (isOwn : own (.log ⟨level, logger, message, showsFault⟩)) :
    (log level logger message showsFault : Action ε Unit).AddsOnly own := by
  intro session
  rw [perform_log]
  exact session.addsOnly_noting isOwn

theorem addsOnly_call {made : Call} (isOwn : own (.call made)) :
    (Action.call made : Action ε Unit).AddsOnly own := by
  intro session
  rw [perform_call]
  exact session.addsOnly_adding isOwn

/-- A diagnostic that does not warn, where such diagnostics are of the class. -/
theorem addsOnly_mild (milds : ∀ record : LogRecord, record.level ≠ .warning → own (.log record))
    {level : LogLevel} {logger message : String} {showsFault : Bool} (mild : level ≠ .warning) :
    (log level logger message showsFault : Action ε Unit).AddsOnly own :=
  addsOnly_log (milds _ mild)

/-- An action composed of actions with such events only has such events only. -/
theorem AddsOnly.bind {action : Action ε α} {next : α → Action ε β} (adds : action.AddsOnly own)
    (addsNext : ∀ session value reached, action.perform session = (.ok value, reached) →
      (next value).AddsOnly own) : (action >>= next).AddsOnly own := by
  intro session
  have before := adds session
  rw [perform_bind]
  cases ended : action.perform session with
  | mk outcome reached =>
    rw [ended] at before
    cases outcome with
    | error fault => exact before
    | ok value => exact before.trans (addsNext session value reached ended reached)

theorem AddsOnly.onFault {action : Action ε α} {restate : ε → Action ε' α}
    (adds : action.AddsOnly own) (addsRestate : ∀ fault, (restate fault).AddsOnly own) :
    (action.onFault restate).AddsOnly own := by
  intro session
  have before := adds session
  rw [perform_onFault]
  generalize action.perform session = ended at before ⊢
  rcases ended with ⟨fault | value, reached⟩
  · exact before.trans (addsRestate fault reached)
  · exact before

theorem AddsOnly.closing {action : Action ε α} {close : Action ε Unit}
    (adds : action.AddsOnly own) (addsClose : close.AddsOnly own) :
    (action.closing close).AddsOnly own := by
  intro session
  have both := (adds session).trans (addsClose _)
  rw [perform_closing]
  generalize close.perform (action.perform session).2 = ended at both ⊢
  rcases ended with ⟨fault | value, reached⟩
  · exact both
  · exact both

end Action

/-! ### What collaborators leave behind -/

/-- A client and its streams leave only events of a class behind. -/
structure QueryClient.AddsOnly (own : Event → Prop) (client : QueryClient) : Prop where
  issue : ∀ database statement, (client.issue database statement).AddsOnly own
  read : ∀ database statement session stream reached,
    (client.issue database statement).perform session = (.ok stream, reached) →
      ∀ before : Session, before.AddsOnly own (stream.read.run before).2
  closeStream : ∀ database statement session stream reached,
    (client.issue database statement).perform session = (.ok stream, reached) →
      stream.close.AddsOnly own

theorem QueryClient.AddsOnly.mono {own others : Event → Prop} {client : QueryClient}
    (adds : client.AddsOnly own) (sub : ∀ event, own event → others event) :
    client.AddsOnly others := by
  refine ⟨fun _ _ => (adds.issue _ _).mono sub, fun _ _ _ _ _ issued before => ?_,
    fun _ _ _ _ _ issued => (adds.closeStream _ _ _ _ _ issued).mono sub⟩
  exact (adds.read _ _ _ _ _ issued before).mono sub

/-- A lookup service leaves only events of a class behind. -/
def LookupService.AddsOnly (own : Event → Prop) (service : LookupService) : Prop :=
  ∀ endpoint cluster label, (service.lookup endpoint cluster label).AddsOnly own

/-- A scripted client leaves its own calls behind and nothing else. -/
theorem ClientScript.addsOnly_client {own : Event → Prop} (calls : ∀ call, own (.call call))
    (script : ClientScript) : script.client.AddsOnly own := by
  have failing (fault : Option Fault) : (failing fault).AddsOnly own := by
    cases fault with
    | none => exact addsOnly_pure _
    | some fault => exact addsOnly_throw fault
  have issue (database statement : String) :
      (script.client.issue database statement).AddsOnly own :=
    (addsOnly_call (calls _)).bind fun _ _ _ _ => (failing _).bind fun _ _ _ _ => addsOnly_pure _
  have stream {database statement : String} {session reached : Session} {stream : RowStream}
      (issued : (script.client.issue database statement).perform session = (.ok stream, reached)) :
      stream = script.stream := by
    obtain ⟨_, _, _, performed⟩ := perform_bind_eq_ok issued
    obtain ⟨_, _, _, performed⟩ := perform_bind_eq_ok performed
    cases performed
    rfl
  refine ⟨issue, fun _ _ _ _ _ issued before => ?_, fun _ _ _ _ _ issued => ?_⟩
  · rw [stream issued]
    exact .refl before
  · rw [stream issued]
    exact (addsOnly_call (calls _)).bind fun _ _ _ _ => failing _

/-- The lookup service on the web leaves its calls and diagnostics that do not warn behind. -/
theorem LookupService.addsOnly_overWeb {own : Event → Prop} (calls : ∀ call, own (.call call))
    (milds : ∀ record : LogRecord, record.level ≠ .warning → own (.log record)) (patience : Value)
    (logger : String) : (overWeb patience logger).AddsOnly own := by
  intro endpoint cluster label
  have asked : (ask patience endpoint cluster label).AddsOnly own := by
    refine AddsOnly.bind (fun session => ?_) fun _ _ _ _ =>
      (addsOnly_ofExcept _).bind fun _ _ _ _ => addsOnly_ofExcept _
    rw [Web.perform_fetch]
    split
    · exact session.addsOnly_adding (calls _)
    · exact session.addsOnly_adding (calls _)
  refine AddsOnly.bind ?_ fun _ _ _ _ => addsOnly_pure _
  refine AddsOnly.bind (asked.onFault fun fault => addsOnly_throw _) fun _ answer _ _ => ?_
  split
  · exact addsOnly_throw _
  · exact (addsOnly_mild milds (by decide)).bind fun _ _ _ _ => addsOnly_pure _

end FleetSchema
