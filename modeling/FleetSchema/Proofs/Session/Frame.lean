/-
**What an action may do to a session.**

Most actions write diagnostics, show lines and use up answers. The others are told apart by the
kinds of their events and by whether they change files.

* `Event.kind`: the kind of an event;
* `Session.Extends`: a session comes out of another one by events of some kinds, with an answer used
  up for each question;
* `Session.Adds`: a session comes out of another one by calls, with diagnostics in between;
* `Action.Within`: an action leads to such sessions only, and so do actions composed of such
  actions.
-/

import FleetSchema.Cluster.Uri
import FleetSchema.Console
import FleetSchema.Proofs.Session.Traces

namespace FleetSchema

/-! ### Kinds of events -/

/-- The kinds of events. -/
inductive EventKind where
  | quiet
  | table
  /-- A question to be confirmed is put. -/
  | question
  /-- A client for a cluster is made. -/
  | connection
  /-- A rollout is announced. -/
  | rollout
  /-- Workers are set up. -/
  | pool
  /-- A program is started. -/
  | start
  /-- A job is warned about that changes nothing. -/
  | idle
  deriving DecidableEq

/-- Whether a message announces a rollout. -/
def announcesRollout (message : String) : Bool :=
  message == "Generating jobs..." || message == "Applying schema..."

/-- What a warning about a job that changes nothing starts with. -/
def idleStart : String := "no target databases on "

/-- Whether a warning is about a job that changes nothing. -/
def warnsIdle (message : String) : Bool := ClusterUri.startsAs idleStart message

/-- The kind of an event. -/
def Event.kind : Event → EventKind
  | .call (.connected ..) => .connection
  | .call (.pooled _) => .pool
  | .call (.started _) => .start
  | .console (.table _) => .table
  | .console (.prompt .confirm ..) => .question
  | .console (.statusBegin message) => if announcesRollout message then .rollout else .quiet
  | .log ⟨.warning, _, message, _⟩ => if warnsIdle message then .idle else .quiet
  | _ => .quiet

theorem Event.kind_statusBegin (message : String) : (Event.console (.statusBegin message)).kind =
    if announcesRollout message then .rollout else .quiet := rfl

/-- A diagnostic is quiet unless it warns. -/
theorem Event.kind_log_of_ne {record : LogRecord} (mild : record.level ≠ .warning) :
    (Event.log record).kind = .quiet := by
  obtain ⟨level, logger, message, showsFault⟩ := record
  cases level with
  | warning => exact absurd rfl mild
  | debug | info | error | critical => rfl

/-- A warning about something else is quiet. -/
theorem Event.kind_warning {logger message : String} {showsFault : Bool}
    (other : warnsIdle message = false) :
    (Event.log ⟨.warning, logger, message, showsFault⟩).kind = .quiet := by
  change (if warnsIdle message then EventKind.idle else .quiet) = .quiet
  rw [other]
  rfl

/-- Events of some kinds, apart from quiet ones. -/
def AreOf (kinds : List EventKind) (events : List Event) : Prop :=
  ∀ event ∈ events, event.kind = .quiet ∨ event.kind ∈ kinds

section AreOf

variable {kinds : List EventKind} {events : List Event}

theorem AreOf.mono {more : List EventKind} (are : AreOf kinds events) (sub : kinds ⊆ more) :
    AreOf more events := fun event member => (are event member).imp_right (sub ·)

theorem AreOf.append {others : List Event} (are : AreOf kinds events)
    (areOthers : AreOf kinds others) : AreOf kinds (events ++ others) := by
  intro event member
  obtain here | behind := List.mem_append.mp member
  · exact are event here
  · exact areOthers event behind

/-- Events of a kind are absent when the kind is. -/
theorem AreOf.not_mem (are : AreOf kinds events) {event : Event} (loud : event.kind ≠ .quiet)
    (absent : event.kind ∉ kinds) : event ∉ events :=
  fun member => (are event member).elim loud absent

/-- A part of events that is of one kind is empty when the kind is absent. -/
theorem AreOf.filterMap_eq_nil {α : Type} {part : Event → Option α} {kind : EventKind}
    (are : AreOf kinds events) (loud : kind ≠ .quiet)
    (ofKind : ∀ event value, part event = some value → event.kind = kind)
    (absent : kind ∉ kinds) : events.filterMap part = [] := by
  refine List.filterMap_eq_nil_iff.mpr fun event member => ?_
  cases isPart : part event with
  | none => rfl
  | some value =>
    have same := ofKind event value isPart
    have present := are event member
    rw [same] at present
    exact absurd (present.resolve_left loud) absent

theorem Event.kind_of_start? (event : Event) (arguments : List String)
    (isStart : event.start? = some arguments) : event.kind = .start := by
  unfold Event.start? at isStart
  split at isStart
  · rfl
  · cases isStart

theorem Event.kind_of_question? (event : Event) (message : String)
    (isQuestion : event.question? = some message) : event.kind = .question := by
  unfold Event.question? at isQuestion
  split at isQuestion
  · rfl
  · cases isQuestion

theorem Event.kind_of_table? (event : Event) (table : Table)
    (isTable : event.table? = some table) : event.kind = .table := by
  unfold Event.table? at isTable
  split at isTable
  · rfl
  · cases isTable

theorem AreOf.startsIn_eq_nil (are : AreOf kinds events) (absent : .start ∉ kinds) :
    startsIn events = [] := are.filterMap_eq_nil (by decide) Event.kind_of_start? absent

theorem AreOf.questionsIn_eq_nil (are : AreOf kinds events) (absent : .question ∉ kinds) :
    questionsIn events = [] := are.filterMap_eq_nil (by decide) Event.kind_of_question? absent

theorem AreOf.tablesIn_eq_nil (are : AreOf kinds events) (absent : .table ∉ kinds) :
    tablesIn events = [] := are.filterMap_eq_nil (by decide) Event.kind_of_table? absent

end AreOf

/-! ### Sessions that come out of others -/

namespace Session

/-- The events of a session behind those of another one. -/
def since (first last : Session) : List Event := last.events.drop first.events.length

/-- A session comes out of another one by events of some kinds, with an answer used up for each
question to be confirmed, on the same devices, and with the same files unless files may be
written. -/
structure Extends (kinds : List EventKind) (writes : Bool) (first last : Session) : Prop where
  events : last.events = first.events ++ first.since last
  areOf : AreOf kinds (first.since last)
  confirmations : last.prompts.confirmations =
    first.prompts.confirmations.drop (questionsIn (first.since last)).length
  devices : last.devices = first.devices
  tree : writes = false → last.tree = first.tree

variable {kinds : List EventKind} {writes : Bool} {first middle last : Session}

theorem since_eq {added : List Event} (events : last.events = first.events ++ added) :
    first.since last = added := by
  unfold since
  rw [events, List.drop_left]

theorem callsIn_since_calling (session : Session) (calls : List Call) :
    callsIn (session.since (session.calling calls)) = calls := by
  rw [since_eq rfl, callsIn_map_call]

/-- A session with more events comes out of the one without them. -/
theorem Extends.of_events {added : List Event} (events : last.events = first.events ++ added)
    (areOf : AreOf kinds added)
    (confirmations : last.prompts.confirmations =
      first.prompts.confirmations.drop (questionsIn added).length)
    (devices : last.devices = first.devices) (tree : writes = false → last.tree = first.tree) :
    Extends kinds writes first last := by
  have added_eq := since_eq events
  constructor
  · rw [added_eq]
    exact events
  · rw [added_eq]
    exact areOf
  · rw [added_eq]
    exact confirmations
  · exact devices
  · exact tree

/-- A session with the same events, answers and files comes out of the other one. -/
theorem Extends.of_same (events : last.events = first.events)
    (confirmations : last.prompts.confirmations = first.prompts.confirmations)
    (devices : last.devices = first.devices) (tree : last.tree = first.tree) :
    Extends kinds writes first last :=
  .of_events (events.trans (List.append_nil _).symm)
    (fun _ member => absurd member List.not_mem_nil) confirmations devices fun _ => tree

theorem Extends.refl (session : Session) : Extends kinds writes session session :=
  .of_same rfl rfl rfl rfl

theorem Extends.mono {more : List EventKind} (grown : Extends kinds writes first last)
    (sub : kinds ⊆ more) {mayWrite : Bool} (implies : mayWrite = false → writes = false) :
    Extends more mayWrite first last :=
  ⟨grown.events, grown.areOf.mono sub, grown.confirmations, grown.devices, grown.tree ∘ implies⟩

/-- A quiet stage is within all bounds. -/
theorem Extends.loosen (quiet : Extends [] false first last) : Extends kinds writes first last :=
  quiet.mono (List.nil_subset _) fun _ => rfl

/-- The events of two stages are those of the first one and those of the second one. -/
theorem Extends.since_append {others : List EventKind} {mayWrite : Bool}
    (before : Extends kinds writes first middle) (after : Extends others mayWrite middle last) :
    first.since last = first.since middle ++ middle.since last := by
  apply since_eq
  rw [after.events, before.events, List.append_assoc]

section Parts

variable {others : List EventKind} {mayWrite : Bool}

/-- What is started behind a stage that starts nothing. -/
theorem Extends.startsIn_behind (before : Extends kinds writes first middle)
    (silent : .start ∉ kinds) (after : Extends others mayWrite middle last) :
    startsIn (first.since last) = startsIn (middle.since last) := by
  rw [before.since_append after, startsIn_append, before.areOf.startsIn_eq_nil silent,
    List.nil_append]

/-- What is started before a stage that starts nothing. -/
theorem Extends.startsIn_before (before : Extends kinds writes first middle)
    (after : Extends others mayWrite middle last) (silent : .start ∉ others) :
    startsIn (first.since last) = startsIn (first.since middle) := by
  rw [before.since_append after, startsIn_append, after.areOf.startsIn_eq_nil silent,
    List.append_nil]

/-- What is asked behind a stage that asks nothing. -/
theorem Extends.questionsIn_behind (before : Extends kinds writes first middle)
    (silent : .question ∉ kinds) (after : Extends others mayWrite middle last) :
    questionsIn (first.since last) = questionsIn (middle.since last) := by
  rw [before.since_append after, questionsIn_append, before.areOf.questionsIn_eq_nil silent,
    List.nil_append]

/-- What is asked before a stage that asks nothing. -/
theorem Extends.questionsIn_before (before : Extends kinds writes first middle)
    (after : Extends others mayWrite middle last) (silent : .question ∉ others) :
    questionsIn (first.since last) = questionsIn (first.since middle) := by
  rw [before.since_append after, questionsIn_append, after.areOf.questionsIn_eq_nil silent,
    List.append_nil]

/-- What is shown behind a stage that shows nothing. -/
theorem Extends.tablesIn_behind (before : Extends kinds writes first middle)
    (silent : .table ∉ kinds) (after : Extends others mayWrite middle last) :
    tablesIn (first.since last) = tablesIn (middle.since last) := by
  rw [before.since_append after, tablesIn_append, before.areOf.tablesIn_eq_nil silent,
    List.nil_append]

/-- What is shown before a stage that shows nothing. -/
theorem Extends.tablesIn_before (before : Extends kinds writes first middle)
    (after : Extends others mayWrite middle last) (silent : .table ∉ others) :
    tablesIn (first.since last) = tablesIn (first.since middle) := by
  rw [before.since_append after, tablesIn_append, after.areOf.tablesIn_eq_nil silent,
    List.append_nil]

end Parts

theorem Extends.trans (before : Extends kinds writes first middle)
    (after : Extends kinds writes middle last) : Extends kinds writes first last := by
  have split := before.since_append after
  constructor
  · rw [split, ← List.append_assoc, ← before.events]
    exact after.events
  · rw [split]
    exact before.areOf.append after.areOf
  · rw [split, questionsIn_append, List.length_append, ← List.drop_drop, ← before.confirmations]
    exact after.confirmations
  · exact after.devices.trans before.devices
  · intro readOnly
    rw [after.tree readOnly, before.tree readOnly]

/-- A stage with a loud event is one that may have events of its kind. -/
theorem Extends.mem_kinds (grown : Extends kinds writes first last) {kind : EventKind}
    (loud : kind ≠ .quiet) (comes : ∃ event ∈ first.since last, event.kind = kind) :
    kind ∈ kinds := by
  obtain ⟨event, member, rfl⟩ := comes
  exact (grown.areOf event member).resolve_left loud

/-- An event that asks nothing. -/
theorem extends_adding (session : Session) {event : Event}
    (kind : event.kind = .quiet ∨ event.kind ∈ kinds) (asksNothing : event.question? = none) :
    Extends kinds writes session (session.adding event) := by
  refine .of_events rfl ?_ ?_ rfl fun _ => rfl
  · intro other member
    rw [List.mem_singleton.mp member]
    exact kind
  · have none : questionsIn [event] = [] := List.filterMap_eq_nil_iff.mpr fun other member => by
      rw [List.mem_singleton.mp member]
      exact asksNothing
    rw [none]
    rfl

theorem extends_noting (session : Session) (record : LogRecord)
    (kind : (Event.log record).kind = .quiet ∨ (Event.log record).kind ∈ kinds) :
    Extends kinds writes session (session.noting record) := by
  unfold noting
  split
  · exact session.extends_adding kind rfl
  · exact .refl session

/-- A line that is not refused is one more event. -/
theorem showing_of_shown {session : Session} {line : ConsoleLine}
    (shown : session.refusal line = none) :
    session.showing line = session.adding (.console line) := by
  unfold showing
  rw [shown]

theorem showing_of_refused {session : Session} {line : ConsoleLine} {defect : Defect}
    (refused : session.refusal line = some defect) : session.showing line = session := by
  unfold showing
  rw [refused]

/-- A line that asks nothing, whether it is shown or not. -/
theorem extends_showing (session : Session) {line : ConsoleLine}
    (kind : (Event.console line).kind = .quiet ∨ (Event.console line).kind ∈ kinds)
    (asksNothing : (Event.console line).question? = none) :
    Extends kinds writes session (session.showing line) := by
  cases shows : session.refusal line with
  | none =>
    rw [showing_of_shown shows]
    exact session.extends_adding kind asksNothing
  | some defect =>
    rw [showing_of_refused shows]
    exact .refl session

/-- The tables among several ones that the console of a session shows. -/
def shown (session : Session) (tables : List Table) : List Table :=
  tables.filter fun table => (session.refusal (.table table)).isNone

/-- A table is shown unless it is refused. -/
theorem tablesIn_since_showing (session : Session) (table : Table) :
    tablesIn (session.since (session.showing (.table table))) = session.shown [table] := by
  unfold shown
  rw [List.filter_cons, List.filter_nil]
  cases shows : session.refusal (.table table) with
  | none =>
    rw [showing_of_shown shows, since_eq rfl]
    rfl
  | some defect =>
    rw [showing_of_refused shows, since_eq (List.append_nil _).symm]
    rfl

/-- What a session shows stays the same. -/
theorem Extends.refusal (grown : Extends kinds writes first last) (line : ConsoleLine) :
    last.refusal line = first.refusal line := by
  unfold Session.refusal
  rw [grown.devices]

theorem Extends.shown (grown : Extends kinds writes first last) (tables : List Table) :
    last.shown tables = first.shown tables := by
  unfold Session.shown
  simp only [grown.refusal]

/-- An announcement is quiet or announces a rollout. -/
theorem extends_statusBegin (session : Session) (message : String) :
    session.Extends [.rollout] false (session.adding (.console (.statusBegin message))) := by
  refine session.extends_adding ?_ rfl
  rw [Event.kind_statusBegin]
  split
  · exact Or.inr List.mem_cons_self
  · exact Or.inl rfl

/-! ### What a session adds -/

/-- A session comes out of another one by calls, with diagnostics in between. -/
structure Adds (first : Session) (calls : List Call) (records : List LogRecord) (last : Session) :
    Prop where
  events : last.events = first.events ++ first.since last
  calls : callsIn (first.since last) = calls
  records : recordsIn (first.since last) = first.kept records
  threshold : last.threshold = first.threshold

section Adds

variable {calls others : List Call} {records more : List LogRecord}

theorem Adds.of_events {added : List Event} (events : last.events = first.events ++ added)
    (calls : callsIn added = others) (records : recordsIn added = first.kept more)
    (threshold : last.threshold = first.threshold) : first.Adds others more last := by
  have added_eq := since_eq events
  constructor
  · rw [added_eq]
    exact events
  · rw [added_eq]
    exact calls
  · rw [added_eq]
    exact records
  · exact threshold

theorem Adds.refl (session : Session) : session.Adds [] [] session :=
  .of_events (List.append_nil _).symm rfl rfl rfl

theorem Adds.trans (before : first.Adds calls records middle)
    (after : middle.Adds others more last) :
    first.Adds (calls ++ others) (records ++ more) last := by
  have same : middle.kept more = first.kept more := by
    unfold kept
    rw [before.threshold]
  have events : last.events = first.events ++ (first.since middle ++ middle.since last) := by
    rw [← List.append_assoc, ← before.events]
    exact after.events
  refine .of_events events ?_ ?_ ?_
  · rw [callsIn_append, before.calls, after.calls]
  · rw [recordsIn_append, before.records, after.records, same]
    exact (List.filter_append records more).symm
  · exact after.threshold.trans before.threshold

theorem adds_call (session : Session) (made : Call) :
    session.Adds [made] [] (session.adding (.call made)) := .of_events rfl rfl rfl rfl

theorem adds_noting (session : Session) (record : LogRecord) :
    session.Adds [] [record] (session.noting record) :=
  .of_events (session.events_noting record) (callsIn_map_log _) (recordsIn_map_log _)
    (session.threshold_noting record)

theorem adds_notingAll (session : Session) (records : List LogRecord) :
    session.Adds [] records (session.notingAll records) := by
  induction records generalizing session with
  | nil => exact .refl session
  | cons record rest ih => exact (session.adds_noting record).trans (ih (session.noting record))

end Adds

end Session

/-! ### Outcomes -/

section Outcomes

variable {ε ε' α : Type}

theorem eq_ok_of_toOption {outcome : Except ε α} {value : α}
    (given : outcome.toOption = some value) : outcome = .ok value := by
  cases outcome with
  | error fault => cases given
  | ok other => exact congrArg Except.ok (Option.some.inj given)

/-- A fault that is restated comes from another one. -/
theorem mapError_eq_error {outcome : Except ε α} {restate : ε → ε'} {fault : ε'}
    (failed : outcome.mapError restate = .error fault) : ∃ cause, fault = restate cause := by
  cases outcome with
  | ok value => cases failed
  | error cause =>
    cases failed
    exact ⟨cause, rfl⟩

theorem perform_of_outcome {action : Action ε α} {session : Session} {value : α}
    (given : (action.perform session).1.toOption = some value) :
    action.perform session = (.ok value, (action.perform session).2) :=
  Prod.ext (eq_ok_of_toOption given) rfl

end Outcomes

/-! ### Actions -/

namespace Action

variable {ε ε' α β : Type} {kinds : List EventKind} {writes : Bool}

/-- An action leads to sessions that come out of the one before by events of some kinds only. -/
def Within (kinds : List EventKind) (writes : Bool) (action : Action ε α) : Prop :=
  ∀ session : Session, session.Extends kinds writes (action.perform session).2

/-- An action that asks nothing to be confirmed, shows no table, connects to nothing, starts nothing
and leaves files as they are. -/
abbrev Quiet (action : Action ε α) : Prop := action.Within [] false

theorem Within.of_perform {action : Action ε α} {session last : Session} {outcome : Except ε α}
    (within : action.Within kinds writes) (performed : action.perform session = (outcome, last)) :
    session.Extends kinds writes last := by
  have reached := within session
  rw [performed] at reached
  exact reached

theorem Within.mono {more : List EventKind} {action : Action ε α}
    (within : action.Within kinds writes) (sub : kinds ⊆ more) {mayWrite : Bool}
    (implies : mayWrite = false → writes = false) : action.Within more mayWrite :=
  fun session => (within session).mono sub implies

theorem Quiet.within {action : Action ε α} (quiet : action.Quiet) : action.Within kinds writes :=
  Within.mono quiet (List.nil_subset _) fun _ => rfl

theorem within_pure (value : α) : (pure value : Action ε α).Within kinds writes :=
  Session.Extends.refl

theorem within_throw (fault : ε) : (throw fault : Action ε α).Within kinds writes :=
  Session.Extends.refl

theorem within_ofExcept (outcome : Except ε α) : (ofExcept outcome).Within kinds writes := by
  intro session
  rw [perform_ofExcept]
  exact .refl session

theorem within_ofDefect (outcome : Except Defect α) : (ofDefect outcome).Within kinds writes := by
  intro session
  rw [perform_ofDefect]
  exact .refl session

theorem within_get : (get : Action ε Session).Within kinds writes := Session.Extends.refl

/-- An action composed of actions within bounds is within them. -/
theorem Within.bind {action : Action ε α} {next : α → Action ε β}
    (within : action.Within kinds writes) (withinNext : ∀ value, (next value).Within kinds writes) :
    (action >>= next).Within kinds writes := by
  intro session
  have first := within session
  rw [perform_bind]
  generalize action.perform session = ended at first ⊢
  rcases ended with ⟨fault | value, reached⟩
  · exact first
  · exact first.trans (withinNext value reached)

/-- Nothing comes behind a fault. -/
theorem within_throw_bind (fault : ε) (next : α → Action ε β) :
    ((throw fault : Action ε α) >>= next).Within kinds writes := Session.Extends.refl

theorem Within.attempt {action : Action ε α} (within : action.Within kinds writes) :
    (attempt action : Action ε' (Except ε α)).Within kinds writes := within

theorem Within.onFault {action : Action ε α} {restate : ε → Action ε' α}
    (within : action.Within kinds writes)
    (withinRestate : ∀ fault, (restate fault).Within kinds writes) :
    (action.onFault restate).Within kinds writes := by
  intro session
  have first := within session
  rw [perform_onFault]
  generalize action.perform session = ended at first ⊢
  rcases ended with ⟨fault | value, reached⟩
  · exact first.trans (withinRestate fault reached)
  · exact first

theorem Within.closing {action : Action ε α} {close : Action ε Unit}
    (within : action.Within kinds writes) (withinClose : close.Within kinds writes) :
    (action.closing close).Within kinds writes := by
  intro session
  have both := (within session).trans (withinClose _)
  rw [perform_closing]
  generalize close.perform (action.perform session).2 = ended at both ⊢
  rcases ended with ⟨fault | value, reached⟩
  · exact both
  · exact both

theorem Within.ite {condition : Prop} [Decidable condition] {action other : Action ε α}
    (within : action.Within kinds writes) (withinOther : other.Within kinds writes) :
    (if condition then action else other).Within kinds writes := by
  split
  · exact within
  · exact withinOther

/-! ### Events -/

theorem within_call {made : Call}
    (kind : (Event.call made).kind = .quiet ∨ (Event.call made).kind ∈ kinds) :
    (Action.call made : Action ε Unit).Within kinds writes :=
  fun session : Session => session.extends_adding kind rfl

theorem within_log (level : LogLevel) (logger message : String) (showsFault : Bool)
    (mild : level ≠ .warning) :
    (log level logger message showsFault : Action ε Unit).Within kinds writes := by
  intro session
  rw [perform_log]
  exact session.extends_noting _ (Or.inl (Event.kind_log_of_ne mild))

/-- A warning that is about something else than a job that changes nothing. -/
theorem within_warning (logger message : String) (showsFault : Bool)
    (other : warnsIdle message = false) :
    (log .warning logger message showsFault : Action ε Unit).Within kinds writes := by
  intro session
  rw [perform_log]
  exact session.extends_noting _ (Or.inl (Event.kind_warning other))

/-- Telling a line that asks nothing and is of an allowed kind. -/
theorem within_tell {line : ConsoleLine}
    (kind : (Event.console line).kind = .quiet ∨ (Event.console line).kind ∈ kinds)
    (asksNothing : (Event.console line).question? = none) :
    (tell line).Within kinds writes := by
  intro session
  rw [perform_tell]
  exact session.extends_showing kind asksNothing

theorem within_print (markup : String) : (Console.print markup).Within kinds writes :=
  within_tell (Or.inl rfl) rfl

theorem within_facts (entries : List (String × Value)) :
    (Console.facts entries).Within kinds writes := by
  induction entries with
  | nil => exact within_pure ()
  | cons entry rest ih => exact (within_print _).bind fun _ => ih

/-- Work is done under its announcement, unless the announcement is refused. -/
theorem perform_status (message : String) (work : Action Fault α) (session : Session) :
    (Console.status message work).perform session =
      match session.refusal (.statusBegin message) with
      | none => ((work.perform (session.adding (.console (.statusBegin message)))).1,
        (work.perform (session.adding (.console (.statusBegin message)))).2.adding
          (.console .statusEnd))
      | some defect => (.error (.defect defect), session) := by
  unfold Console.status
  rw [perform_bind, perform_tell]
  unfold Session.told Session.showing
  cases session.refusal (.statusBegin message) with
  | none =>
    dsimp only
    rw [perform_closing, perform_display]
  | some defect => rfl

/-- Work under an announcement that is of an allowed kind. -/
theorem Within.status {message : String} {work : Action Fault α} (within : work.Within kinds writes)
    (announced : announcesRollout message = true → .rollout ∈ kinds) :
    (Console.status message work).Within kinds writes := by
  refine (within_tell ?_ rfl).bind fun _ =>
    within.closing fun session : Session => session.extends_adding (Or.inl rfl) rfl
  rw [Event.kind_statusBegin]
  by_cases announces : announcesRollout message = true
  · rw [if_pos announces]
    exact Or.inr (announced announces)
  · rw [if_neg announces]
    exact Or.inl rfl

end Action

end FleetSchema
