/-
**What the events of a run tell.**

A run is judged by parts of what it did: the calls on collaborators, the programs that were started,
the diagnostics that were written, the questions that were put to the user, the tables that were
shown.

* `callsIn`, `startsIn`, `recordsIn`, `questionsIn`, `tablesIn`: these parts of a list of events;
* `Agreed`: a question was put, and the answer that it got counts as given.
-/

import FleetSchema.Prompt

namespace FleetSchema

/-! ### Parts of events -/

/-- The call that an event is. -/
def Event.call? : Event → Option Call
  | .call made => some made
  | _ => none

/-- The calls among events. -/
def callsIn (events : List Event) : List Call := events.filterMap Event.call?

/-- The arguments of the program that an event starts. -/
def Event.start? : Event → Option (List String)
  | .call (.started arguments) => some arguments
  | _ => none

/-- The arguments of the programs that are started among events. -/
def startsIn (events : List Event) : List (List String) := events.filterMap Event.start?

/-- The diagnostic that an event writes. -/
def Event.record? : Event → Option LogRecord
  | .log record => some record
  | _ => none

/-- The diagnostics among events. -/
def recordsIn (events : List Event) : List LogRecord := events.filterMap Event.record?

/-- The message of the question to be confirmed that an event puts. -/
def Event.question? : Event → Option String
  | .console (.prompt .confirm message _) => some message
  | _ => none

/-- The messages of the questions to be confirmed among events. -/
def questionsIn (events : List Event) : List String := events.filterMap Event.question?

/-- The table that an event shows. -/
def Event.table? : Event → Option Table
  | .console (.table table) => some table
  | _ => none

/-- The tables among events. -/
def tablesIn (events : List Event) : List Table := events.filterMap Event.table?

@[simp]
theorem callsIn_append (first second : List Event) :
    callsIn (first ++ second) = callsIn first ++ callsIn second := List.filterMap_append

@[simp]
theorem startsIn_append (first second : List Event) :
    startsIn (first ++ second) = startsIn first ++ startsIn second := List.filterMap_append

@[simp]
theorem recordsIn_append (first second : List Event) :
    recordsIn (first ++ second) = recordsIn first ++ recordsIn second := List.filterMap_append

@[simp]
theorem questionsIn_append (first second : List Event) :
    questionsIn (first ++ second) = questionsIn first ++ questionsIn second :=
  List.filterMap_append

@[simp]
theorem tablesIn_append (first second : List Event) :
    tablesIn (first ++ second) = tablesIn first ++ tablesIn second := List.filterMap_append

/-- The arguments of the program that a call starts. -/
def Call.start? : Call → Option (List String)
  | .started arguments => some arguments
  | _ => none

/-- Programs are started by calls. -/
theorem startsIn_eq_filterMap (events : List Event) :
    startsIn events = (callsIn events).filterMap Call.start? := by
  unfold startsIn callsIn
  rw [List.filterMap_filterMap]
  congr 1
  funext event
  cases event with
  | call made => cases made <;> rfl
  | log record => rfl
  | console line => rfl

theorem mem_startsIn {events : List Event} {arguments : List String} :
    arguments ∈ startsIn events ↔ .call (.started arguments) ∈ events := by
  unfold startsIn
  rw [List.mem_filterMap]
  constructor
  · rintro ⟨event, member, isStart⟩
    unfold Event.start? at isStart
    split at isStart
    · cases isStart
      exact member
    · cases isStart
  · exact fun member => ⟨_, member, rfl⟩

theorem mem_recordsIn {events : List Event} {record : LogRecord} :
    record ∈ recordsIn events ↔ .log record ∈ events := by
  unfold recordsIn
  rw [List.mem_filterMap]
  constructor
  · rintro ⟨event, member, isRecord⟩
    unfold Event.record? at isRecord
    split at isRecord
    · cases isRecord
      exact member
    · cases isRecord
  · exact fun member => ⟨_, member, rfl⟩

/-! ### Sessions with more events -/

namespace Session

@[simp]
theorem callsIn_adding_call (session : Session) (made : Call) :
    callsIn (session.adding (.call made)).events = callsIn session.events ++ [made] := by
  unfold adding
  rw [callsIn_append]
  rfl

@[simp]
theorem callsIn_noting (session : Session) (record : LogRecord) :
    callsIn (session.noting record).events = callsIn session.events := by
  unfold noting adding
  split
  · rw [callsIn_append]
    exact List.append_nil _
  · rfl

/-- A session with several more calls. -/
def calling (session : Session) (calls : List Call) : Session :=
  { session with events := session.events ++ calls.map .call }

@[simp]
theorem calling_nil (session : Session) : session.calling [] = session := by
  unfold calling
  rw [List.map_nil, List.append_nil]

@[simp]
theorem calling_calling (session : Session) (first second : List Call) :
    (session.calling first).calling second = session.calling (first ++ second) := by
  unfold calling
  rw [List.map_append, List.append_assoc]

/-- A session with several more diagnostics, as far as diagnostics of their levels are kept. -/
def notingAll (session : Session) (records : List LogRecord) : Session :=
  records.foldl noting session

/-- The diagnostics among several ones that are kept. -/
def kept (session : Session) (records : List LogRecord) : List LogRecord :=
  records.filter fun record => session.threshold ≤ record.level.weight

@[simp]
theorem threshold_noting (session : Session) (record : LogRecord) :
    (session.noting record).threshold = session.threshold := by
  unfold noting adding
  split
  · rfl
  · rfl

theorem web_notingAll (session : Session) (records : List LogRecord) :
    (session.notingAll records).web = session.web := by
  induction records generalizing session with
  | nil => rfl
  | cons record rest ih =>
    refine (ih (session.noting record)).trans ?_
    unfold noting adding
    split
    · rfl
    · rfl

theorem events_noting (session : Session) (record : LogRecord) :
    (session.noting record).events = session.events ++ (session.kept [record]).map .log := by
  unfold noting kept adding
  by_cases keeps : session.threshold ≤ record.level.weight
  · simp [keeps]
  · simp [keeps]

end Session

@[simp]
theorem callsIn_map_call (calls : List Call) : callsIn (calls.map .call) = calls := by
  unfold callsIn
  rw [List.filterMap_map]
  exact List.filterMap_some

@[simp]
theorem callsIn_map_log (records : List LogRecord) : callsIn (records.map .log) = [] :=
  List.filterMap_eq_nil_iff.mpr fun event member => by
    obtain ⟨record, _, rfl⟩ := List.mem_map.mp member
    rfl

@[simp]
theorem recordsIn_map_log (records : List LogRecord) : recordsIn (records.map .log) = records := by
  unfold recordsIn
  rw [List.filterMap_map]
  exact List.filterMap_some

/-! ### Consent -/

/-- A question was put during a run, and the answer that it got counts as given. The questions take
the answers in their order; a question without an answer is left open. -/
def Agreed (answers : List Value) (events : List Event) (message : String) : Prop :=
  ∃ place, (questionsIn events)[place]? = some (Prompt.titled message) ∧
    (answers.getD place .null).truthy = true

variable {answers : List Value} {events : List Event} {message : String}

theorem Agreed.before (agreed : Agreed answers events message) (more : List Event) :
    Agreed answers (events ++ more) message := by
  obtain ⟨place, put, counts⟩ := agreed
  refine ⟨place, ?_, counts⟩
  rw [questionsIn_append]
  exact List.getElem?_append_left (List.getElem?_eq_some_iff.mp put).1 ▸ put

theorem Agreed.behind (earlier : List Event)
    (agreed : Agreed (answers.drop (questionsIn earlier).length) events message) :
    Agreed answers (earlier ++ events) message := by
  obtain ⟨place, put, counts⟩ := agreed
  refine ⟨(questionsIn earlier).length + place, ?_, ?_⟩
  · rw [questionsIn_append, List.getElem?_append_right (Nat.le_add_right _ _),
      Nat.add_sub_cancel_left]
    exact put
  · rw [List.getD_eq_getElem?_getD, ← List.getElem?_drop, ← List.getD_eq_getElem?_getD]
    exact counts

end FleetSchema
