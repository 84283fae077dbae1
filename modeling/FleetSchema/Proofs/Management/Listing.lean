/-
**Databases that a management service answers with.**

A listing over a management service runs one statement. It gives the names in the first columns of
the first table that the pattern finds, and it writes down each error of the answer once. Further
tables do not matter. Whatever the service fails with, the listing fails with a fault of the query.

* `namesIn`: the names in the first columns of rows;
* `ManagementService.queried`, `ManagementService.perform_listDatabases`: what a listing comes to;
* `ListsFirstTable`: the names and errors of the first table, or a fault of the query;
* `streams_first_table`: every stream of a service, and every listing over it.
-/

import FleetSchema.Proofs.Catalogue.Listing
import FleetSchema.Proofs.Management.Iterating

namespace FleetSchema

open FleetSchema.Action

/-! ### The items of an answer -/

/-- The names in the first columns of rows. -/
def namesIn (rows : List Value) : List String := namesAmong (rows.map .row)

namespace ManagementAnswer

variable (answer : ManagementAnswer)

theorem namesAmong_items : namesAmong answer.items = namesIn answer.rows := by
  have nameless : (answer.errors.map RowItem.inlineError).filterMap RowItem.name? = [] := by
    refine List.filterMap_eq_nil_iff.mpr fun item member => ?_
    obtain ⟨message, _, rfl⟩ := List.mem_map.mp member
    rfl
  unfold namesIn namesAmong items
  rw [List.filterMap_append, nameless, List.append_nil]

theorem inlineRecords_items (uri logger : String) :
    inlineRecords uri logger answer.items = answer.errors.map (inlineRecord uri logger) := by
  have mute : (answer.rows.map RowItem.row).filterMap RowItem.message? = [] := by
    refine List.filterMap_eq_nil_iff.mpr fun item member => ?_
    obtain ⟨row, _, rfl⟩ := List.mem_map.mp member
    rfl
  have told : (answer.errors.map RowItem.inlineError).filterMap RowItem.message? =
      answer.errors := by
    rw [List.filterMap_map]
    exact List.filterMap_some
  unfold inlineRecords items
  rw [List.filterMap_append, mute, told, List.nil_append]

theorem isReadable_items : (∀ item ∈ answer.items, item.IsReadable) ↔
    ∀ row ∈ answer.rows, ∃ first, firstColumn row = .ok first := by
  unfold items
  constructor
  · intro readable row member
    exact readable (.row row) (List.mem_append_left _ (List.mem_map_of_mem member))
  · intro readable item member
    rcases List.mem_append.mp member with isRow | isError
    · obtain ⟨row, isThere, rfl⟩ := List.mem_map.mp isRow
      exact readable row isThere
    · obtain ⟨message, _, rfl⟩ := List.mem_map.mp isError
      trivial

end ManagementAnswer

/-! ### Listings -/

namespace ManagementService

/-- What a query comes to when a service answers. -/
def queried (answered : Except Fault ManagementAnswer) (pattern : NamePattern) :
    Except Fault (List String) :=
  match answered with
  | .error fault => .error (ManagementStream.restate fault)
  | .ok answer => (foundIn pattern answer.items).map unique

section Queries

variable {answered : Except Fault ManagementAnswer} {answer : ManagementAnswer}
  {pattern : NamePattern} {names : List String}

/-- A query comes to names exactly when there is an answer, all of its rows have a first column, and
the pattern can be sought in all of the first columns. -/
theorem queried_eq_ok_iff : queried answered pattern = .ok names ↔
    ∃ answer, answered = .ok answer ∧
      (∀ row ∈ answer.rows, ∃ first, firstColumn row = .ok first) ∧
      (∀ name ∈ namesIn answer.rows, pattern.find name ≠ .crossed) ∧
      names = unique ((namesIn answer.rows).filter fun name => pattern.find name == .found) := by
  cases answered with
  | error fault =>
    constructor
    · rintro ⟨⟩
    · rintro ⟨_, ⟨⟩, _⟩
  | ok answer =>
    have items (found : List String) : foundIn pattern answer.items = .ok found ↔
        (∀ row ∈ answer.rows, ∃ first, firstColumn row = .ok first) ∧
          (∀ name ∈ namesIn answer.rows, pattern.find name ≠ .crossed) ∧
          found = (namesIn answer.rows).filter fun name => pattern.find name == .found := by
      rw [foundIn_eq_ok_iff, answer.namesAmong_items, answer.isReadable_items]
    constructor
    · intro isQueried
      cases isFound : foundIn pattern answer.items with
      | error fault =>
        rw [queried, isFound] at isQueried
        cases isQueried
      | ok found =>
        rw [queried, isFound] at isQueried
        cases isQueried
        obtain ⟨readable, seeks, rfl⟩ := (items found).mp isFound
        exact ⟨answer, rfl, readable, seeks, rfl⟩
    · rintro ⟨_, ⟨⟩, readable, seeks, rfl⟩
      rw [queried, (items _).mpr ⟨readable, seeks, rfl⟩]
      rfl

variable (service : ManagementService) (uri logger : String) (pattern : NamePattern)
  (session : Session)

/-- The call that a listing makes. -/
def listingCall : Call := .executed service.identity none showDatabases

theorem perform_queryNames :
    let answered := service.answer session.events none showDatabases
    ∃ records, (queryNames service.client uri logger pattern).perform session =
        (queried answered pattern,
          (session.adding (.call service.listingCall)).notingAll records) ∧
      ∀ answer names, answered = .ok answer → queried answered pattern = .ok names →
        records = answer.errors.map (inlineRecord uri logger) := by
  intro answered
  let stream : ManagementStream := .fresh "" showDatabases
  have read : perform ((stream.rows service).read : Action Fault Reading) session =
      (.ok (readingOf answered), session.adding (.call service.listingCall)) :=
    stream.perform_read_open rfl service session
  obtain ⟨records, performed, all⟩ := perform_streamNames uri logger pattern session read
  refine ⟨records, ?_, ?_⟩
  · unfold queryNames
    rw [perform_bind]
    show (Action.closing (streamNames (stream.rows service) uri logger pattern)
      (return ())).perform session = _
    rw [perform_closing, performed]
    unfold queried readingOf
    cases answered with
    | error fault => rfl
    | ok answer =>
      dsimp only
      cases foundIn pattern answer.items with
      | error fault => rfl
      | ok names => rfl
  · intro answer names isAnswer isQueried
    rw [isAnswer] at all isQueried
    rw [← answer.inlineRecords_items]
    unfold queried at isQueried
    dsimp only at isQueried
    cases isFound : foundIn pattern answer.items with
    | error fault =>
      rw [isFound] at isQueried
      cases isQueried
    | ok found => exact all found isFound

/-- **What a listing over a service comes to.** -/
theorem perform_listDatabases [Interpreter] {source : String}
    (compiles : NamePattern.compile source = .ok pattern) :
    let answered := service.answer session.events none showDatabases
    ∃ records final, (listDatabases service.client uri logger source).perform session =
        ((queried answered pattern).mapError (listingFaultOf uri),
          ((session.adding (.call service.listingCall)).notingAll records).noting final) ∧
      ∀ answer names, answered = .ok answer → queried answered pattern = .ok names →
        records = answer.errors.map (inlineRecord uri logger) ∧ final.level = .debug := by
  intro answered
  obtain ⟨records, queried, all⟩ := service.perform_queryNames uri logger pattern session
  obtain ⟨final, performed, isDebug⟩ :=
    perform_listDatabases_queried uri logger pattern session service.client compiles
  rw [queried] at performed isDebug
  exact ⟨records, final, performed, fun answer names isAnswer isQueried =>
    ⟨all answer names isAnswer isQueried, isDebug names isQueried⟩⟩

end Queries

/-! ### Further tables -/

section Tables

variable {client : Option Client} {answer other : ManagementAnswer}

/-- Services whose answers have the same items are the same clients. -/
theorem client_congr (same : answer.items = other.items) :
    (answering client (.ok answer)).client = (answering client (.ok other)).client := by
  have reads (stream : ManagementStream) : stream.read (answering client (.ok answer)) =
      stream.read (answering client (.ok other)) := by
    funext session
    unfold ManagementStream.read
    cases stream.closed with
    | true => rfl
    | false =>
      show ((⟨answer.items, none⟩ : Reading), _) = ((⟨other.items, none⟩ : Reading), _)
      rw [same]
      rfl
  unfold ManagementService.client ManagementStream.rows
  simp only [reads]
  rfl

end Tables

end ManagementService

/-- What a listing over a service comes to: the names that a pattern finds in the first columns of
the first table, with one diagnostic for each error, or a fault of the query. -/
structure ListsFirstTable (answered : Except Fault ManagementAnswer) (made : Call)
    (pattern : NamePattern) (uri logger : String) (session last : Session)
    (outcome : Except Fault (List String)) : Prop where
  calls : callsIn (session.since last) = [made]
  succeeds_iff : (∃ names, outcome = .ok names) ↔
    ∃ answer, answered = .ok answer ∧
      (∀ row ∈ answer.rows, ∃ first, firstColumn row = .ok first) ∧
      ∀ name ∈ namesIn answer.rows, pattern.find name ≠ .crossed
  complete : ∀ answer names, answered = .ok answer → outcome = .ok names →
    FirstAppearances ((namesIn answer.rows).filter fun name => pattern.find name == .found) names
  errors : ∀ answer names, answered = .ok answer → outcome = .ok names →
    errorsIn (session.since last) = session.kept (answer.errors.map (inlineRecord uri logger))
  fails : ∀ fault, outcome = .error fault → fault.isKind .query = true

section Listings

variable {pattern : NamePattern} {source : String}

theorem listsFirstTable_of_compile [Interpreter]
    (compiles : NamePattern.compile source = .ok pattern) (service : ManagementService)
    (uri logger : String) (session : Session) :
    let ended := (listDatabases service.client uri logger source).perform session
    ListsFirstTable (service.answer session.events none showDatabases) service.listingCall pattern
      uri logger session ended.2 ended.1 := by
  intro ended
  obtain ⟨records, final, performed, all⟩ :=
    service.perform_listDatabases uri logger pattern session compiles
  have isEnded : ended = _ := performed
  have adds := (session.adds_call service.listingCall).trans
    ((Session.adds_notingAll _ records).trans (Session.adds_noting _ final))
  rw [isEnded]
  generalize service.answer session.events none showDatabases = answered at all
  -- A listing has the names of its query, and otherwise the fault of the query restated.
  have succeeds (names : List String) :
      (ManagementService.queried answered pattern).mapError (listingFaultOf uri) = .ok names ↔
        ManagementService.queried answered pattern = .ok names := by
    cases ManagementService.queried answered pattern with
    | error fault =>
      constructor
      · rintro ⟨⟩
      · rintro ⟨⟩
    | ok others => rfl
  constructor
  · exact adds.calls
  · constructor
    · rintro ⟨names, listed⟩
      obtain ⟨answer, isAnswer, readable, seeks, _⟩ :=
        ManagementService.queried_eq_ok_iff.mp ((succeeds names).mp listed)
      exact ⟨answer, isAnswer, readable, seeks⟩
    · rintro ⟨answer, isAnswer, readable, seeks⟩
      exact ⟨_, (succeeds _).mpr
        (ManagementService.queried_eq_ok_iff.mpr ⟨answer, isAnswer, readable, seeks, rfl⟩)⟩
  · intro answer names isAnswer listed
    obtain ⟨other, isOther, _, _, rfl⟩ :=
      ManagementService.queried_eq_ok_iff.mp ((succeeds names).mp listed)
    obtain rfl := Except.ok.inj (isAnswer.symm.trans isOther)
    exact firstAppearances_unique _
  · intro answer names isAnswer listed
    obtain ⟨rfl, isDebug⟩ := all answer names isAnswer ((succeeds names).mp listed)
    refine errorsIn_of_adds adds (fun record member => ?_) isDebug
    obtain ⟨message, _, rfl⟩ := List.mem_map.mp member
    rfl
  · intro fault failed
    obtain ⟨cause, rfl⟩ := mapError_eq_error failed
    exact isKind_listingFaultOf uri cause

/-- **Streams of a management service give the first table and the errors of an answer**, and so a
listing has the names of the first table. For every answer and every use of a stream, each iteration
gives the rows and then the errors, and it runs the statement once; an iteration that starts when
the stream is closed fails and runs nothing. For every pattern that compiles, a listing has the
names that the pattern finds, whatever further tables there are, provided that it can be sought in
all of them; otherwise there is a fault of the query. -/
theorem streams_first_table [Interpreter] (source : String) (pattern : NamePattern)
    (compiles : NamePattern.compile source = .ok pattern) :
    (∀ client answered database statement session uses,
      let stream := IteratedStream.fresh database statement
      IteratedStream.GivesInTurn answered (IteratedStream.callOf client stream.stream) uses
        (IteratedStream.trace (.answering client answered) stream session uses)) ∧
    (∀ (service : ManagementService) uri logger session,
      let ended := (listDatabases service.client uri logger source).perform session
      ListsFirstTable (service.answer session.events none showDatabases) service.listingCall
        pattern uri logger session ended.2 ended.1) ∧
    ∀ client (answer other : ManagementAnswer) uri logger session,
      answer.rows = other.rows → answer.errors = other.errors →
        (listDatabases (ManagementService.answering client (.ok answer)).client uri logger
          source).perform session =
        (listDatabases (ManagementService.answering client (.ok other)).client uri logger
          source).perform session := by
  refine ⟨?_, ?_, ?_⟩
  · intro client answered database statement session uses
    exact IteratedStream.givesInTurn_trace client answered database statement session uses
  · intro service uri logger session
    exact listsFirstTable_of_compile compiles service uri logger session
  · intro client answer other uri logger session sameRows sameErrors
    have same : answer.items = other.items := by
      unfold ManagementAnswer.items
      rw [sameRows, sameErrors]
    rw [ManagementService.client_congr same]

/-- An answer with two tables and an error. A second iteration, asked when the stream is closed,
fails. -/
theorem streams_first_table_two_tables :
    let answer : ManagementAnswer :=
      ⟨[[.list [.text "north"], .list [.text "south"]], [.list [.text "froth"]]], ["partial"]⟩
    let service := ManagementService.answering none (.ok answer)
    let stream := IteratedStream.fresh "" showDatabases
    let uses : List StreamUse := [.iterate, .advance 0, .close, .iterate, .advance 1]
    let session := Session.start ⟨[], []⟩
    let ended := (listDatabases service.client "https://f.k" "log" "o.th").perform session
    ∃ pattern, NamePattern.compile "o.th" = .ok pattern ∧ ended.1 = .ok ["north", "south"] ∧
      ListsFirstTable (.ok answer) service.listingCall pattern "https://f.k" "log" session ended.2
        ended.1 ∧
      IteratedStream.GivesInTurn (.ok answer) (IteratedStream.callOf none stream.stream) uses
        (IteratedStream.trace service stream session uses) := by
  intro answer service stream uses session ended
  have listed : ended.1.toOption = some ["north", "south"] := by decide +kernel
  obtain ⟨pattern, compiles⟩ : ∃ pattern, NamePattern.compile "o.th" = .ok pattern :=
    exists_compile (by decide +kernel)
  obtain ⟨gives, lists, _⟩ := streams_first_table "o.th" pattern compiles
  exact ⟨pattern, compiles, eq_ok_of_toOption listed, lists service "https://f.k" "log" session,
    gives none (.ok answer) "" showDatabases session uses⟩

/-- The pattern cannot be sought in the only name of an answer: there is no list. -/
theorem streams_unsought :
    let answer : ManagementAnswer := ⟨[[.list [.text "abb"]]], []⟩
    let service := ManagementService.answering none (.ok answer)
    let session := Session.start ⟨[], []⟩
    let ended := (listDatabases service.client "https://fabrikam.kusto.windows.net"
      "kschema.cluster" "((?:(a)|b))++").perform session
    ∃ pattern fault, NamePattern.compile "((?:(a)|b))++" = .ok pattern ∧
      ended.1 = .error fault := by
  intro answer service session ended
  have crossed : (NamePattern.compile "((?:(a)|b))++").toOption.map (·.find "abb") =
      some .crossed := by decide +kernel
  obtain ⟨pattern, compiles⟩ : ∃ pattern, NamePattern.compile "((?:(a)|b))++" = .ok pattern :=
    exists_compile (by decide +kernel)
  have sought : pattern.find "abb" = .crossed := by
    rw [compiles] at crossed
    exact Option.some.inj crossed
  have lists := listsFirstTable_of_compile compiles service "https://fabrikam.kusto.windows.net"
    "kschema.cluster" session
  cases outcome : ended.1 with
  | error fault => exact ⟨pattern, fault, compiles, rfl⟩
  | ok names =>
    obtain ⟨_, ⟨⟩, _, seeks⟩ := lists.succeeds_iff.mp ⟨names, outcome⟩
    exact absurd sought (seeks "abb" List.mem_cons_self)

end Listings

end FleetSchema
