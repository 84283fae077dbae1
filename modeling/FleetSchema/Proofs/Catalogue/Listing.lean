/-
**What a listing comes to, whatever its client does.**

A client may fail to issue the statement, end its stream early, send rows without a first column, or
fail to close the stream, and several of these at once. Either all goes well and every name that the
pattern finds is listed, or there is a fault of the query and no name at all:

* `foundIn`, `perform_readNames`: what the items of a stream come to;
* `ClientScript.listing`, `perform_listDatabases`: what a listing comes to, and the session that it
  leaves;
* `lists_all_or_fails`: a listing is complete or fails.
-/

import FleetSchema.Catalogue
import FleetSchema.Proofs.Session.Frame
import Mathlib.Data.List.Perm.Basic

namespace FleetSchema

open FleetSchema.Action

/-! ### Items of a stream -/

namespace RowItem

/-- The name that an item gives: its first column as text. -/
def name? : RowItem → Option String
  | .row cells => (firstColumn cells).toOption.map Value.toText
  | .inlineError _ => none

/-- The message of an item that is an error. -/
def message? : RowItem → Option String
  | .row _ => none
  | .inlineError message => some message

/-- An item is an error of a single row, or a row with a first column. -/
def IsReadable : RowItem → Prop
  | .row cells => ∃ first, firstColumn cells = .ok first
  | .inlineError _ => True

end RowItem

/-- The names that items give. -/
def namesAmong (items : List RowItem) : List String := items.filterMap RowItem.name?

/-- The diagnostic about an error of a single row. -/
def inlineRecord (uri logger message : String) : LogRecord :=
  ⟨.error, logger, "got inline error from " ++ uri ++ ": " ++ message, false⟩

/-- The diagnostics about the errors among items. -/
def inlineRecords (uri logger : String) (items : List RowItem) : List LogRecord :=
  (items.filterMap RowItem.message?).map (inlineRecord uri logger)

section Items

variable {pattern : NamePattern} {items : List RowItem}

/-- The name that a row gives if a pattern is found in it, or the fault that spoils the row. -/
def soughtIn (pattern : NamePattern) (cells : Value) : Except Fault (Option String) :=
  match firstColumn cells with
  | .error defect => .error (.defect defect)
  | .ok first =>
    match pattern.find first.toText with
    | .absent => .ok none
    | .found => .ok (some first.toText)
    | .crossed => .error (.defect .crossedGroup)

/-- The names that a pattern finds in items, or the fault of the first item that spoils them. -/
def foundIn (pattern : NamePattern) : List RowItem → Except Fault (List String)
  | [] => .ok []
  | .inlineError _ :: rest => foundIn pattern rest
  | .row cells :: rest =>
    match soughtIn pattern cells with
    | .error fault => .error fault
    | .ok selected => (foundIn pattern rest).map (selected.toList ++ ·)

theorem perform_readNames_row (uri logger : String) (pattern : NamePattern) (cells : Value)
    (rest : List RowItem) (session : Session) :
    (readNames uri logger pattern (.row cells :: rest)).perform session =
      match soughtIn pattern cells with
      | .error fault => (.error fault, session)
      | .ok selected =>
        let others := (readNames uri logger pattern rest).perform session
        (others.1.map (selected.toList ++ ·), others.2) := by
  rw [readNames, soughtIn, perform_bind, perform_ofDefect]
  cases firstColumn cells with
  | error defect => rfl
  | ok first =>
    dsimp only [Except.mapError]
    rw [perform_bind, isSelected]
    cases pattern.find first.toText with
    | crossed => rfl
    | absent | found =>
      dsimp only
      rw [perform_pure]
      exact perform_bind_pure _ _ session

/-- Reading items comes to the names found in them. The errors of single rows are written down, all
of them unless some row spoils the reading. -/
theorem perform_readNames (uri logger : String) (pattern : NamePattern) (items : List RowItem)
    (session : Session) :
    ∃ records, (readNames uri logger pattern items).perform session =
        (foundIn pattern items, session.notingAll records) ∧
      ∀ names, foundIn pattern items = .ok names → records = inlineRecords uri logger items := by
  induction items generalizing session with
  | nil => exact ⟨[], rfl, fun _ _ => rfl⟩
  | cons item rest ih =>
    cases item with
    | inlineError message =>
      obtain ⟨records, performed, all⟩ := ih (session.noting (inlineRecord uri logger message))
      refine ⟨inlineRecord uri logger message :: records, ?_, fun names found => ?_⟩
      · unfold readNames
        rw [perform_bind, perform_log]
        exact performed
      · rw [all names found]
        rfl
    | row cells =>
      obtain ⟨records, performed, all⟩ := ih session
      rw [perform_readNames_row, foundIn, performed]
      cases soughtIn pattern cells with
      | error fault => exact ⟨[], rfl, by rintro _ ⟨⟩⟩
      | ok selected =>
        refine ⟨records, rfl, fun names found => ?_⟩
        cases behind : foundIn pattern rest with
        | error fault =>
          rw [behind] at found
          cases found
        | ok others => exact all others behind

theorem namesAmong_row {cells first : Value} (isFirst : firstColumn cells = .ok first) :
    namesAmong (.row cells :: items) = first.toText :: namesAmong items := by
  have isName : RowItem.name? (.row cells) = some first.toText := by
    rw [RowItem.name?, isFirst]
    rfl
  exact List.filterMap_cons_some isName

theorem soughtIn_eq_ok_iff {cells : Value} {selected : Option String} :
    soughtIn pattern cells = .ok selected ↔
      ∃ first, firstColumn cells = .ok first ∧ pattern.find first.toText ≠ .crossed ∧
        selected = if pattern.find first.toText == .found then some first.toText else none := by
  unfold soughtIn
  cases firstColumn cells with
  | error defect =>
    constructor
    · rintro ⟨⟩
    · rintro ⟨_, ⟨⟩, _⟩
  | ok first =>
    have same : (∃ other, (Except.ok first : Except Defect Value) = .ok other ∧
        pattern.find other.toText ≠ .crossed ∧
          selected = if pattern.find other.toText == .found then some other.toText else none) ↔
        pattern.find first.toText ≠ .crossed ∧
          selected = if pattern.find first.toText == .found then some first.toText else none := by
      constructor
      · rintro ⟨_, ⟨⟩, holds⟩
        exact holds
      · exact fun holds => ⟨first, rfl, holds⟩
    rw [same]
    dsimp only
    cases pattern.find first.toText with
    | crossed => simp
    | absent | found =>
      constructor
      · rintro ⟨⟩
        exact ⟨by decide, rfl⟩
      · rintro ⟨_, rfl⟩
        rfl

/-- **Names are found in items** when each row has a first column and the pattern can be sought in
all of them; then they are those in which it is found. -/
theorem foundIn_eq_ok_iff {names : List String} :
    foundIn pattern items = .ok names ↔
      (∀ item ∈ items, item.IsReadable) ∧ (∀ name ∈ namesAmong items, pattern.find name ≠ .crossed) ∧
        names = (namesAmong items).filter fun name => pattern.find name == .found := by
  induction items generalizing names with
  | nil => simp [foundIn, namesAmong, eq_comm]
  | cons item rest ih =>
    rw [List.forall_mem_cons]
    cases item with
    | inlineError message =>
      exact ih.trans ⟨fun ⟨readable, others⟩ => ⟨⟨trivial, readable⟩, others⟩,
        fun ⟨⟨_, readable⟩, others⟩ => ⟨readable, others⟩⟩
    | row cells =>
      rw [foundIn]
      constructor
      · intro found
        cases sought : soughtIn pattern cells with
        | error fault =>
          rw [sought] at found
          cases found
        | ok selected =>
          obtain ⟨first, isFirst, seeks, rfl⟩ := soughtIn_eq_ok_iff.mp sought
          cases behind : foundIn pattern rest with
          | error fault =>
            rw [sought, behind] at found
            cases found
          | ok others =>
            rw [sought, behind] at found
            cases found
            obtain ⟨readable, all, rfl⟩ := ih.mp behind
            rw [namesAmong_row isFirst, List.forall_mem_cons, List.filter_cons]
            refine ⟨⟨⟨first, isFirst⟩, readable⟩, ⟨seeks, all⟩, ?_⟩
            split
            · rfl
            · rfl
      · rintro ⟨⟨⟨first, isFirst⟩, readable⟩, all, rfl⟩
        rw [namesAmong_row isFirst, List.forall_mem_cons] at all
        rw [soughtIn_eq_ok_iff.mpr ⟨first, isFirst, all.1, rfl⟩, ih.mpr ⟨readable, all.2, rfl⟩,
          namesAmong_row isFirst, List.filter_cons]
        dsimp only
        split
        · rfl
        · rfl

end Items

/-! ### Listings -/

/-- The fault that a listing states for a fault of its query. -/
def listingFaultOf (uri : String) (fault : Fault) : Fault :=
  if fault.isKind .query then fault else .listing uri fault

theorem isKind_listingFaultOf (uri : String) (fault : Fault) :
    (listingFaultOf uri fault).isKind .query = true := by
  unfold listingFaultOf
  split
  · next isQuery => exact isQuery
  · rfl

namespace ClientScript

variable (script : ClientScript) (pattern : NamePattern)

/-- What the query of a client comes to. A fault on closing the stream hides the one of reading it.
-/
def queried : Except Fault (List String) :=
  match script.issueFault, script.streamCloseFault with
  | some fault, _ | none, some fault => .error fault
  | none, none =>
    match foundIn pattern script.items, script.readFault with
    | .error fault, _ | .ok _, some fault => .error fault
    | .ok names, none => .ok (unique names)

/-- What a listing comes to. -/
def listing (uri : String) : Except Fault (List String) :=
  (script.queried pattern).mapError (listingFaultOf uri)

/-- The calls of a listing: one statement, and one close if there is a stream. -/
def listingCalls : List Call :=
  .queried "" showDatabases :: if script.issueFault.isNone then [.streamClosed] else []

/-- All that a listing asks of its client succeeds. -/
structure Delivers : Prop where
  issues : script.issueFault = none
  readable : ∀ item ∈ script.items, item.IsReadable
  readsOn : script.readFault = none
  closes : script.streamCloseFault = none

end ClientScript

section Listings

variable {script : ClientScript} {pattern : NamePattern} {uri : String}

theorem queried_eq_ok_iff {names : List String} :
    script.queried pattern = .ok names ↔
      script.Delivers ∧ (∀ name ∈ namesAmong script.items, pattern.find name ≠ .crossed) ∧
        names = unique ((namesAmong script.items).filter fun name => pattern.find name == .found) := by
  constructor
  · intro listed
    unfold ClientScript.queried at listed
    split at listed
    · cases listed
    · cases listed
    · next issues closes =>
      split at listed
      · cases listed
      · cases listed
      · next found behind readsOn =>
        cases listed
        obtain ⟨readable, seeks, rfl⟩ := foundIn_eq_ok_iff.mp behind
        exact ⟨⟨issues, readable, readsOn, closes⟩, seeks, rfl⟩
  · rintro ⟨delivers, seeks, rfl⟩
    unfold ClientScript.queried
    rw [delivers.issues, delivers.closes, delivers.readsOn,
      foundIn_eq_ok_iff.mpr ⟨delivers.readable, seeks, rfl⟩]

/-- **A listing has names** when its client delivers and the pattern can be sought in all of them.
-/
theorem listing_eq_ok_iff {names : List String} :
    script.listing pattern uri = .ok names ↔
      script.Delivers ∧ (∀ name ∈ namesAmong script.items, pattern.find name ≠ .crossed) ∧
        names = unique ((namesAmong script.items).filter fun name => pattern.find name == .found) := by
  rw [← queried_eq_ok_iff]
  unfold ClientScript.listing
  cases script.queried pattern with
  | error fault =>
    constructor
    · rintro ⟨⟩
    · rintro ⟨⟩
  | ok found => exact Iff.rfl

/-- A listing fails with a fault of the query only. -/
theorem isKind_of_listing_eq_error {fault : Fault}
    (failed : script.listing pattern uri = .error fault) : fault.isKind .query = true := by
  obtain ⟨cause, rfl⟩ := mapError_eq_error failed
  exact isKind_listingFaultOf uri cause

variable [Interpreter]

theorem exists_compile {source : String}
    (compiles : (NamePattern.compile source).toOption.isSome = true) :
    ∃ pattern, NamePattern.compile source = .ok pattern := by
  obtain ⟨pattern, compiled⟩ := Option.isSome_iff_exists.mp compiles
  exact ⟨pattern, eq_ok_of_toOption compiled⟩

theorem compileNamePattern_eq_ok_iff {source : String} :
    compileNamePattern source = .ok pattern ↔ NamePattern.compile source = .ok pattern := by
  unfold compileNamePattern
  cases NamePattern.compile source with
  | ok other => exact ⟨fun same => congrArg _ (Except.ok.inj same), fun same =>
      congrArg _ (Except.ok.inj same)⟩
  | error refusal =>
    cases refusal with
    | _ =>
      constructor
      · rintro ⟨⟩
      · rintro ⟨⟩

/-- A flaw in the syntax of a pattern. -/
def Pattern.Refusal.IsFlaw (refusal : Pattern.Refusal) : Prop :=
  ∃ complaint position, refusal = .malformed complaint position

/-- A pattern compiles, has a flaw in its syntax, or is refused for another reason. -/
theorem compileNamePattern_cases (source : String) :
    (∃ compiled, NamePattern.compile source = .ok compiled ∧
      compileNamePattern source = .ok compiled) ∨
    (∃ refusal, refusal.IsFlaw ∧ NamePattern.compile source = .error refusal ∧
      compileNamePattern source = .error (.badPattern source refusal)) ∨
    ∃ refusal, ¬ refusal.IsFlaw ∧ NamePattern.compile source = .error refusal ∧
      compileNamePattern source = .error (.defect (.unusablePattern source refusal)) := by
  unfold compileNamePattern
  cases NamePattern.compile source with
  | ok compiled => exact Or.inl ⟨compiled, rfl, rfl⟩
  | error refusal =>
    right
    cases refusal with
    | malformed complaint position => exact Or.inl ⟨_, ⟨complaint, position, rfl⟩, rfl, rfl⟩
    | _ =>
      refine Or.inr ⟨_, ?_, rfl, rfl⟩
      rintro ⟨_, _, ⟨⟩⟩

/-- A pattern that is refused for its syntax only is a fault of the filter. -/
theorem isKind_of_compileNamePattern_eq_error {source : String} {fault : Fault}
    (known : ∀ refusal, NamePattern.compile source = .error refusal → refusal.IsFlaw)
    (refused : compileNamePattern source = .error fault) : fault.isKind .filter = true := by
  obtain ⟨_, _, same⟩ | ⟨_, _, _, same⟩ | ⟨refusal, other, compiled, _⟩ :=
    compileNamePattern_cases source
  · rw [same] at refused
    cases refused
  · rw [same] at refused
    cases refused
    rfl
  · exact absurd (known refusal compiled) other

end Listings

section Sessions

variable (script : ClientScript) (uri logger : String) (pattern : NamePattern) (session : Session)

@[simp]
theorem perform_failing (fault : Option Fault) :
    (ClientScript.failing fault).perform session =
      (match fault with
        | none => .ok ()
        | some fault => .error fault, session) := by
  cases fault with
  | none => rfl
  | some fault => rfl

/-- The session that a query leaves that writes some diagnostics. -/
def ClientScript.left (records : List LogRecord) : Session :=
  let issued := session.adding (.call (.queried "" showDatabases))
  match script.issueFault with
  | some _ => issued
  | none => (issued.notingAll records).adding (.call .streamClosed)

theorem adds_left (records : List LogRecord) :
    session.Adds script.listingCalls (if script.issueFault.isNone then records else [])
      (script.left session records) := by
  have issued := session.adds_call (.queried "" showDatabases)
  unfold ClientScript.left ClientScript.listingCalls
  cases script.issueFault with
  | some fault => exact issued
  | none =>
    have read := issued.trans (Session.adds_notingAll _ records)
    have closed := read.trans (Session.adds_call _ .streamClosed)
    rw [List.append_nil, List.append_nil] at closed
    exact closed

/-- Reading a stream comes to the names found in its items, unless a fault ends it early. -/
theorem perform_streamNames {stream : RowStream} {reading : Reading} {reached : Session}
    (read : perform (stream.read : Action Fault Reading) session = (.ok reading, reached)) :
    ∃ records, (streamNames stream uri logger pattern).perform session =
        (match foundIn pattern reading.items, reading.failure with
          | .error fault, _ | .ok _, some fault => .error fault
          | .ok names, none => .ok (unique names), reached.notingAll records) ∧
      ∀ names, foundIn pattern reading.items = .ok names →
        records = inlineRecords uri logger reading.items := by
  obtain ⟨records, performed, all⟩ := perform_readNames uri logger pattern reading.items reached
  refine ⟨records, ?_, all⟩
  unfold streamNames
  rw [perform_bind, read]
  dsimp only
  rw [perform_bind, performed]
  cases foundIn pattern reading.items with
  | error fault => rfl
  | ok names =>
    dsimp only
    cases reading.failure with
    | none => rfl
    | some fault => rfl

theorem perform_queryNames :
    ∃ records, (queryNames script.client uri logger pattern).perform session =
        (script.queried pattern, script.left session records) ∧
      ∀ names, script.queried pattern = .ok names →
        records = inlineRecords uri logger script.items := by
  let issued := session.adding (.call (.queried "" showDatabases))
  have issue : (script.client.issue "" showDatabases).perform session =
      (match script.issueFault with
        | none => .ok script.stream
        | some fault => .error fault, issued) := by
    unfold ClientScript.client
    cases script.issueFault with
    | none => rfl
    | some fault => rfl
  unfold queryNames ClientScript.left ClientScript.queried
  rw [perform_bind, issue]
  cases script.issueFault with
  | some fault => exact ⟨[], rfl, by rintro _ ⟨⟩⟩
  | none =>
    have read : perform (script.stream.read : Action Fault Reading) issued =
        (.ok ⟨script.items, script.readFault⟩, issued) := rfl
    obtain ⟨records, performed, all⟩ := perform_streamNames uri logger pattern issued read
    have close : ∀ reached, script.stream.close.perform reached =
        (match script.streamCloseFault with
          | none => .ok ()
          | some fault => .error fault, reached.adding (.call .streamClosed)) := by
      intro reached
      unfold ClientScript.stream
      dsimp only
      rw [perform_bind, perform_call]
      exact perform_failing _ script.streamCloseFault
    refine ⟨records, ?_, ?_⟩
    · dsimp only
      rw [perform_closing, close, performed]
      cases script.streamCloseFault with
      | none => rfl
      | some fault => rfl
    · intro names listed
      cases behind : foundIn pattern script.items with
      | ok found => exact all found behind
      | error fault =>
        rw [behind] at listed
        split at listed
        · cases listed
        · cases listed
        · cases listed

theorem perform_listingFault {α : Type} (fault : Fault) :
    ∃ record, (listingFault uri logger fault : Action Fault α).perform session =
      (.error (listingFaultOf uri fault), session.noting record) := by
  unfold listingFault listingFaultOf
  split
  · rw [perform_bind, perform_log]
    exact ⟨_, rfl⟩
  · rw [perform_bind, perform_log]
    exact ⟨_, rfl⟩

variable [Interpreter]

/-- A listing with any client comes to what its query comes to, with the fault restated. It writes
one more diagnostic, which is about a fault unless there are names. -/
theorem perform_listDatabases_queried (client : QueryClient) {source : String}
    (compiles : NamePattern.compile source = .ok pattern) :
    ∃ final, (listDatabases client uri logger source).perform session =
        (((queryNames client uri logger pattern).perform session).1.mapError (listingFaultOf uri),
          ((queryNames client uri logger pattern).perform session).2.noting final) ∧
      ∀ names, ((queryNames client uri logger pattern).perform session).1 = .ok names →
        final.level = .debug := by
  unfold listDatabases
  rw [compileNamePattern_eq_ok_iff.mpr compiles, perform_bind, perform_ofExcept]
  dsimp only
  rw [perform_bind, perform_onFault]
  rcases (queryNames client uri logger pattern).perform session with ⟨fault | names, reached⟩
  · obtain ⟨record, restated⟩ := perform_listingFault uri logger reached fault
    dsimp only
    rw [restated]
    exact ⟨record, rfl, by rintro _ ⟨⟩⟩
  · refine ⟨⟨.debug, logger, toString names.length ++ " database(s) on " ++ uri ++
      " matched " ++ Text.quote source, false⟩, ?_, fun _ _ => rfl⟩
    dsimp only
    rw [perform_bind, perform_log]
    rfl

/-- **What a listing comes to.** -/
theorem perform_listDatabases {source : String}
    (compiles : NamePattern.compile source = .ok pattern) :
    ∃ records final, (listDatabases script.client uri logger source).perform session =
        (script.listing pattern uri, (script.left session records).noting final) ∧
      ∀ names, script.listing pattern uri = .ok names →
        records = inlineRecords uri logger script.items ∧ final.level = .debug := by
  obtain ⟨records, queried, all⟩ := perform_queryNames script uri logger pattern session
  obtain ⟨final, performed, isDebug⟩ :=
    perform_listDatabases_queried uri logger pattern session script.client compiles
  rw [queried] at performed isDebug
  refine ⟨records, final, performed, fun names listed => ?_⟩
  have found := queried_eq_ok_iff.mpr (listing_eq_ok_iff.mp listed)
  exact ⟨all names found, isDebug names found⟩

end Sessions

/-! ### Complete or failed -/

/-- The diagnostics about errors among events. -/
def errorsIn (events : List Event) : List LogRecord :=
  (recordsIn events).filter fun record => record.level = .error

/-- A listing is complete or fails: it has all names that a pattern finds in what its client
delivers, or a fault of the query. -/
structure ListsAllOrFails (script : ClientScript) (pattern : NamePattern) (uri logger : String)
    (session last : Session) (outcome : Except Fault (List String)) : Prop where
  calls : callsIn (session.since last) = script.listingCalls
  succeeds_iff : (∃ names, outcome = .ok names) ↔
    script.Delivers ∧ ∀ name ∈ namesAmong script.items, pattern.find name ≠ .crossed
  complete : ∀ names, outcome = .ok names →
    FirstAppearances ((namesAmong script.items).filter fun name => pattern.find name == .found) names
  errors : ∀ names, outcome = .ok names →
    errorsIn (session.since last) = session.kept (inlineRecords uri logger script.items)
  fails : ∀ fault, outcome = .error fault → fault.isKind .query = true

section AllOrFails

variable {script : ClientScript} {pattern : NamePattern} {uri logger source : String}
  {session last : Session} {outcome : Except Fault (List String)}

theorem errorsIn_of_adds {calls : List Call} {records : List LogRecord} {final : LogRecord}
    (adds : session.Adds calls (records ++ [final]) last)
    (are : ∀ record ∈ records, record.level = .error) (isDebug : final.level = .debug) :
    errorsIn (session.since last) = session.kept records := by
  unfold errorsIn Session.kept
  rw [adds.records, Session.kept, List.filter_append, List.filter_append]
  have all : (records.filter fun record => session.threshold ≤ record.level.weight).filter
      (fun record => record.level = .error) =
        records.filter fun record => session.threshold ≤ record.level.weight :=
    List.filter_eq_self.mpr fun record member =>
      decide_eq_true (are record (List.mem_of_mem_filter member))
  have none : ([final].filter fun record => session.threshold ≤ record.level.weight).filter
      (fun record => record.level = .error) = [] := by
    refine List.filter_eq_nil_iff.mpr fun record member => ?_
    rw [List.mem_singleton.mp (List.mem_of_mem_filter member), isDebug]
    decide
  rw [all, none, List.append_nil]

/-- The order of the rows does not matter for the names as a set. -/
theorem mem_listing_of_perm {items : List RowItem} {names : List String}
    (permuted : items.Perm script.items) (listed : script.listing pattern uri = .ok names) :
    ∃ others, ({ script with items := items } : ClientScript).listing pattern uri = .ok others ∧
      ∀ name, name ∈ others ↔ name ∈ names := by
  obtain ⟨⟨issues, readable, readsOn, closes⟩, seeks, rfl⟩ := listing_eq_ok_iff.mp listed
  have sameNames : (namesAmong items).Perm (namesAmong script.items) := permuted.filterMap _
  refine ⟨_, listing_eq_ok_iff.mpr ⟨⟨issues, ?_, readsOn, closes⟩, ?_, rfl⟩, ?_⟩
  · exact fun item member => readable item (permuted.mem_iff.mp member)
  · exact fun name member => seeks name (sameNames.mem_iff.mp member)
  · intro name
    rw [mem_unique, mem_unique]
    exact (sameNames.filter _).mem_iff

variable [Interpreter]

theorem listsAllOrFails_of_compile (compiles : NamePattern.compile source = .ok pattern)
    (performed : (listDatabases script.client uri logger source).perform session = (outcome, last)) :
    ListsAllOrFails script pattern uri logger session last outcome := by
  obtain ⟨records, final, listed, all⟩ :=
    perform_listDatabases script uri logger pattern session compiles
  cases listed.symm.trans performed
  have adds := (adds_left script session records).trans (Session.adds_noting _ final)
  constructor
  · exact adds.calls.trans (List.append_nil _)
  · constructor
    · rintro ⟨_, succeeds⟩
      obtain ⟨delivers, seeks, _⟩ := listing_eq_ok_iff.mp succeeds
      exact ⟨delivers, seeks⟩
    · rintro ⟨delivers, seeks⟩
      exact ⟨_, listing_eq_ok_iff.mpr ⟨delivers, seeks, rfl⟩⟩
  · intro names succeeds
    obtain ⟨_, _, rfl⟩ := listing_eq_ok_iff.mp succeeds
    exact firstAppearances_unique _
  · intro names succeeds
    obtain ⟨rfl, isDebug⟩ := all names succeeds
    rw [(listing_eq_ok_iff.mp succeeds).1.issues] at adds
    refine errorsIn_of_adds adds (fun record member => ?_) isDebug
    obtain ⟨message, _, rfl⟩ := List.mem_map.mp member
    rfl
  · exact fun _ => isKind_of_listing_eq_error

/-- **A listing is complete or fails.** For a pattern that compiles, there is one statement and one
close of its stream, and either all names that the pattern finds or a fault of the query, whatever
the client does. A pattern with a flaw in its syntax is a fault of the filter, and the client is
left alone. -/
theorem lists_all_or_fails (script : ClientScript) (uri logger source : String) (session last : Session)
    (outcome : Except Fault (List String))
    (performed : (listDatabases script.client uri logger source).perform session = (outcome, last)) :
    (∀ pattern, NamePattern.compile source = .ok pattern →
      ListsAllOrFails script pattern uri logger session last outcome ∧
        ∀ items names, items.Perm script.items → outcome = .ok names →
          ∃ others reached,
            (listDatabases ({ script with items := items } : ClientScript).client uri logger
              source).perform session = (.ok others, reached) ∧
            ∀ name, name ∈ others ↔ name ∈ names) ∧
    ∀ complaint position, NamePattern.compile source = .error (.malformed complaint position) →
      ∃ fault, outcome = .error fault ∧ fault.isKind .filter = true ∧ last = session := by
  constructor
  · intro pattern compiles
    refine ⟨listsAllOrFails_of_compile compiles performed, fun items names permuted succeeds => ?_⟩
    obtain ⟨_, _, listed, _⟩ := perform_listDatabases script uri logger pattern session compiles
    cases listed.symm.trans performed
    obtain ⟨others, listedOthers, sameNames⟩ := mem_listing_of_perm permuted succeeds
    obtain ⟨_, _, performedOthers, _⟩ := perform_listDatabases
      ({ script with items := items } : ClientScript) uri logger pattern session compiles
    rw [listedOthers] at performedOthers
    exact ⟨others, _, performedOthers, sameNames⟩
  · intro complaint position malformed
    have refused : compileNamePattern source =
        .error (.badPattern source (.malformed complaint position)) := by
      unfold compileNamePattern
      rw [malformed]
    unfold listDatabases at performed
    rw [refused, perform_bind, perform_ofExcept] at performed
    cases performed
    exact ⟨_, rfl, rfl, rfl⟩

end AllOrFails

/-- A pattern that is found in two of three names, one of which comes twice, with an error of a
single row between them. -/
theorem lists_all_or_fails_twice_found :
    let script : ClientScript := ⟨[.row (.list [.text "north", .int 1]), .inlineError "timeout",
      .row (.list [.text "south"]), .row (.list [.text "north"]), .row (.text "th")],
      none, none, none, none⟩
    ∃ pattern names last, NamePattern.compile "o.th" = .ok pattern ∧
      (listDatabases script.client "https://f.k" "log" "o.th").perform (.start ⟨[], []⟩) =
        (.ok names, last) ∧
      names = ["north", "south"] ∧
      ListsAllOrFails script pattern "https://f.k" "log" (.start ⟨[], []⟩) last (.ok names) := by
  intro script
  have listed : ((listDatabases script.client "https://f.k" "log" "o.th").perform
      (.start ⟨[], []⟩)).1.toOption = some ["north", "south"] := by decide +kernel
  obtain ⟨pattern, compiled⟩ : ∃ pattern, NamePattern.compile "o.th" = .ok pattern :=
    exists_compile (by decide +kernel)
  generalize ended : (listDatabases script.client "https://f.k" "log" "o.th").perform
    (.start ⟨[], []⟩) = performed at listed
  obtain ⟨outcome, last⟩ := performed
  have allOrFails := lists_all_or_fails script "https://f.k" "log" "o.th" _ last outcome ended
  obtain rfl := eq_ok_of_toOption listed
  exact ⟨pattern, _, last, compiled, rfl, rfl, (allOrFails.1 pattern compiled).1⟩

/-- All that a listing asks of its client succeeds, and the pattern cannot be sought in the only
name: there is no list. -/
theorem listing_unsought :
    let script : ClientScript := ⟨[.row (.list [.text "abb"])], none, none, none, none⟩
    ∃ pattern fault last, NamePattern.compile "((?:(a)|b))++" = .ok pattern ∧ script.Delivers ∧
      (listDatabases script.client "https://fabrikam.kusto.windows.net" "kschema.cluster"
        "((?:(a)|b))++").perform (.start ⟨[], []⟩) = (.error fault, last) := by
  intro script
  have crossed : (NamePattern.compile "((?:(a)|b))++").toOption.map (·.find "abb") =
      some .crossed := by decide +kernel
  obtain ⟨pattern, compiled⟩ : ∃ pattern, NamePattern.compile "((?:(a)|b))++" = .ok pattern :=
    exists_compile (by decide +kernel)
  have sought : pattern.find "abb" = .crossed := by
    rw [compiled] at crossed
    exact Option.some.inj crossed
  have delivers : script.Delivers := by
    refine ⟨rfl, fun item member => ?_, rfl, rfl⟩
    rw [List.mem_singleton.mp member]
    exact ⟨_, rfl⟩
  generalize ended : (listDatabases script.client "https://fabrikam.kusto.windows.net"
    "kschema.cluster" "((?:(a)|b))++").perform (.start ⟨[], []⟩) = performed
  obtain ⟨outcome, last⟩ := performed
  have allOrFails := listsAllOrFails_of_compile compiled ended
  cases outcome with
  | error fault => exact ⟨pattern, fault, last, compiled, delivers, rfl⟩
  | ok names =>
    exact absurd sought ((allOrFails.succeeds_iff.mp ⟨names, rfl⟩).2 "abb" List.mem_cons_self)

end FleetSchema
