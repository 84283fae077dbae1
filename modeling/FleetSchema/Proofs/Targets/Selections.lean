/-
**Selections that make sense.**

A selection is turned into a filter exactly when what it asks for goes together; otherwise it is
refused with a fault of the filter. A filter that comes of a selection is filled in for one way to
select at most, so that resolving it neither warns about further ways nor finds fault with it.

* `Selection.IsSensible`: what a selection that makes sense is;
* `check_cases`: a check passes or ends in a fault, according to what it looks at;
* `filters_sensible`: the filters of selections, and what resolving them does not do.
-/

import FleetSchema.Proofs.Session.Leaving
import FleetSchema.Proofs.Targets.AllOrNothing
import FleetSchema.Proofs.Text.Trimming

namespace FleetSchema

open FleetSchema.Action

/-! ### Names that are blank -/

namespace Text

/-- A text of blanks only. -/
def IsBlankText (text : String) : Prop := ∀ letter ∈ text.toList, isBlank letter = true

instance (text : String) : Decidable (IsBlankText text) :=
  List.decidableBAll _ text.toList

theorem trimChars_eq_nil_iff {letters : List Char} :
    trimChars letters = [] ↔ ∀ letter ∈ letters, isBlank letter = true := by
  unfold trimChars
  rw [dropTail_eq_nil_iff]
  constructor
  · intro kept letter inside
    rw [← List.takeWhile_append_dropWhile (p := isBlank) (l := letters)] at inside
    obtain front | behind := List.mem_append.mp inside
    · exact List.all_eq_true.mp List.all_takeWhile letter front
    · exact kept letter behind
  · intro blank letter inside
    exact blank letter ((List.dropWhile_sublist _).subset inside)

/-- Trimming leaves nothing of a text exactly when it is blank. -/
theorem trim_eq_empty_iff {text : String} : trim text = "" ↔ IsBlankText text := by
  unfold trim IsBlankText
  rw [← trimChars_eq_nil_iff]
  constructor
  · intro empty
    have letters := congrArg String.toList empty
    rwa [String.toList_ofList] at letters
  · intro empty
    rw [empty]

end Text

/-! ### What a selection asks for -/

namespace Selection

variable (selection : Selection)

/-- A pattern is given. -/
def HasPattern : Prop := selection.db.getD "" ≠ ""

/-- Some name that is not blank is given. -/
def HasNames : Prop := ∃ name ∈ selection.names, ¬ Text.IsBlankText name

/-- A lookup service is given. -/
def HasService : Prop := selection.webhook.getD "" ≠ ""

/-- The names that are not blank, without the blanks around them. -/
def statedNames : List String :=
  (selection.names.filter fun name => ¬ Text.IsBlankText name).map Text.trim

/-- A selection that makes sense: one way to select at most, a label for a lookup service only, a
lookup service on the web, a pattern that compiles, and no way to select when all databases are
asked for. -/
structure IsSensible [Interpreter] : Prop where
  patternAlone : selection.HasPattern → ¬ selection.HasNames ∧ ¬ selection.HasService
  namesAlone : selection.HasNames → ¬ selection.HasService
  labelled : selection.label.getD "" ≠ "" → selection.HasService
  onWeb : selection.HasService →
    ClusterUri.startsAs "http://" (selection.webhook.getD "") = true ∨
      ClusterUri.startsAs "https://" (selection.webhook.getD "") = true
  compiles : selection.HasPattern →
    ∃ compiled, NamePattern.compile (selection.db.getD "") = .ok compiled
  whole : selection.selectAll = true →
    ¬ selection.HasPattern ∧ ¬ selection.HasNames ∧ ¬ selection.HasService

theorem givenNames_eq : givenNames selection.names = selection.statedNames := by
  unfold givenNames statedNames
  rw [List.filter_map]
  refine congrArg _ (List.filter_congr fun name _ => ?_)
  by_cases blank : Text.IsBlankText name
  · simp [blank, Text.trim_eq_empty_iff.mpr blank]
  · simp [blank, mt Text.trim_eq_empty_iff.mp blank]

theorem hasNames_iff : selection.HasNames ↔ selection.draft.dbs ≠ [] := by
  unfold draft
  rw [givenNames_eq]
  unfold statedNames HasNames
  simp [List.filter_eq_nil_iff]

/-! ### What a check looks at -/

end Selection

section Modes

variable {filter : TargetFilter}

/-- One way to select is filled in at most, when no two are. -/
theorem populatedModes_length_le_one_iff : filter.populatedModes.length ≤ 1 ↔
    (filter.db ≠ "" → filter.dbs = [] ∧ filter.webhook = "") ∧
      (filter.dbs ≠ [] → filter.webhook = "") := by
  unfold TargetFilter.populatedModes
  by_cases db : filter.db = "" <;> by_cases dbs : filter.dbs = [] <;>
    by_cases webhook : filter.webhook = "" <;> simp [db, dbs, webhook]

theorem mode_eq_all_iff :
    filter.mode = .all ↔ filter.db = "" ∧ filter.dbs = [] ∧ filter.webhook = "" := by
  unfold TargetFilter.mode TargetFilter.populatedModes
  by_cases db : filter.db = "" <;> by_cases dbs : filter.dbs = [] <;>
    by_cases webhook : filter.webhook = "" <;> simp [db, dbs, webhook]

end Modes

namespace Selection

/-- A check is passed exactly when something holds, and otherwise ends in a fault of a class. -/
def Decides (passes : Prop) (faults : Fault → Prop) : Except Fault Unit → Prop
  | .ok () => passes
  | .error fault => ¬ passes ∧ faults fault

section Decides

variable {passes others : Prop} {faults : Fault → Prop} {outcome : Except Fault Unit}
  {fault : Fault}

theorem Decides.congr (decides : Decides passes faults outcome) (same : passes ↔ others) :
    Decides others faults outcome := by
  rwa [← propext same]

theorem decides_pure (holds : passes) : Decides passes faults (.ok ()) := holds

/-- A step that refuses on a condition stands before the steps behind it. -/
theorem Decides.unless {condition : Prop} [Decidable condition]
    (decides : Decides passes faults outcome) (isOne : faults fault) :
    Decides (¬ condition ∧ passes) faults (if condition then .error fault else outcome) := by
  by_cases refused : condition
  · rw [if_pos refused]
    exact ⟨fun both => both.1 refused, isOne⟩
  · rw [if_neg refused]
    exact decides.congr (iff_and_self.mpr fun _ => refused)

end Decides

/-- What a check looks at, one field for each of its steps. -/
structure Passes [Interpreter] (filter : TargetFilter) (selectAll : Bool) : Prop where
  modes : filter.populatedModes.length ≤ 1
  label : filter.label ≠ "" → filter.webhook ≠ ""
  address : filter.webhook ≠ "" → isWebAddress filter.webhook = true
  pattern : filter.db ≠ "" → ∃ compiled, NamePattern.compile filter.db = .ok compiled
  whole : selectAll = true → filter.mode = .all

/-- What a check ends in: a fault of the filter, or that of its pattern. -/
def Refuses [Interpreter] (filter : TargetFilter) (fault : Fault) : Prop :=
  fault.isKind .filter = true ∨ compileNamePattern filter.db = .error fault

/-- The step that compiles a pattern that is given. -/
theorem Decides.pattern [Interpreter] (filter : TargetFilter) {passes : Prop}
    {outcome : Except Fault Unit} (decides : Decides passes (Refuses filter) outcome) :
    Decides ((filter.db ≠ "" → ∃ compiled, NamePattern.compile filter.db = .ok compiled) ∧ passes)
      (Refuses filter)
      (if (!filter.db.isEmpty) = true then
        (compileNamePattern filter.db).bind fun _ => outcome
      else outcome) := by
  by_cases given : filter.db = ""
  · rw [if_neg (by simp [given])]
    exact decides.congr (iff_and_self.mpr fun _ empty => absurd given empty)
  rw [if_pos (by simpa using given)]
  cases compiled : compileNamePattern filter.db with
  | ok pattern =>
    have compiles := compileNamePattern_eq_ok_iff.mp compiled
    exact decides.congr (iff_and_self.mpr fun _ _ => ⟨pattern, compiles⟩)
  | error fault =>
    refine ⟨fun both => ?_, Or.inr compiled⟩
    obtain ⟨pattern, compiles⟩ := both.1 given
    rw [compileNamePattern_eq_ok_iff.mpr compiles] at compiled
    cases compiled

/-- A check is passed exactly when all that it looks at is right. -/
theorem decides_check [Interpreter] (filter : TargetFilter) (selectAll : Bool) :
    Decides (Passes filter selectAll) (Refuses filter) (check filter selectAll) := by
  unfold check
  simp only [bind, Except.bind, throw, throwThe, MonadExceptOf.throw, pure, Except.pure]
  refine Decides.congr (.unless (.unless (.unless (.pattern filter (.unless (decides_pure trivial)
    (Or.inl rfl))) (Or.inl rfl)) (Or.inl rfl)) (Or.inl rfl)) ?_
  constructor
  · rintro ⟨modes, label, address, pattern, whole, -⟩
    exact ⟨Nat.not_lt.mp modes, by simpa using label, by simpa using address, pattern,
      by simpa using whole⟩
  · intro passes
    exact ⟨Nat.not_lt.mpr passes.modes, by simpa using passes.label, by simpa using passes.address,
      passes.pattern, by simpa using passes.whole, trivial⟩

/-- The filter that a selection writes passes its check exactly when the selection makes sense. -/
theorem passes_draft_iff [Interpreter] (selection : Selection) :
    Passes selection.draft selection.selectAll ↔ selection.IsSensible := by
  have names := selection.hasNames_iff
  constructor
  · intro passes
    obtain ⟨pattern, list⟩ := populatedModes_length_le_one_iff.mp passes.modes
    refine ⟨fun db => ⟨?_, ?_⟩, fun given => ?_, passes.label, fun service => ?_, passes.pattern,
      fun all => ?_⟩
    · exact fun given => names.mp given (pattern db).1
    · exact fun service => service (pattern db).2
    · exact fun service => service (list (names.mp given))
    · exact Bool.or_eq_true_iff.mp (passes.address service)
    · obtain ⟨db, dbs, webhook⟩ := mode_eq_all_iff.mp (passes.whole all)
      exact ⟨fun given => given db, fun given => names.mp given dbs, fun given => given webhook⟩
  · intro sensible
    refine ⟨populatedModes_length_le_one_iff.mpr ⟨fun db => ⟨?_, ?_⟩, fun dbs => ?_⟩,
      sensible.labelled, fun service => ?_, sensible.compiles, fun all => ?_⟩
    · exact by_contra fun dbs => (sensible.patternAlone db).1 (names.mpr dbs)
    · exact by_contra (sensible.patternAlone db).2
    · exact by_contra (sensible.namesAlone (names.mpr dbs))
    · exact Bool.or_eq_true_iff.mpr (sensible.onWeb service)
    · obtain ⟨db, dbs, webhook⟩ := sensible.whole all
      exact mode_eq_all_iff.mpr ⟨by_contra db, by_contra (mt names.mpr dbs), by_contra webhook⟩

/-- A selection is turned into its filter when it makes sense, and into a fault otherwise. -/
theorem filter_cases [Interpreter] (selection : Selection) :
    (selection.IsSensible ∧ selection.filter = .ok selection.draft) ∨
      ∃ fault, ¬ selection.IsSensible ∧ selection.filter = .error fault ∧
        Refuses selection.draft fault := by
  have decided := decides_check selection.draft selection.selectAll
  rw [passes_draft_iff] at decided
  unfold filter
  cases checked : check selection.draft selection.selectAll with
  | ok value =>
    rw [checked] at decided
    exact Or.inl ⟨decided, rfl⟩
  | error fault =>
    rw [checked] at decided
    exact Or.inr ⟨fault, decided.1, rfl, decided.2⟩

end Selection

/-! ### What a resolution leaves behind -/

/-- The warning that a filter for an address is filled in for several ways to select. -/
def Event.WarnsOfModes (uri : String) (event : Event) : Prop :=
  ∃ logger message showsFault, event = .log ⟨.warning, logger, message, showsFault⟩ ∧
    ClusterUri.startsAs ("filter for " ++ uri ++ " sets several modes") message = true

section Resolutions

variable {own : Event → Prop} {client : QueryClient} {cluster : Cluster} {filter : TargetFilter}
  {service : LookupService} {uri logger : String}

theorem addsOnly_isSelected (pattern : NamePattern) (name : String) :
    (isSelected pattern name).AddsOnly own := by
  unfold isSelected
  split
  · exact addsOnly_pure _
  · exact addsOnly_pure _
  · exact addsOnly_throw _

theorem addsOnly_readNames
    (milds : ∀ record : LogRecord, record.level ≠ .warning → own (.log record))
    (pattern : NamePattern) (items : List RowItem) :
    (readNames uri logger pattern items).AddsOnly own := by
  induction items with
  | nil => exact addsOnly_pure _
  | cons item rest ih =>
    unfold readNames
    cases item with
    | inlineError message =>
      exact (addsOnly_mild milds (by decide)).bind fun _ _ _ _ => ih
    | row cells =>
      refine (addsOnly_ofDefect _).bind fun _ first _ _ => ?_
      refine (addsOnly_isSelected pattern first.toText).bind fun _ _ _ _ => ?_
      exact ih.bind fun _ _ _ _ => addsOnly_pure _

/-- A listing leaves the events of its client behind, and no warning of its own. -/
theorem addsOnly_listDatabases [Interpreter]
    (milds : ∀ record : LogRecord, record.level ≠ .warning → own (.log record))
    (adds : client.AddsOnly own) (source : String) :
    (listDatabases client uri logger source).AddsOnly own := by
  unfold listDatabases
  refine (addsOnly_ofExcept _).bind fun _ pattern _ _ => AddsOnly.bind (.onFault ?_ ?_)
    fun _ _ _ _ => (addsOnly_mild milds (by decide)).bind fun _ _ _ _ => addsOnly_pure _
  · refine (adds.issue _ _).bind fun session stream reached issued => .closing ?_
      (adds.closeStream _ _ _ _ _ issued)
    refine AddsOnly.bind (adds.read _ _ _ _ _ issued) fun _ reading _ _ => ?_
    refine (addsOnly_readNames milds pattern reading.items).bind fun _ _ _ _ => ?_
    split
    · exact addsOnly_pure _
    · exact addsOnly_throw _
  · intro fault
    unfold listingFault
    split
    · exact (addsOnly_mild milds (by decide)).bind fun _ _ _ _ => addsOnly_throw _
    · exact (addsOnly_mild milds (by decide)).bind fun _ _ _ _ => addsOnly_throw _

theorem addsOnly_lookUp (adds : service.AddsOnly own) :
    (Targets.lookUp cluster filter service).AddsOnly own := by
  unfold Targets.lookUp
  refine (addsOnly_ofExcept _).bind fun _ name _ _ => AddsOnly.bind (.onFault (adds _ _ _) ?_)
    fun _ _ _ _ => addsOnly_ofExcept _
  exact fun fault => addsOnly_throw _

/-- The warning of a resolution that selects all databases is another one. -/
theorem not_warnsOfModes_all (logger uri : String) : ¬ Event.WarnsOfModes uri
    (.log ⟨.warning, logger, "missing db filter - taking all databases in " ++ uri, false⟩) := by
  rintro ⟨_, _, _, ⟨⟩, starts⟩
  unfold ClusterUri.startsAs at starts
  rw [String.toList_append, String.toList_append, String.toList_append] at starts
  exact absurd starts (by simp)

/-- Nothing is warned about without several ways to select. -/
theorem warnIgnored_eq (modes : filter.populatedModes.length ≤ 1) :
    Targets.warnIgnored cluster filter = pure () := by
  unfold Targets.warnIgnored
  split
  · next several => simp [several] at modes
  · rfl

/-- Without several ways to select, a resolution leaves the events of its collaborators behind, and
no warning about several ways. -/
theorem addsOnly_resolve [Interpreter] {service : Option LookupService}
    (modes : filter.populatedModes.length ≤ 1) (adds : cluster.client.AddsOnly own)
    (addsLookup : (service.getD cluster.lookupService).AddsOnly own) :
    (resolve cluster filter service).AddsOnly
      fun event => event.WarnsOfModes cluster.uri → own event := by
  have milds (record : LogRecord) (mild : record.level ≠ .warning) :
      Event.WarnsOfModes cluster.uri (.log record) → own (.log record) := by
    rintro ⟨_, _, _, ⟨⟩, _⟩
    exact absurd rfl mild
  have fromOwn (event : Event) (isOwn : own event) : event.WarnsOfModes cluster.uri → own event :=
    fun _ => isOwn
  have addsClient := adds.mono fromOwn
  unfold resolve
  rw [warnIgnored_eq modes]
  refine (addsOnly_pure _).bind fun _ _ _ _ => AddsOnly.bind (.onFault ?_ fun fault => ?_)
    fun _ _ _ _ => addsOnly_pure _
  · unfold Targets.source
    cases filter.mode with
    | singleDb => exact addsOnly_listDatabases milds addsClient filter.db
    | explicitList => exact addsOnly_pure _
    | webhook => exact (addsOnly_lookUp addsLookup).mono fromOwn
    | all =>
      refine (addsOnly_log ?_).bind fun _ _ _ _ => addsOnly_listDatabases milds addsClient ""
      exact fun warns => absurd warns (not_warnsOfModes_all cluster.logger cluster.uri)
  · unfold Targets.resolveFault
    split
    · exact (addsOnly_mild milds (by decide)).bind fun _ _ _ _ => addsOnly_throw _
    · exact addsOnly_throw _

end Resolutions

/-! ### Faults of the filter -/

/-- A lookup service states no fault of the filter when it is asked in a session. -/
def LookupService.SparesFilter (service : LookupService) (session : Session) : Prop :=
  ∀ endpoint cluster label fault,
    ((service.lookup endpoint cluster label).perform session).1 = .error fault →
      fault.isKind .filter = false

section Faults

variable {cluster : Cluster} {filter : TargetFilter} {service : LookupService}
  {first last : Session} {fault : Fault}

/-- A fault is of one kind only. -/
theorem isKind_eq_false_of_ne {kind other : FaultKind} (known : fault.isKind kind = true)
    (different : kind ≠ other) : fault.isKind other = false := by
  unfold Fault.isKind at *
  rw [beq_iff_eq.mp known]
  simpa using different

theorem isKind_of_name_eq_error {uri : String} (unnamed : ClusterUri.name uri = .error fault) :
    fault.isKind .clusterUri = true := by
  unfold ClusterUri.name at unnamed
  split at unnamed
  · split at unnamed
    · cases unnamed
      rfl
    · cases unnamed
  · cases unnamed
    rfl

/-- A lookup finds no fault with the filter, if its service does not. -/
theorem lookUp_sparesFilter (spares : service.SparesFilter first)
    (performed : (Targets.lookUp cluster filter service).perform first = (.error fault, last)) :
    fault.isKind .filter = false := by
  unfold Targets.lookUp at performed
  obtain ⟨_, unnamed, ⟨⟩⟩ | ⟨name, _, named, performed⟩ := perform_bind_cases performed
  · rw [perform_ofExcept] at unnamed
    exact isKind_eq_false_of_ne (isKind_of_name_eq_error (Prod.mk.inj unnamed).1) (by decide)
  rw [perform_ofExcept] at named
  cases (Prod.mk.inj named).2
  obtain ⟨_, failed, ⟨⟩⟩ | ⟨answer, _, _, performed⟩ := perform_bind_cases performed
  · rw [perform_onFault] at failed
    split at failed
    · cases failed
    · next cause reached looked =>
      cases failed
      split
      · exact spares _ _ _ cause (congrArg Prod.fst looked)
      · rfl
  · rw [perform_ofExcept] at performed
    have unread := (Prod.mk.inj performed).1
    unfold answeredNames at unread
    split at unread
    · cases unread
    · cases unread
      rfl

/-- The service behind a web address finds no fault with a filter, unless the web does. -/
theorem overWeb_sparesFilter (patience : Value) (logger : String)
    (web : ∀ fault, first.web.head? = some (.error fault) → fault.isKind .filter = false) :
    (LookupService.overWeb patience logger).SparesFilter first := by
  intro endpoint cluster label fault failed
  obtain isLookup | unstated | next := overWeb_eq_error (Prod.ext failed rfl)
  · exact isKind_eq_false_of_ne isLookup (by decide)
  · refine Bool.eq_false_iff.mpr fun isFilter => ?_
    rw [Fault.isStated_of_isKind isFilter] at unstated
    cases unstated
  · exact web fault next

/-- The source of names finds no fault with a filter whose pattern compiles. -/
theorem source_sparesFilter [Interpreter] (spares : service.SparesFilter first)
    (compiles : filter.db ≠ "" → ∃ compiled, NamePattern.compile filter.db = .ok compiled)
    (performed : (Targets.source cluster filter service filter.mode).perform first =
      (.error fault, last)) : fault.isKind .filter = false := by
  have listed {source : String} {start : Session}
      (compiles : ∃ compiled, NamePattern.compile source = .ok compiled)
      (performed : (cluster.list source).perform start = (.error fault, last)) :
      fault.isKind .filter = false :=
    isKind_eq_false_of_ne (isKind_of_listDatabases_eq_error compiles performed) (by decide)
  cases isMode : filter.mode with
  | singleDb =>
    rw [isMode] at performed
    exact listed (compiles (db_of_mode isMode)) performed
  | explicitList =>
    rw [isMode] at performed
    cases performed
  | webhook =>
    rw [isMode] at performed
    exact lookUp_sparesFilter spares performed
  | all =>
    rw [isMode] at performed
    unfold Targets.source at performed
    rw [perform_bind, perform_log] at performed
    exact listed exists_compile_empty performed

/-- The fault of a resolution is that of its source, once it has warned. -/
theorem resolve_eq_error_source [Interpreter] {service : Option LookupService}
    (performed : (resolve cluster filter service).perform first = (.error fault, last)) :
    ∃ warned reached, (Targets.warnIgnored cluster filter).perform first = (.ok (), warned) ∧
      (Targets.source cluster filter (service.getD cluster.lookupService) filter.mode).perform
        warned = (.error fault, reached) := by
  obtain ⟨warnings, warns⟩ := perform_warnIgnored first cluster filter
  unfold resolve at performed
  rw [perform_bind, warns] at performed
  obtain ⟨_, failed, ⟨⟩⟩ | ⟨_, _, _, performed⟩ := perform_bind_cases performed
  · rw [perform_onFault] at failed
    split at failed
    · cases failed
    · next cause reached ended =>
      refine ⟨_, reached, warns, ?_⟩
      unfold Targets.resolveFault at failed
      split at failed
      · rw [perform_bind, perform_log] at failed
        cases failed
        exact ended
      · cases failed
        exact ended
  · cases performed

end Faults

/-! ### Filters of selections -/

/-- **A selection gives a filter exactly when it makes sense.** A pattern that is given compiles or
has a flaw in its syntax. Then a selection that makes no sense is refused with a fault of the
filter; one that does gives the filter that it writes, which is filled in for one way to select at
most. Resolving this filter finds no fault with it, unless the lookup service does, and whatever its
collaborators leave behind, it never warns about several ways to select of its own accord. -/
theorem filters_sensible [Interpreter] (selection : Selection)
    (known : ∀ refusal, NamePattern.compile (selection.db.getD "") = .error refusal →
      refusal.IsFlaw) :
    ((∃ filter, selection.filter = .ok filter) ↔ selection.IsSensible) ∧
    (∀ fault, selection.filter = .error fault → fault.isKind .filter = true) ∧
    ∀ filter, selection.filter = .ok filter →
      filter = ⟨selection.db.getD "", selection.statedNames, selection.webhook.getD "",
        selection.label.getD ""⟩ ∧
      filter.populatedModes.length ≤ 1 ∧
      ∀ (cluster : Cluster) (service : Option LookupService),
        (∀ session fault last,
          (service.getD cluster.lookupService).SparesFilter session →
          (resolve cluster filter service).perform session = (.error fault, last) →
            fault.isKind .filter = false) ∧
        ∀ own : Event → Prop, cluster.client.AddsOnly own →
          (service.getD cluster.lookupService).AddsOnly own →
          ∀ session : Session,
            ∀ event ∈ session.since ((resolve cluster filter service).perform session).2,
              event.WarnsOfModes cluster.uri → own event := by
  obtain ⟨sensible, filtered⟩ | ⟨fault, senseless, refused, refuses⟩ := selection.filter_cases
  · refine ⟨⟨fun _ => sensible, fun _ => ⟨_, filtered⟩⟩, fun fault failed => ?_,
      fun filter same => ?_⟩
    · rw [filtered] at failed
      cases failed
    rw [filtered] at same
    cases same
    have passes := selection.passes_draft_iff.mpr sensible
    refine ⟨?_, passes.modes, fun cluster service => ⟨fun session fault last spares performed => ?_,
      fun own adds addsLookup session event inside => ?_⟩⟩
    · rw [← Selection.givenNames_eq]
      rfl
    · obtain ⟨_, _, warned, ended⟩ := resolve_eq_error_source performed
      rw [warnIgnored_eq passes.modes] at warned
      cases warned
      exact source_sparesFilter spares passes.pattern ended
    · exact (addsOnly_resolve passes.modes adds addsLookup session).of_mem inside
  · refine ⟨⟨?_, fun sensible => absurd sensible senseless⟩, fun other same => ?_, ?_⟩
    · rintro ⟨filter, same⟩
      rw [refused] at same
      cases same
    · rw [refused] at same
      cases same
      exact refuses.elim id (isKind_of_compileNamePattern_eq_error known)
    · intro filter same
      rw [refused] at same
      cases same

/-- A pattern beside a name of blanks, for a cluster whose client states a fault of the filter. -/
theorem filters_sensible_blank_name :
    let selection : Selection := ⟨some "^ab", [" "], none, none, false⟩
    let script : ClientScript := ⟨[], none, some (.stated .filter "no"), none, none⟩
    let cluster : Cluster := ⟨"https://f.k", script.client, "log", none⟩
    let session := Session.start ⟨[], []⟩
    selection.IsSensible ∧
      ∃ fault last, (resolve cluster ⟨"^ab", [], "", ""⟩ none).perform session =
          (.error fault, last) ∧ fault.isKind .filter = false ∧
        ∀ event ∈ session.since last, ¬ event.WarnsOfModes "https://f.k" := by
  intro selection script cluster session
  obtain ⟨sensible, _, filters⟩ := filters_sensible selection fun refusal refused => by
    obtain ⟨compiled, compiles⟩ : ∃ compiled, NamePattern.compile "^ab" = .ok compiled :=
      exists_compile (by decide +kernel)
    cases compiles.symm.trans refused
  have filtered : selection.filter = .ok ⟨"^ab", [], "", ""⟩ :=
    eq_ok_of_toOption (by decide +kernel)
  obtain ⟨_, _, resolves⟩ := filters _ filtered
  obtain ⟨spared, unwarned⟩ := resolves cluster none
  have calls (call : Call) : ¬ (Event.call call).WarnsOfModes "https://f.k" := by
    rintro ⟨_, _, _, ⟨⟩, _⟩
  have milds (record : LogRecord) (mild : record.level ≠ .warning) :
      ¬ (Event.log record).WarnsOfModes "https://f.k" := by
    rintro ⟨_, _, _, ⟨⟩, _⟩
    exact mild rfl
  have unwarned := unwarned (fun event => ¬ event.WarnsOfModes "https://f.k")
    (script.addsOnly_client calls) (LookupService.addsOnly_overWeb calls milds _ _) session
  have failed : ((resolve cluster ⟨"^ab", [], "", ""⟩ none).perform session).1.toOption = none := by
    decide +kernel
  generalize performed : (resolve cluster ⟨"^ab", [], "", ""⟩ none).perform session = ended
    at failed unwarned
  obtain ⟨fault | targets, last⟩ := ended
  · refine ⟨sensible.mp ⟨_, filtered⟩, fault, last, rfl, ?_, fun event inside warns =>
      unwarned event inside warns warns⟩
    exact spared session fault last (overWeb_sparesFilter _ _ (by rintro _ ⟨⟩)) performed
  · cases failed

end FleetSchema
