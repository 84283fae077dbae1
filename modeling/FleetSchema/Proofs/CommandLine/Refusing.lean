/-
**What becomes of a pattern that is refused.**

A pattern with a flaw in its syntax is a fault of the filter wherever it is used, and every command
ends with the code for what the user does wrong, unless the console refuses the message. A pattern
that is refused for another reason is not: its fault is none that this library states, nobody
expects it, and a command that meets it has no code.

* `Handles`: what is said of every pattern;
* `Escapes`: what becomes of a pattern that is refused for another reason than its syntax;
* `handles_or_escapes`: a pattern is handled, unless it is refused for one of the other reasons.
-/

import FleetSchema.CommandLine
import FleetSchema.Proofs.Console.Markup
import FleetSchema.Proofs.Pattern.Refusals
import FleetSchema.Proofs.Targets.Selections

namespace FleetSchema

open FleetSchema.Action

namespace CommandLine

/-- A command ends with the code for what the user does wrong, once a message is shown. When the
console refuses the message the command ends by that defect and has no code; a console that shows
all closed texts does not refuse a message that is one. -/
structure Rejects (session : Session) (message : String) (outcome : Except Stop Unit) : Prop where
  shown : session.refusal (Console.errorLine message) = none →
    exitCode? outcome = some Stop.usageCode
  refused : ∀ defect, session.refusal (Console.errorLine message) = some defect →
    outcome = .error (.fault (.defect defect))
  closed : session.devices.ShowsClosed → Markup.isClosed message = true →
    exitCode? outcome = some Stop.usageCode

/-- A command rejects what it tells of before it ends with the code for what the user does wrong. -/
theorem rejects_of_behind {session : Session} {message : String} {cause : Option Fault}
    {outcome : Except Stop Unit}
    (ended : outcome = .error ((Stop.exit Stop.usageCode cause).behind
      (session.refusal (Console.errorLine message)))) :
    Rejects session message outcome := by
  have shown (none : session.refusal (Console.errorLine message) = none) :
      exitCode? outcome = some Stop.usageCode := by
    rw [ended, none]
    rfl
  refine ⟨shown, fun defect refused => ?_, fun shows closed => shown ?_⟩
  · rw [ended, refused]
    rfl
  · exact shows _ ((Console.isClosed_errorLine message).trans closed)

/-- A command that meets a fault of the filter rejects it. -/
theorem rejects_of_isFilter {α : Type} {action : Action Fault α} {next : α → Action Stop Unit}
    {session : Session} {fault : Fault} (failed : action.perform session = (.error fault, session))
    (isFilter : fault.isKind .filter = true) :
    Rejects session fault.message ((Stop.expecting action >>= next).perform session).1 := by
  have isCode : Stop.exitCode fault = Stop.usageCode := by
    unfold Stop.exitCode
    rw [isFilter]
    rfl
  have ended := Stop.perform_expecting_of_error failed
  rw [if_pos (Fault.isStated_of_isKind isFilter), isCode] at ended
  rw [perform_bind_of_error ended]
  exact rejects_of_behind rfl

/-- The pattern that settings give a command. -/
def pattern? (settings : List Setting) : Command → Option String
  | .listDatabases => Arguments.lastText settings .name
  | .resolveTargets | .applySchema => Arguments.lastText settings .db
  | .listGroups => none

/-- The message of a fault, if there is one. -/
def messageOf {α : Type} : Except Fault α → Option String
  | .ok _ => none
  | .error fault => some fault.message

/-- What a command complains of before it connects to clusters: its pattern, its filter, or that
there are no workers. -/
def complaint? [Interpreter] (settings : List Setting) : Command → Option String
  | .listDatabases => messageOf (compileNamePattern ((Arguments.lastText settings .name).getD ""))
  | .resolveTargets => messageOf (Arguments.selection settings).filter
  | .applySchema =>
    if (ApplyRequest.ofSettings settings).workers < 1 then some "--parallel must be >= 1"
    else messageOf (Arguments.selection settings).filter
  | .listGroups => none

/-- A pattern is handled: it compiles or is a fault of the filter, only stated faults come of
listing databases, resolving targets and making a filter with it, and a command that is given it
complains and ends with the code for what the user does wrong unless it compiles. -/
structure Handles [Interpreter] (source : String) : Prop where
  compiles : (∃ pattern, compileNamePattern source = .ok pattern) ∨
    ∃ fault, compileNamePattern source = .error fault ∧ fault.isKind .filter = true
  lists : ∀ (client : QueryClient) (uri logger : String) (session last : Session) (fault : Fault),
    (FleetSchema.listDatabases client uri logger source).perform session = (.error fault, last) →
      fault.isStated = true
  resolves : ∀ (cluster : Cluster) (filter : TargetFilter) (service : Option LookupService)
    (session last : Session) (fault : Fault), filter.db = source → filter.mode = .singleDb →
    (resolve cluster filter service).perform session = (.error fault, last) → fault.isStated = true
  selects : ∀ (selection : Selection) (fault : Fault), selection.db = some source →
    selection.filter = .error fault → fault.isStated = true
  rejects : ∀ fault, compileNamePattern source = .error fault →
    ∀ (surroundings : Surroundings) (settings : List Setting) (command : Command)
      (session : Session), pattern? settings command = some source →
      ∃ message, complaint? settings command = some message ∧
        Rejects session message ((runCommand surroundings settings command).perform session).1

/-- A pattern escapes: its refusal is passed on as it is by whatever compiles it, and the command
that lists databases has no code. -/
structure Escapes [Interpreter] (source : String) (refusal : Pattern.Refusal) : Prop where
  compiles : compileNamePattern source = .error (.defect (.unusablePattern source refusal))
  lists : ∀ (client : QueryClient) (uri logger : String) (session : Session),
    (FleetSchema.listDatabases client uri logger source).perform session =
      (.error (.defect (.unusablePattern source refusal)), session)
  resolves : ∀ (cluster : Cluster) (filter : TargetFilter) (service : Option LookupService)
    (session : Session), filter.db = source → filter.mode = .singleDb →
    ((resolve cluster filter service).perform session).1 =
      .error (.defect (.unusablePattern source refusal))
  selects : ∀ selectAll, (⟨some source, [], none, none, selectAll⟩ : Selection).filter =
    .error (.defect (.unusablePattern source refusal))
  exits : ∀ (surroundings : Surroundings) (settings : List Setting) (session : Session),
    pattern? settings .listDatabases = some source →
      exitCode? ((runCommand surroundings settings .listDatabases).perform session).1 = none

section Patterns

variable [Interpreter] {source : String} {fault : Fault}

/-- A pattern that does not compile ends a listing before anything is asked. -/
theorem perform_listDatabases_refused (refused : compileNamePattern source = .error fault)
    (client : QueryClient) (uri logger : String) (session : Session) :
    (FleetSchema.listDatabases client uri logger source).perform session =
      (.error fault, session) := by
  unfold FleetSchema.listDatabases
  rw [refused, perform_bind, perform_ofExcept]

theorem source_ne_empty (refused : compileNamePattern source = .error fault) : source ≠ "" := by
  rintro rfl
  obtain ⟨pattern, compiles⟩ := exists_compile_empty
  rw [compileNamePattern_eq_ok_iff.mpr compiles] at refused
  cases refused

/-! ### Patterns with flaws -/

/-- A selection by a pattern that does not compile gives no filter: a fault of the filter or the one
of its pattern. -/
theorem exists_fault_of_refused (refused : compileNamePattern source = .error fault)
    {selection : Selection} (given : selection.db = some source) :
    ∃ other, selection.filter = .error other ∧ (other.isKind .filter = true ∨ other = fault) := by
  have isDb : selection.db.getD "" = source := congrArg (·.getD "") given
  obtain ⟨sensible, _⟩ | ⟨other, _, failed, refuses⟩ := selection.filter_cases
  · have pattern : selection.HasPattern := by
      unfold Selection.HasPattern
      rw [isDb]
      exact source_ne_empty refused
    obtain ⟨compiled, compiles⟩ := sensible.compiles pattern
    rw [isDb] at compiles
    rw [compileNamePattern_eq_ok_iff.mpr compiles] at refused
    cases refused
  · refine ⟨other, failed, refuses.imp_right fun compiled => ?_⟩
    have isDb : selection.draft.db = source := isDb
    rw [isDb, refused] at compiled
    exact (Except.error.inj compiled).symm

/-- A command that is given a pattern with a flaw complains and rejects it. -/
theorem rejects_of_flaw (refused : compileNamePattern source = .error fault)
    (isFilter : fault.isKind .filter = true) (surroundings : Surroundings)
    (settings : List Setting) (command : Command) (session : Session)
    (given : pattern? settings command = some source) :
    ∃ message, complaint? settings command = some message ∧
      Rejects session message ((runCommand surroundings settings command).perform session).1 := by
  have selects (asked : Arguments.lastText settings .db = some source) :
      ∃ other, (Arguments.selection settings).filter = .error other ∧
        other.isKind .filter = true := by
    have given : (Arguments.selection settings).db = some source := asked
    obtain ⟨other, filtered, either⟩ := exists_fault_of_refused refused given
    refine ⟨other, filtered, either.elim id fun same => ?_⟩
    rwa [same]
  cases command with
  | listDatabases =>
    have given : (Arguments.lastText settings .name).getD "" = source :=
      congrArg (·.getD "") given
    unfold runCommand listDatabases complaint?
    dsimp only
    rw [given, refused]
    exact ⟨_, rfl, rejects_of_isFilter (perform_ofExcept _ session) isFilter⟩
  | resolveTargets =>
    obtain ⟨other, filtered, isFilter⟩ := selects given
    unfold runCommand resolveTargets complaint?
    dsimp only
    rw [filtered]
    exact ⟨_, rfl, rejects_of_isFilter (perform_ofExcept _ session) isFilter⟩
  | applySchema =>
    obtain ⟨other, filtered, isFilter⟩ := selects given
    unfold runCommand applySchema ApplyRequest.run complaint?
    dsimp only
    by_cases enough : (ApplyRequest.ofSettings settings).workers < 1
    · rw [if_pos enough, if_pos enough, perform_bind_of_error (Stop.perform_die _ _ session)]
      exact ⟨_, rfl, rejects_of_behind rfl⟩
    · rw [if_neg enough, if_neg enough]
      have failed : (ApplyRequest.ofSettings settings).inputs.perform session =
          (.error other, session) := by
        have asked : (ApplyRequest.ofSettings settings).selection = Arguments.selection settings :=
          rfl
        unfold ApplyRequest.inputs
        rw [asked, filtered, perform_bind, perform_ofExcept]
      rw [filtered]
      exact ⟨_, rfl, rejects_of_isFilter failed isFilter⟩
  | listGroups => cases given

/-- A pattern that is refused for its syntax at most is handled. -/
theorem handles_of_known
    (known : ∀ refusal, NamePattern.compile source = .error refusal → refusal.IsFlaw) :
    Handles source := by
  have isFilter {fault : Fault} (refused : compileNamePattern source = .error fault) :
      fault.isKind .filter = true := isKind_of_compileNamePattern_eq_error known refused
  have lists (client : QueryClient) (uri logger : String) (session last : Session) (fault : Fault)
      (listed : (FleetSchema.listDatabases client uri logger source).perform session =
        (.error fault, last)) : fault.isStated = true := by
    cases compiled : compileNamePattern source with
    | ok pattern =>
      have compiles := compileNamePattern_eq_ok_iff.mp compiled
      exact Fault.isStated_of_isKind (isKind_of_listDatabases_eq_error ⟨pattern, compiles⟩ listed)
    | error other =>
      rw [perform_listDatabases_refused compiled] at listed
      cases listed
      exact Fault.isStated_of_isKind (isFilter compiled)
  refine ⟨?_, lists, ?_, ?_, fun fault refused => rejects_of_flaw refused (isFilter refused)⟩
  · cases compiled : compileNamePattern source with
    | ok pattern => exact Or.inl ⟨pattern, rfl⟩
    | error fault => exact Or.inr ⟨fault, rfl, isFilter compiled⟩
  · rintro cluster filter service session last fault rfl isMode resolved
    obtain ⟨_, _, _, ended⟩ := resolve_eq_error_source resolved
    rw [isMode] at ended
    exact lists _ _ _ _ _ fault ended
  · intro selection fault given failed
    obtain ⟨_, filtered⟩ | ⟨other, _, same, refuses⟩ := selection.filter_cases
    · rw [filtered] at failed
      cases failed
    · rw [same] at failed
      cases failed
      refine Fault.isStated_of_isKind (refuses.elim id fun refused => ?_)
      have isDb : selection.draft.db = source := congrArg (·.getD "") given
      rw [isDb] at refused
      exact isFilter refused

/-! ### Patterns that escape -/

/-- A refusal that is no flaw escapes. -/
theorem escapes_of_compile {refusal : Pattern.Refusal} (other : ¬ refusal.IsFlaw)
    (compiled : NamePattern.compile source = .error refusal) : Escapes source refusal := by
  have refused :
      compileNamePattern source = .error (.defect (.unusablePattern source refusal)) := by
    obtain ⟨_, compiles, _⟩ | ⟨_, isFlaw, isRefusal, _⟩ | ⟨_, _, isRefusal, same⟩ :=
      compileNamePattern_cases source
    · cases compiles.symm.trans compiled
    · cases isRefusal.symm.trans compiled
      exact absurd isFlaw other
    · cases isRefusal.symm.trans compiled
      exact same
  have lists := perform_listDatabases_refused refused
  constructor
  · exact refused
  · exact lists
  · rintro cluster filter service session rfl isMode
    obtain ⟨warnings, warned⟩ := perform_warnIgnored session cluster filter
    unfold resolve
    rw [perform_bind, warned]
    dsimp only
    rw [isMode, perform_bind, perform_onFault]
    unfold Targets.source Cluster.list
    dsimp only
    rw [lists]
    rfl
  · intro selectAll
    have given : source.isEmpty = false := by simpa using source_ne_empty refused
    have checked : Selection.check ⟨source, [], "", ""⟩ selectAll =
        .error (.defect (.unusablePattern source refusal)) := by
      unfold Selection.check
      simp [TargetFilter.populatedModes, given, refused, bind, Except.bind]
    have drafted : (⟨some source, [], none, none, selectAll⟩ : Selection).draft =
        ⟨source, [], "", ""⟩ := rfl
    unfold Selection.filter
    rw [drafted, checked]
    rfl
  · intro surroundings settings session given
    have given : (Arguments.lastText settings .name).getD "" = source := congrArg (·.getD "") given
    unfold runCommand listDatabases
    dsimp only
    rw [given, refused]
    rfl

end Patterns

/-! ### Every pattern -/

/-- **A pattern is handled, unless it is refused for another reason than its syntax**: it writes a
number of rounds beyond every bound, switches both alphabets on, looks too far to the left, or has
more groups than there is room for. Such a pattern escapes. -/
theorem handles_or_escapes [Interpreter] (source : String) :
    Handles source ∨ ∃ refusal, ¬ refusal.IsFlaw ∧ NamePattern.RefusedFor source refusal ∧
      Escapes source refusal := by
  cases compiled : NamePattern.compile source with
  | ok pattern =>
    refine Or.inl (handles_of_known fun refusal refused => ?_)
    cases compiled.symm.trans refused
  | error refusal =>
    by_cases isFlaw : refusal.IsFlaw
    · refine Or.inl (handles_of_known fun other refused => ?_)
      cases compiled.symm.trans refused
      exact isFlaw
    · exact Or.inr ⟨refusal, isFlaw, NamePattern.refusedFor_of_compile compiled,
        escapes_of_compile isFlaw compiled⟩

/-- A pattern with a flaw whose message closes a tone that is not open: the message is refused, and
there is no code. -/
example :
    let surroundings : Surroundings := .offline [] (.ofText "/tmp") (.stated .query "out of reach")
    let words := ["databases", "list", "-c", "https://f.k", "--name", "^(prod[/-]"]
    let session : Session := { Session.start ⟨[], []⟩ with devices := .strict }
    exitCode? ((run surroundings words).perform session).1 = none := by
  decide +kernel

/-- A number of rounds that is one too great: nobody expects the refusal, and there is no code. -/
theorem escapes_great_rounds :
    let surroundings : Surroundings := .offline [] (.ofText "/tmp") (.stated .query "out of reach")
    let source := "a\x7b4294967295\x7d"
    let words := ["databases", "list", "-c", "https://f.k", "--name", source]
    ¬ Handles source ∧ exitCode? ((run surroundings words).perform (.start ⟨[], []⟩)).1 = none := by
  intro surroundings source words
  refine ⟨fun handles => ?_, by decide +kernel⟩
  have uncompiled : (compileNamePattern source).toOption.isNone = true := by decide +kernel
  have exits : exitCode? ((runCommand surroundings [⟨.name, .text source⟩] .listDatabases).perform
      (.start ⟨[], []⟩)).1 = none := by decide +kernel
  cases compiled : compileNamePattern source with
  | ok pattern =>
    rw [compiled] at uncompiled
    cases uncompiled
  | error fault =>
    obtain ⟨message, _, rejects⟩ :=
      handles.rejects fault compiled surroundings [⟨.name, .text source⟩] .listDatabases
        (.start ⟨[], []⟩) rfl
    rw [rejects.shown rfl] at exits
    cases exits

end CommandLine

end FleetSchema
