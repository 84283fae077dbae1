/-
**What the rollout on one cluster comes to.**

A rollout asks the generator once and, when that gives a reference and the run is not a dry one, the
applier once. Whatever the two do, the rollout ends in a result:

* `perform_build`, `perform_execute`: the two halves as functions of what the generator and the
  applier do;
* `perform_prepare`, `perform_complete`: no fault gets past either half, and every result is one of
  the targets;
* `apply_accounts`: the result says exactly what the generator and the applier did, and with
  plug-ins that answer as functions say these are all the calls.
-/

import FleetSchema.Proofs.Session.Traces
import FleetSchema.Rollout

namespace FleetSchema

/-! ### References -/

/-- A value refers to a job: it is a text that is not empty, or a path. -/
inductive Value.RefersTo : Value → String → Prop
  | text (job : String) (given : job ≠ "") : RefersTo (.text job) job
  | path (job : String) : RefersTo (.path job) job

/-- What a generator ended in refers to a job. -/
def Refers (generated : Except Fault Value) (job : String) : Prop :=
  ∃ value, generated = .ok value ∧ value.RefersTo job

theorem reference?_eq_some_iff (value : Value) (job : String) :
    Configuration.reference? value = some job ↔ value.RefersTo job := by
  constructor
  · intro named
    cases value with
    | text text =>
      simp only [Configuration.reference?, Option.ite_none_left_eq_some, String.isEmpty_iff,
        Option.some.injEq] at named
      obtain ⟨given, rfl⟩ := named
      exact .text text given
    | path text =>
      obtain rfl : text = job := Option.some.inj named
      exact .path text
    | null | bool | int | float | list | object => cases named
  · intro refers
    cases refers with
    | text _ given => simp [Configuration.reference?, given]
    | path => rfl

/-- The reference that a generator ended in. -/
def referenceIn (generated : Except Fault Value) : Option String :=
  generated.toOption.bind Configuration.reference?

theorem referenceIn_eq_some_iff (generated : Except Fault Value) (job : String) :
    referenceIn generated = some job ↔ Refers generated job := by
  cases generated with
  | error fault => simp [referenceIn, Refers, Except.toOption]
  | ok value =>
    simp [referenceIn, Refers, Except.toOption, reference?_eq_some_iff]

/-! ### Faults of the two halves -/

/-- The fault that building a configuration makes of what the generator ended in. -/
def unbuiltFault (uri : String) : Except Fault Value → Fault
  | .error fault => if fault.isKind .build then fault else .generation uri fault
  | .ok value => .badReference value

/-- The fault that executing a configuration makes of a fault of the applier. -/
def unappliedFault (uri : String) (fault : Fault) : Fault :=
  if fault.isKind .execution then fault else .applying uri fault

theorem unbuiltFault_isKind (uri : String) (generated : Except Fault Value) :
    (unbuiltFault uri generated).isKind .build = true := by
  unfold unbuiltFault
  split
  · split
    · assumption
    · rfl
  · rfl

theorem unappliedFault_isKind (uri : String) (fault : Fault) :
    (unappliedFault uri fault).isKind .execution = true := by
  unfold unappliedFault
  split
  · assumption
  · rfl

/-! ### The two halves -/

/-- The warning about a configuration that changes nothing. -/
def idleRecord (uri : String) : LogRecord :=
  ⟨.warning, Configuration.buildLogger,
    "no target databases on " ++ uri ++ "; the job will not change anything", false⟩

/-- The session in which a generator is asked: it holds a warning when there are no databases. -/
def askingSession (uri : String) (databases : List String) (session : Session) : Session :=
  if databases.isEmpty then
    session.noting ⟨.warning, Configuration.buildLogger,
      "no target databases on " ++ uri ++ "; the job will not change anything", false⟩
  else session

/-- The diagnostic about a generator that ended in a fault. -/
def unbuiltRecord (uri : String) (fault : Fault) : LogRecord :=
  ⟨.error, Configuration.buildLogger, "failed generating job configuration for " ++ uri,
    !fault.isKind .build⟩

/-- The diagnostic before a configuration is executed. -/
def applyingRecord (configuration : Configuration) : LogRecord :=
  ⟨.info, Configuration.executeLogger,
    "applying " ++ configuration.jobFile ++ " to " ++ toString configuration.databases.length ++
      " database(s) on " ++ configuration.clusterUri, false⟩

/-- The diagnostic about an applier that ended in a fault. -/
def unappliedRecord (uri : String) (fault : Fault) : LogRecord :=
  ⟨.error, Configuration.executeLogger, "schema apply failed on " ++ uri,
    !fault.isKind .execution⟩

/-- A session after a generator, with a diagnostic if it ended in a fault. -/
def notingUnbuilt (uri : String) (generated : Except Fault Value) (session : Session) : Session :=
  match generated with
  | .error fault => session.noting (unbuiltRecord uri fault)
  | .ok _ => session

/-- A session after an applier, with a diagnostic if it ended in a fault. -/
def notingUnapplied (uri : String) (applied : Except Fault Unit) (session : Session) : Session :=
  match applied with
  | .error fault => session.noting (unappliedRecord uri fault)
  | .ok () => session

theorem perform_generationFault {α : Type} (uri : String) (fault : Fault) (session : Session) :
    (Configuration.generationFault uri fault : Action Fault α).perform session =
      (.error (unbuiltFault uri (.error fault)), session.noting (unbuiltRecord uri fault)) := by
  unfold Configuration.generationFault unbuiltFault unbuiltRecord
  by_cases build : fault.isKind .build = true
  · simp [build, Action.perform_bind]
  · simp [build, Action.perform_bind]

theorem perform_applyFault {α : Type} (uri : String) (fault : Fault) (session : Session) :
    (Configuration.applyFault uri fault : Action Fault α).perform session =
      (.error (unappliedFault uri fault), session.noting (unappliedRecord uri fault)) := by
  unfold Configuration.applyFault unappliedFault unappliedRecord
  by_cases execution : fault.isKind .execution = true
  · simp [execution, Action.perform_bind]
  · simp [execution, Action.perform_bind]

theorem perform_generateJob (generator : JobGenerator) (uri : String) (databases : List String)
    (file : String) (lossFlag : Value) (session : Session) :
    (Configuration.generateJob generator uri databases (.path file) lossFlag).perform session =
      (generator.generate uri databases (.ofText file) lossFlag).perform session := by
  unfold Configuration.generateJob
  rw [Action.perform_bind, Action.perform_ofDefect]
  rfl

/-- The configuration that a generator's end gives, or the fault that there is none. -/
def configurationOf (uri : String) (databases : List String) (file : String) (lossFlag : Value)
    (generated : Except Fault Value) : Except Fault Configuration :=
  match referenceIn generated with
  | none => .error (unbuiltFault uri generated)
  | some job => .ok ⟨.ofText file, job, uri, databases, lossFlag⟩

theorem perform_assemble (generator : JobGenerator) (uri : String) (databases : List String)
    (file : String) (lossFlag : Value) (session : Session) :
    (Configuration.assemble generator uri databases (.path file) lossFlag).perform session =
      let asked := (generator.generate uri databases (.ofText file) lossFlag).perform session
      (configurationOf uri databases file lossFlag asked.1, notingUnbuilt uri asked.1 asked.2) := by
  unfold Configuration.assemble
  rw [Action.perform_bind, Action.perform_onFault, perform_generateJob]
  rcases (generator.generate uri databases (.ofText file) lossFlag).perform session with
    ⟨fault | value, reached⟩
  · dsimp only
    rw [perform_generationFault]
    rfl
  · dsimp only [configurationOf, referenceIn, Except.toOption, Option.bind, notingUnbuilt]
    cases Configuration.reference? value with
    | none => rfl
    | some job => rfl

theorem perform_warnEmpty (uri : String) (session : Session) :
    (Configuration.warnEmpty uri).perform session = (.ok (), session.noting (idleRecord uri)) :=
  Action.perform_log _ _ _ _ session

theorem perform_build (generator : JobGenerator) (uri : String) (databases : List String)
    (file : String) (lossFlag : Value) (session : Session) :
    (Configuration.build generator uri databases (.path file) lossFlag).perform session =
      (Configuration.assemble generator uri databases (.path file) lossFlag).perform
        (askingSession uri databases session) := by
  unfold Configuration.build askingSession
  by_cases empty : databases.isEmpty = true
  · rw [if_pos empty, if_pos empty, Action.perform_bind, perform_warnEmpty]
    rfl
  · rw [if_neg empty, if_neg empty]

theorem perform_execute (configuration : Configuration) (applier : SchemaApplier)
    (session : Session) :
    (configuration.execute applier).perform session =
      let applied := (applier.apply configuration.jobFile).perform
        (session.noting (applyingRecord configuration))
      (applied.1.mapError (unappliedFault configuration.clusterUri),
        notingUnapplied configuration.clusterUri applied.1 applied.2) := by
  unfold Configuration.execute applyingRecord
  rw [Action.perform_bind, Action.perform_log]
  dsimp only
  rw [Action.perform_onFault]
  rcases (applier.apply configuration.jobFile).perform _ with ⟨fault | value, reached⟩
  · dsimp only
    rw [perform_applyFault]
    rfl
  · rfl

/-! ### The rollout -/

namespace Rollout

variable {ε : Type}

/-- The failure of targets without a job. -/
def unbuilt (targets : Targets) (generated : Except Fault Value) : RolloutResult :=
  result targets .failed none (some (unbuiltFault targets.clusterUri generated).message)

/-- What the first half of a rollout makes of what the generator ended in. -/
def halfwayOf (rollout : Rollout) (targets : Targets) (file : String)
    (generated : Except Fault Value) : Halfway :=
  match referenceIn generated with
  | none => .ended (.ok (unbuilt targets generated))
  | some job =>
    if rollout.dryRun then .ended (.ok (result targets .skipped (some job) none))
    else .built ⟨.ofText file, job, targets.clusterUri, targets.databases, rollout.lossFlag⟩

/-- What the second half of a rollout makes of what the applier ended in. -/
def completed (targets : Targets) (job : String) (uri : String) (applied : Except Fault Unit) :
    RolloutResult :=
  match applied with
  | .error fault => result targets .failed (some job) (some (unappliedFault uri fault).message)
  | .ok () => result targets .success (some job) none

theorem failure_of_isKind (targets : Targets) (job : Option String) {fault : Fault}
    {kind : FaultKind} (known : fault.isKind kind = true) :
    failure targets job fault = .ok (result targets .failed job (some fault.message)) :=
  if_pos (Fault.isStated_of_isKind known)

/-- What a rollout asks its generator for, in the session in which it asks. -/
def asked (rollout : Rollout) (targets : Targets) (file : String) (session : Session) :
    Except Fault Value × Session :=
  (rollout.generator.generate targets.clusterUri targets.databases (.ofText file)
    rollout.lossFlag).perform (askingSession targets.clusterUri targets.databases session)

theorem perform_prepare (rollout : Rollout) (targets : Targets) (session : Session) (file : String)
    (stored : rollout.schemaFile = .path file) :
    (rollout.prepare targets : Action ε Halfway).perform session =
      let asked := rollout.asked targets file session
      (.ok (rollout.halfwayOf targets file asked.1),
        notingUnbuilt targets.clusterUri asked.1 asked.2) := by
  unfold prepare
  rw [Action.perform_bind, Action.perform_attempt, stored, perform_build, perform_assemble]
  dsimp only [configurationOf, halfwayOf, asked]
  cases referenceIn _ with
  | none =>
    dsimp only
    rw [failure_of_isKind _ _ (unbuiltFault_isKind _ _)]
    rfl
  | some job =>
    dsimp only
    split
    · rfl
    · rfl

/-- What a rollout asks its applier for, in the session in which it asks. -/
def applied (rollout : Rollout) (configuration : Configuration) (session : Session) :
    Except Fault Unit × Session :=
  (rollout.applier.apply configuration.jobFile).perform
    (session.noting (applyingRecord configuration))

theorem perform_complete (rollout : Rollout) (targets : Targets) (configuration : Configuration)
    (session : Session) :
    (rollout.complete targets configuration : Action ε _).perform session =
      let applied := rollout.applied configuration session
      (.ok (.ok (completed targets configuration.jobFile configuration.clusterUri applied.1)),
        notingUnapplied configuration.clusterUri applied.1 applied.2) := by
  unfold complete applied
  rw [Action.perform_bind, Action.perform_attempt, perform_execute]
  dsimp only
  rcases (rollout.applier.apply configuration.jobFile).perform _ with ⟨fault | value, reached⟩
  · dsimp only [Except.mapError]
    rw [failure_of_isKind _ _ (unappliedFault_isKind _ _)]
    rfl
  · rfl

theorem perform_apply (rollout : Rollout) (targets : Targets) (session : Session) (file : String)
    (stored : rollout.schemaFile = .path file) :
    (rollout.apply targets).perform session =
      let asked := rollout.asked targets file session
      let midway := notingUnbuilt targets.clusterUri asked.1 asked.2
      match rollout.halfwayOf targets file asked.1 with
      | .ended outcome => (outcome, midway)
      | .built configuration =>
        let applied := rollout.applied configuration midway
        (.ok (completed targets configuration.jobFile configuration.clusterUri applied.1),
          notingUnapplied configuration.clusterUri applied.1 applied.2) := by
  unfold apply
  rw [Action.perform_bind, perform_prepare rollout targets session file stored]
  dsimp only
  cases rollout.halfwayOf targets file (rollout.asked targets file session).1 with
  | ended outcome =>
    dsimp only
    rw [Action.perform_ofExcept]
  | built configuration =>
    dsimp only
    rw [Action.perform_bind, perform_complete]
    rfl

/-! ### The account -/

/-- A result accounts for a generator that ended in `generated` and for an applier that ends in
`applied job` when it is asked for a job. -/
structure Accounts (targets : Targets) (dryRun : Bool) (generated : Except Fault Value)
    (applied : String → Except Fault Unit) (result : RolloutResult) : Prop where
  clusterUri : result.clusterUri = targets.clusterUri
  databases : result.databases = targets.databases
  unbuilt : result.status = .failed ∧ result.jobFile = none ↔ ∀ job, ¬ Refers generated job
  jobFile : ∀ job, Refers generated job → result.jobFile = some job
  skipped : ∀ job, Refers generated job → (result.status = .skipped ↔ dryRun = true)
  failed : ∀ job, Refers generated job →
    (result.status = .failed ↔ dryRun = false ∧ ∃ fault, applied job = .error fault)
  success : ∀ job, Refers generated job →
    (result.status = .success ↔ dryRun = false ∧ applied job = .ok ())
  error_eq_none : result.error = none ↔ result.status ≠ .failed
  error_unbuilt : (∀ job, ¬ Refers generated job) →
    (unbuiltFault targets.clusterUri generated).isKind .build = true ∧
      result.error = some (unbuiltFault targets.clusterUri generated).message
  error_unapplied : ∀ job fault, Refers generated job → dryRun = false →
    applied job = .error fault →
      (unappliedFault targets.clusterUri fault).isKind .execution = true ∧
        result.error = some (unappliedFault targets.clusterUri fault).message

theorem refers_unique {generated : Except Fault Value} {first second : String}
    (refersFirst : Refers generated first) (refersSecond : Refers generated second) :
    first = second := by
  rw [← referenceIn_eq_some_iff] at refersFirst refersSecond
  exact Option.some.inj (refersFirst.symm.trans refersSecond)

theorem not_refers_of_none {generated : Except Fault Value} (none : referenceIn generated = none)
    (job : String) : ¬ Refers generated job := by
  intro refers
  rw [← referenceIn_eq_some_iff, none] at refers
  cases refers

theorem accounts_unbuilt (targets : Targets) (dryRun : Bool) {generated : Except Fault Value}
    (applied : String → Except Fault Unit) (none : referenceIn generated = none) :
    Accounts targets dryRun generated applied (Rollout.unbuilt targets generated) where
  clusterUri := rfl
  databases := rfl
  unbuilt := ⟨fun _ => not_refers_of_none none, fun _ => ⟨rfl, rfl⟩⟩
  jobFile job refers := absurd refers (not_refers_of_none none job)
  skipped job refers := absurd refers (not_refers_of_none none job)
  failed job refers := absurd refers (not_refers_of_none none job)
  success job refers := absurd refers (not_refers_of_none none job)
  error_eq_none := by simp [Rollout.unbuilt, result]
  error_unbuilt _ := ⟨unbuiltFault_isKind _ _, rfl⟩
  error_unapplied job _ refers := absurd refers (not_refers_of_none none job)

/-- A result with a job accounts for what happened if its status and its error do. -/
theorem accounts_of_job (targets : Targets) {dryRun : Bool} {generated : Except Fault Value}
    {job : String} {applied : String → Except Fault Unit} {status : RolloutStatus}
    {error : Option String} (refers : Refers generated job)
    (skipped : status = .skipped ↔ dryRun = true)
    (failed : status = .failed ↔ dryRun = false ∧ ∃ fault, applied job = .error fault)
    (success : status = .success ↔ dryRun = false ∧ applied job = .ok ())
    (error_eq_none : error = none ↔ status ≠ .failed)
    (error_unapplied : ∀ fault, dryRun = false → applied job = .error fault →
      error = some (unappliedFault targets.clusterUri fault).message) :
    Accounts targets dryRun generated applied (result targets status (some job) error) where
  clusterUri := rfl
  databases := rfl
  unbuilt := ⟨fun ⟨_, noFile⟩ => (Option.some_ne_none job noFile).elim,
    fun noJob => absurd refers (noJob job)⟩
  jobFile _ refersOther := congrArg some (refers_unique refers refersOther)
  skipped _ _ := skipped
  failed _ refersOther := refers_unique refers refersOther ▸ failed
  success _ refersOther := refers_unique refers refersOther ▸ success
  error_eq_none := error_eq_none
  error_unbuilt noJob := absurd refers (noJob job)
  error_unapplied _ fault refersOther wet raised :=
    ⟨unappliedFault_isKind _ _, error_unapplied fault wet
      (refers_unique refers refersOther ▸ raised)⟩

theorem accounts_completed (targets : Targets) {generated : Except Fault Value} {job : String}
    (applied : String → Except Fault Unit) (refers : Refers generated job) :
    Accounts targets false generated applied
      (completed targets job targets.clusterUri (applied job)) := by
  cases ended : applied job with
  | error fault =>
    refine accounts_of_job targets refers (by simp) (by simp [ended]) (by simp [ended]) (by simp) ?_
    intro raised _ failed
    rw [ended] at failed
    rw [Except.error.inj failed]
  | ok value =>
    refine accounts_of_job targets refers (by simp) (by simp [ended]) (by simp [ended]) (by simp) ?_
    intro raised _ failed
    rw [ended] at failed
    cases failed

/-- What a rollout comes to when the generator ends in `generated` and the applier, asked for a job,
in `applied job`. -/
def ownResult (dryRun : Bool) (targets : Targets) (generated : Except Fault Value)
    (applied : String → Except Fault Unit) : RolloutResult :=
  match referenceIn generated with
  | none => unbuilt targets generated
  | some job =>
    if dryRun then result targets .skipped (some job) none
    else completed targets job targets.clusterUri (applied job)

theorem accounts_ownResult (dryRun : Bool) (targets : Targets) (generated : Except Fault Value)
    (applied : String → Except Fault Unit) :
    Accounts targets dryRun generated applied (ownResult dryRun targets generated applied) := by
  unfold ownResult
  cases found : referenceIn generated with
  | none => exact accounts_unbuilt targets dryRun applied found
  | some job =>
    have refers : Refers generated job := (referenceIn_eq_some_iff _ _).mp found
    cases dryRun with
    | true =>
      exact accounts_of_job targets refers (by simp) (by simp) (by simp) (by simp) (by simp)
    | false => exact accounts_completed targets applied refers

/-- The configuration for a job of targets. -/
def configuration (rollout : Rollout) (targets : Targets) (file job : String) : Configuration :=
  ⟨.ofText file, job, targets.clusterUri, targets.databases, rollout.lossFlag⟩

theorem notingUnbuilt_of_some {uri job : String} {generated : Except Fault Value}
    {session : Session} (found : referenceIn generated = some job) :
    notingUnbuilt uri generated session = session := by
  obtain ⟨value, rfl, _⟩ := (referenceIn_eq_some_iff generated job).mp found
  rfl

/-- A rollout comes to its own result. -/
theorem apply_outcome (rollout : Rollout) (targets : Targets) (session : Session) (file : String)
    (stored : rollout.schemaFile = .path file) :
    ((rollout.apply targets).perform session).1 =
      .ok (ownResult rollout.dryRun targets (rollout.asked targets file session).1 fun job =>
        (rollout.applied (rollout.configuration targets file job)
          (rollout.asked targets file session).2).1) := by
  rw [perform_apply rollout targets session file stored]
  unfold halfwayOf ownResult
  dsimp only
  cases found : referenceIn (rollout.asked targets file session).1 with
  | none => rfl
  | some job =>
    dsimp only
    rw [notingUnbuilt_of_some found]
    by_cases dry : rollout.dryRun = true
    · rw [if_pos dry, if_pos dry]
    · rw [if_neg dry, if_neg dry]
      rfl

/-! ### The calls of plug-ins that answer as functions say -/

@[simp]
theorem callsIn_notingUnbuilt (uri : String) (generated : Except Fault Value) (session : Session) :
    callsIn (notingUnbuilt uri generated session).events = callsIn session.events := by
  cases generated with
  | error fault => exact Session.callsIn_noting _ _
  | ok value => rfl

@[simp]
theorem callsIn_notingUnapplied (uri : String) (applied : Except Fault Unit) (session : Session) :
    callsIn (notingUnapplied uri applied session).events = callsIn session.events := by
  cases applied with
  | error fault => exact Session.callsIn_noting _ _
  | ok value => rfl

@[simp]
theorem callsIn_askingSession (uri : String) (databases : List String) (session : Session) :
    callsIn (askingSession uri databases session).events = callsIn session.events := by
  unfold askingSession
  split
  · exact Session.callsIn_noting _ _
  · rfl

/-- The call for the job of targets. -/
def generation (rollout : Rollout) (targets : Targets) (file : String) : Call :=
  .generated targets.clusterUri targets.databases (Path.ofText file).toText rollout.lossFlag

theorem asked_of_answering (rollout : Rollout) (targets : Targets) (file : String)
    (session : Session) {generate : String → List String → Path → Value → Except Fault Value}
    (answering : rollout.generator = .answering generate) :
    rollout.asked targets file session =
      (generate targets.clusterUri targets.databases (.ofText file) rollout.lossFlag,
        (askingSession targets.clusterUri targets.databases session).adding
          (.call (rollout.generation targets file))) := by
  unfold asked JobGenerator.answering at *
  rw [answering, Action.perform_bind, Action.perform_call]
  exact Action.perform_ofExcept _ _

theorem applied_of_answering (rollout : Rollout) (configuration : Configuration)
    (session : Session) {apply : String → Except Fault Unit}
    (answering : rollout.applier = .answering apply) :
    rollout.applied configuration session =
      (apply configuration.jobFile, (session.noting (applyingRecord configuration)).adding
        (.call (.applied configuration.jobFile))) := by
  unfold applied SchemaApplier.answering at *
  rw [answering, Action.perform_bind, Action.perform_call]
  exact Action.perform_ofExcept _ _

/-- The calls of a rollout when the generator ends in `generated`. -/
def ownCalls (rollout : Rollout) (targets : Targets) (file : String)
    (generated : Except Fault Value) : List Call :=
  rollout.generation targets file ::
    match referenceIn generated with
    | none => []
    | some job => if rollout.dryRun then [] else [.applied job]

/-- A rollout makes its own calls. -/
theorem callsIn_apply (rollout : Rollout) (targets : Targets) (session : Session) (file : String)
    {generate : String → List String → Path → Value → Except Fault Value}
    {apply : String → Except Fault Unit} (stored : rollout.schemaFile = .path file)
    (isGenerator : rollout.generator = .answering generate)
    (isApplier : rollout.applier = .answering apply) :
    callsIn ((rollout.apply targets).perform session).2.events = callsIn session.events ++
      rollout.ownCalls targets file
        (generate targets.clusterUri targets.databases (.ofText file) rollout.lossFlag) := by
  rw [perform_apply rollout targets session file stored,
    asked_of_answering rollout targets file session isGenerator]
  unfold halfwayOf ownCalls
  dsimp only
  cases found : referenceIn
      (generate targets.clusterUri targets.databases (.ofText file) rollout.lossFlag) with
  | none =>
    dsimp only
    rw [callsIn_notingUnbuilt, Session.callsIn_adding_call, callsIn_askingSession]
  | some job =>
    dsimp only
    rw [notingUnbuilt_of_some found]
    by_cases dry : rollout.dryRun = true
    · rw [if_pos dry, if_pos dry]
      dsimp only
      rw [Session.callsIn_adding_call, callsIn_askingSession]
    · rw [if_neg dry, if_neg dry]
      dsimp only
      rw [callsIn_notingUnapplied, applied_of_answering rollout _ _ isApplier,
        Session.callsIn_adding_call, Session.callsIn_noting, Session.callsIn_adding_call,
        callsIn_askingSession, List.append_assoc]
      rfl

/-- **A rollout accounts for what happened.** It ends in a result whatever the generator and the
applier do, and the result says what they did. The generator is asked once. The applier is asked
once, for the generated job, if there is one and the run is not a dry one, and else not at all. -/
theorem apply_accounts (file : String) (generator : JobGenerator) (applier : SchemaApplier)
    (lossFlag : Value) (dryRun : Bool) (targets : Targets) (session : Session) :
    let rollout : Rollout := ⟨.path file, generator, applier, lossFlag, dryRun⟩
    let asked := (generator.generate targets.clusterUri targets.databases (.ofText file)
      lossFlag).perform (askingSession targets.clusterUri targets.databases session)
    let applied (job : String) := (applier.apply job).perform (asked.2.noting
      (applyingRecord ⟨.ofText file, job, targets.clusterUri, targets.databases, lossFlag⟩))
    ∃ result reached,
      (rollout.apply targets).perform session = (.ok result, reached) ∧
      Accounts targets dryRun asked.1 (fun job => (applied job).1) result ∧
      ∀ generate apply, generator = .answering generate → applier = .answering apply →
        asked.1 = generate targets.clusterUri targets.databases (.ofText file) lossFlag ∧
        (∀ job, (applied job).1 = apply job) ∧
        ∃ applications, callsIn reached.events = callsIn session.events ++
            .generated targets.clusterUri targets.databases (Path.ofText file).toText lossFlag ::
              applications ∧
          ((dryRun = true ∨ ∀ job, ¬ Refers asked.1 job) → applications = []) ∧
          (∀ job, Refers asked.1 job → dryRun = false → applications = [.applied job]) := by
  intro rollout asked applied
  have outcome := apply_outcome rollout targets session file rfl
  refine ⟨_, _, Prod.ext outcome rfl, accounts_ownResult dryRun targets asked.1 _, ?_⟩
  intro generate apply isGenerator isApplier
  have sameAsked : asked.1 =
      generate targets.clusterUri targets.databases (.ofText file) lossFlag :=
    congrArg Prod.fst (asked_of_answering rollout targets file session isGenerator)
  have sameApplied : ∀ job, (applied job).1 = apply job := fun job =>
    congrArg Prod.fst (applied_of_answering rollout (rollout.configuration targets file job)
      asked.2 isApplier)
  have calls := callsIn_apply rollout targets session file rfl isGenerator isApplier
  refine ⟨sameAsked, sameApplied, _, calls, ?_, ?_⟩
  · rintro (dry | noJob)
    · rw [show rollout.dryRun = true from dry]
      split
      · rfl
      · rfl
    · cases found : referenceIn asked.1 with
      | none =>
        rw [← sameAsked, found]
      | some job => exact absurd ((referenceIn_eq_some_iff _ _).mp found) (noJob job)
  · intro job refers wet
    rw [← sameAsked, (referenceIn_eq_some_iff _ _).mpr refers,
      show rollout.dryRun = false from wet]
    rfl

end Rollout

end FleetSchema
