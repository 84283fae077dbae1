/-
**The secret reaches the job files alone.**

The way in which the apply engine signs in may hold a secret, and every job document holds it. Two
rollouts with different secrets go hand in hand: neither results nor diagnostics nor programs that
are started tell them apart, and their files are at the same paths.

* `SecretGap`: a way to sign in but for its secret;
* `SecretGap.Beside`: bytes that differ at most in the secret of a job document;
* `SecretGap.agrees_generate`: two writers with different secrets agree;
* `Rollout.Agree`: rollouts whose plug-ins agree, and `Agree.advance`, `Agree.run`: so do their
  steps, and their runs;
* **`Rollout.applyAll_hides_secret`**: rollouts with two secrets on several clusters.
-/

import FleetSchema.Engine
import FleetSchema.Proofs.Session.Alike
import FleetSchema.Rollout.Pool

namespace FleetSchema

open FleetSchema.Action

/-! ### Secrets in documents -/

/-- A way to sign in but for its secret: the fields around the login, and the fields around the
secret in the login. -/
structure SecretGap where
  before : List (String × Value)
  loginBefore : List (String × Value)
  loginAfter : List (String × Value)
  after : List (String × Value)

namespace SecretGap

variable (gap : SecretGap) (first second : String)

/-- The way to sign in with a secret. -/
def filled (gap : SecretGap) (secret : String) : List (String × Value) :=
  gap.before ++
    ("login", .object (gap.loginBefore ++ ("secret", .text secret) :: gap.loginAfter)) :: gap.after

/-- A document with a way to sign in with a secret. -/
def document (gap : SecretGap) (document : JobDocument) (secret : String) : JobDocument :=
  { document with tokenProvider := some (gap.filled secret) }

/-- Bytes that are the same, or those of a job document that differs in the secret alone. A disk
that refuses a file leaves the first bytes of such a document. -/
inductive Beside (devices : Devices) : List UInt8 → List UInt8 → Prop
  | same (bytes : List UInt8) : Beside devices bytes bytes
  | documents (document : JobDocument) {text other : String}
    (isText : Yaml.writeFields (gap.document document first).fields = .ok text)
    (isOther : Yaml.writeFields (gap.document document second).fields = .ok other) :
    Beside devices (Text.Utf8.encode text) (Text.Utf8.encode other)
  | torn (document : JobDocument) {text other : String} {path : Path} {reason : WriteFault}
    (isText : Yaml.writeFields (gap.document document first).fields = .ok text)
    (isOther : Yaml.writeFields (gap.document document second).fields = .ok other)
    (refuses : devices.disk path = some reason) :
    Beside devices ((Text.Utf8.encode text).take reason.written)
      ((Text.Utf8.encode other).take reason.written)

/-- Whatever has no form in a way to sign in, it is not the secret. -/
theorem formlessField?_filled :
    Yaml.formlessField? (gap.filled first) = Yaml.formlessField? (gap.filled second) := by
  unfold filled
  simp only [JobDocument.formlessField?_append, Yaml.formlessField?, Yaml.formless?]

theorem formlessField?_document (document : JobDocument) :
    Yaml.formlessField? (gap.document document first).fields =
      Yaml.formlessField? (gap.document document second).fields := by
  unfold SecretGap.document JobDocument.fields
  simp only [JobDocument.formlessField?_append, Yaml.formlessField?, Yaml.formless?,
    gap.formlessField?_filled first second]

/-- **Documents with different secrets are written, or have no form, alike.** -/
theorem writeFields_document (devices : Devices) (document : JobDocument) :
    OutcomesAlike (Storage.WritesAlike devices (gap.Beside first second devices))
      (Yaml.writeFields (gap.document document first).fields)
      (Yaml.writeFields (gap.document document second).fields) := by
  have written : OutcomesAlike
      (fun text other => Yaml.writeFields (gap.document document first).fields = .ok text ∧
        Yaml.writeFields (gap.document document second).fields = .ok other)
      (Yaml.writeFields (gap.document document first).fields)
      (Yaml.writeFields (gap.document document second).fields) := by
    unfold Yaml.writeFields
    rw [gap.formlessField?_document first second document]
    cases Yaml.formlessField? (gap.document document second).fields with
    | none => exact .ok ⟨rfl, rfl⟩
    | some value => exact .error _
  exact written.mono fun text other ⟨isText, isOther⟩ =>
    ⟨.documents document isText isOther,
      fun path reason refuses => .torn document isText isOther refuses⟩

/-! ### Secrets in job files -/

/-- The writer of job files with a secret. -/
def writer (gap : SecretGap) (directory : Path) (logger secret : String) : JobWriter :=
  ⟨directory, some (gap.filled secret), logger⟩

/-- **Two writers with different secrets agree.** -/
theorem agrees_generate (devices : Devices) (directory : Path) (logger uri : String)
    (databases : List String) (script : String) (lossFlag : Value) :
    Agrees devices (gap.Beside first second devices)
      ((gap.writer directory logger first).generate uri databases script lossFlag)
      ((gap.writer directory logger second).generate uri databases script lossFlag) := by
  have written : Agrees devices (gap.Beside first second devices)
      ((gap.writer directory logger first).writeFresh uri
        ((gap.writer directory logger first).document uri databases script lossFlag))
      ((gap.writer directory logger second).writeFresh uri
        ((gap.writer directory logger second).document uri databases script lossFlag)) :=
    Storage.agrees_writeFresh (.same []) directory FileTree.ownerMode _ _
      (gap.writeFields_document first second devices (.make none uri databases script lossFlag))
  unfold JobWriter.generate
  refine (written.onFault fun fault => agrees_throw _).bind fun path => ?_
  exact (agrees_log _ _ _ _).bind fun _ => agrees_pure path

end SecretGap

/-! ### Plug-ins that agree -/

section Agree

variable {devices : Devices} {related : List UInt8 → List UInt8 → Prop}

/-- Two generators that agree. -/
def JobGenerator.Agree (devices : Devices) (related : List UInt8 → List UInt8 → Prop)
    (one other : JobGenerator) : Prop :=
  ∀ uri databases schemaFile lossFlag,
    Agrees devices related (one.generate uri databases schemaFile lossFlag)
      (other.generate uri databases schemaFile lossFlag)

/-- Two appliers that agree. -/
def SchemaApplier.Agree (devices : Devices) (related : List UInt8 → List UInt8 → Prop)
    (one other : SchemaApplier) : Prop :=
  ∀ job, Agrees devices related (one.apply job) (other.apply job)

theorem SecretGap.agree_generator (gap : SecretGap) (first second : String) (devices : Devices)
    (directory : Path) (logger : String) :
    JobGenerator.Agree devices (gap.Beside first second devices)
      (gap.writer directory logger first).generator
      (gap.writer directory logger second).generator :=
  fun uri databases schemaFile lossFlag =>
    (gap.agrees_generate first second devices directory logger uri databases schemaFile.toText
      lossFlag).bind fun _ => agrees_pure _

/-- Whatever files hold, the engine gets to see the path of a job file. -/
theorem Engine.agree_applier (engine : Engine) :
    SchemaApplier.Agree devices related engine.applier engine.applier := by
  intro job
  have runs : Agrees devices related (engine.run job) (engine.run job) := by
    unfold run
    refine (agrees_call _).bind fun _ => ?_
    cases engine.launch (engine.arguments job) with
    | ok ended => exact agrees_pure ended
    | error fault => exact agrees_throw _
  unfold applier apply
  refine (agrees_log _ _ _ _).bind fun _ => runs.bind fun ended => ?_
  have verdict : Agrees devices related
      (if ended.code == 0 then pure ()
        else throw (.exited engine.binary ended.code job (tailOf ended.complaint)) :
        Action Fault Unit)
      (if ended.code == 0 then pure ()
        else throw (.exited engine.binary ended.code job (tailOf ended.complaint))) :=
    .ite (agrees_pure _) (agrees_throw _)
  exact .ite verdict ((agrees_log _ _ _ _).bind fun _ => verdict)

namespace Configuration

theorem agrees_generationFault {α : Type} (uri : String) (fault : Fault) :
    Agrees devices related (generationFault uri fault : Action Fault α)
      (generationFault uri fault) := by
  unfold generationFault
  exact .ite ((agrees_log _ _ _ _).bind fun _ => agrees_throw _)
    ((agrees_log _ _ _ _).bind fun _ => agrees_throw _)

theorem agrees_applyFault {α : Type} (uri : String) (fault : Fault) :
    Agrees devices related (applyFault uri fault : Action Fault α) (applyFault uri fault) := by
  unfold applyFault
  exact .ite ((agrees_log _ _ _ _).bind fun _ => agrees_throw _)
    ((agrees_log _ _ _ _).bind fun _ => agrees_throw _)

/-- Configurations are built alike with generators that agree. -/
theorem agrees_build {one other : JobGenerator} (generators : one.Agree devices related other)
    (uri : String) (databases : List String) (schemaFile lossFlag : Value) :
    Agrees devices related (build one uri databases schemaFile lossFlag)
      (build other uri databases schemaFile lossFlag) := by
  have assembles : Agrees devices related (assemble one uri databases schemaFile lossFlag)
      (assemble other uri databases schemaFile lossFlag) := by
    unfold assemble generateJob
    refine Agrees.bind (Agrees.onFault ?_ (agrees_generationFault uri)) fun reference => ?_
    · exact (agrees_ofDefect _).bind fun path => generators uri databases path lossFlag
    · cases reference? reference with
      | none => exact agrees_throw _
      | some job => exact (agrees_ofDefect _).bind fun path => agrees_pure _
  unfold build
  exact .ite ((agrees_log _ _ _ _).bind fun _ => assembles) assembles

/-- Configurations are executed alike with appliers that agree. -/
theorem agrees_execute {one other : SchemaApplier} (appliers : one.Agree devices related other)
    (configuration : Configuration) :
    Agrees devices related (configuration.execute one) (configuration.execute other) :=
  (agrees_log _ _ _ _).bind fun _ =>
    (appliers configuration.jobFile).onFault (agrees_applyFault configuration.clusterUri)

end Configuration

/-! ### Rollouts that agree -/

namespace Rollout

/-- Two rollouts that differ at most in plug-ins that agree. -/
structure Agree (devices : Devices) (related : List UInt8 → List UInt8 → Prop)
    (one other : Rollout) : Prop where
  schemaFile : one.schemaFile = other.schemaFile
  lossFlag : one.lossFlag = other.lossFlag
  dryRun : one.dryRun = other.dryRun
  generators : one.generator.Agree devices related other.generator
  appliers : one.applier.Agree devices related other.applier

namespace Agree

variable {ε : Type} {one other : Rollout}

theorem prepare (agree : Agree devices related one other) (targets : Targets) :
    Agrees devices related (one.prepare targets : Action ε Halfway) (other.prepare targets) := by
  unfold Rollout.prepare
  rw [agree.schemaFile, agree.lossFlag, agree.dryRun]
  refine (Configuration.agrees_build agree.generators _ _ _ _).attempt.bind fun outcome => ?_
  cases outcome with
  | error fault => exact agrees_pure _
  | ok configuration => exact .ite (agrees_pure _) (agrees_pure _)

theorem complete (agree : Agree devices related one other) (targets : Targets)
    (configuration : Configuration) :
    Agrees devices related
      (one.complete targets configuration : Action ε (Except Fault RolloutResult))
      (other.complete targets configuration) := by
  refine (Configuration.agrees_execute agree.appliers configuration).attempt.bind fun outcome => ?_
  cases outcome with
  | error fault => exact agrees_pure _
  | ok _ => exact agrees_pure _

/-- One step of a pool. -/
theorem advance (agree : Agree devices related one other) (pool : Pool) (index : Nat) :
    Agrees devices related (pool.advance one index : Action ε Pool)
      (pool.advance other index) := by
  unfold Pool.advance
  cases pool.tasks[index]? with
  | none => exact agrees_pure _
  | some entry =>
    obtain ⟨targets, task⟩ := entry
    cases task with
    | waiting => exact agrees_pure _
    | claimed => exact (agree.prepare targets).bind fun _ => agrees_pure _
    | halfway halfway =>
      cases halfway with
      | built configuration =>
        exact (agree.complete targets configuration).bind fun _ => agrees_pure _
      | ended outcome => exact agrees_pure _
    | collected outcome => exact agrees_pure _

theorem runFor (agree : Agree devices related one other) (count : Nat) (pool : Pool) :
    Agrees devices related (pool.runFor one count : Action ε Pool) (pool.runFor other count) := by
  induction count generalizing pool with
  | zero => exact agrees_pure _
  | succ count ih =>
    unfold Pool.runFor
    cases pool.moves with
    | nil => exact agrees_pure _
    | cons first others =>
      exact agrees_nextTurn.bind fun turn => (agree.advance pool _).bind ih

/-- **Rollouts that agree come to the same results**, from sessions that are alike. -/
theorem applyAll (agree : Agree devices related one other) (workers : Value)
    (plans : List Targets) :
    Agrees devices related (one.applyAll workers plans) (other.applyAll workers plans) := by
  have runs : Agrees devices related
      (do
        Action.call (.pooled workers)
        let pool ← (Pool.submit workers plans).run one
        Action.ofExcept pool.answer)
      (do
        Action.call (.pooled workers)
        let pool ← (Pool.submit workers plans).run other
        Action.ofExcept pool.answer) :=
    (agrees_call _).bind fun _ => (agree.runFor _ _).bind fun _ => agrees_ofExcept _
  unfold Rollout.applyAll
  -- The rest stands behind each of the checks, whether it passes or not.
  refine .ite ((agrees_throw _).bind fun _ => ?_) ?_
  all_goals refine .ite ?_ ((agrees_throw _).bind fun _ => ?_)
  all_goals exact .ite (agrees_pure _) runs

end Agree

end Rollout

end Agree

/-! ### Two secrets -/

/-- The credentials of an application are a way to sign in with a secret. -/
theorem AppCredentials.tokenProvider_eq_filled (credentials : AppCredentials) :
    credentials.tokenProvider =
      SecretGap.filled ⟨[], [("tenantId", .text credentials.tenant),
        ("clientId", .text credentials.client)], [], []⟩ credentials.secret := rfl

/-- A rollout whose job files hold a secret. -/
def SecretGap.rollout (gap : SecretGap) (directory : Path) (logger : String) (engine : Engine)
    (schemaFile lossFlag : Value) (dryRun : Bool) (secret : String) : Rollout :=
  ⟨schemaFile, (gap.writer directory logger secret).generator, engine.applier, lossFlag, dryRun⟩

theorem SecretGap.agree_rollout (gap : SecretGap) (first second : String) (devices : Devices)
    (directory : Path) (logger : String) (engine : Engine) (schemaFile lossFlag : Value)
    (dryRun : Bool) :
    Rollout.Agree devices (gap.Beside first second devices)
      (gap.rollout directory logger engine schemaFile lossFlag dryRun first)
      (gap.rollout directory logger engine schemaFile lossFlag dryRun second) where
  schemaFile := rfl
  lossFlag := rfl
  dryRun := rfl
  generators := gap.agree_generator first second devices directory logger
  appliers := engine.agree_applier

/-- **The secret reaches the job files alone.** From one session, rollouts with two secrets come to
the same results or the same fault, by the same events: diagnostics, programs started and all
others. The same directories and files are there afterwards, under the same permissions, and they
hold the same bytes unless they are job files, whose documents differ in the secret alone; a disk
that refuses a file cuts it off in both. -/
theorem Rollout.applyAll_hides_secret (gap : SecretGap) (first second : String) (directory : Path)
    (logger : String) (engine : Engine) (schemaFile lossFlag : Value) (dryRun : Bool)
    (workers : Value) (plans : List Targets) (session : Session) :
    ∃ outcome one other,
      ((gap.rollout directory logger engine schemaFile lossFlag dryRun first).applyAll workers
        plans).perform session = (outcome, one) ∧
      ((gap.rollout directory logger engine schemaFile lossFlag dryRun second).applyAll workers
        plans).perform session = (outcome, other) ∧
      one.events = other.events ∧
      one.tree.Alike (gap.Beside first second session.devices) other.tree := by
  have agree := gap.agree_rollout first second session.devices directory logger engine schemaFile
    lossFlag dryRun
  have start : session.Alike session.devices (gap.Beside first second session.devices) session :=
    ⟨rfl, rfl, rfl, .refl .same session.tree, rfl, rfl, rfl, rfl⟩
  obtain ⟨same, alike⟩ := agree.applyAll workers plans session session start
  generalize (applyAll _ workers plans).perform session = ended at same alike ⊢
  generalize (applyAll _ workers plans).perform session = otherEnded at same alike ⊢
  obtain ⟨outcome, one⟩ := ended
  obtain ⟨_, other⟩ := otherEnded
  obtain rfl : outcome = _ := same
  exact ⟨outcome, one, other, rfl, rfl, alike.events, alike.tree⟩

end FleetSchema
