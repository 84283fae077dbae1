/-
**The engine decides.**

A rollout whose job is generated starts the engine once, for that job, and its result says how the
engine has ended. It has succeeded when the engine was started and ended with the code zero; every
other code, and every fault of starting the engine, is a failure.

* `IsTail`: the last lines of what a program said; `isTail_iff`: they are what the engine keeps;
* `Engine.perform_apply`: running the engine is one call, and comes to the engine's verdict;
* `Mirrors`: what a result tells of the engine's end;
* `mirrors_end`: the result of a rollout tells that.
-/

import FleetSchema.Engine
import FleetSchema.Proofs.Rollout.Outcome
import FleetSchema.Proofs.Text.Lines

namespace FleetSchema

open FleetSchema.Action

/-! ### The last lines -/

/-- A text is the tail of what a program said: the last lines of it in their order, twenty unless
there are fewer, with a line feed between them. -/
def IsTail (said tail : String) : Prop :=
  ∃ front last, Text.CutsInto said.toList (front ++ last) ∧
    last.length = min 20 (front ++ last).length ∧
    tail = "\n".intercalate (last.map String.ofList)

/-- **The engine keeps the tail** of what it said. -/
theorem isTail_iff (said tail : String) : IsTail said tail ↔ tail = Engine.tailOf said := by
  unfold Engine.tailOf Engine.tailLines Text.lines
  dsimp only
  rw [List.length_map, ← List.map_drop]
  constructor
  · rintro ⟨front, last, cuts, many, rfl⟩
    have behind : (front ++ last).length - 20 = front.length := by
      rw [List.length_append] at many ⊢
      omega
    rw [cuts.linesFrom_eq, behind, List.drop_left]
  · rintro rfl
    generalize cut : Text.linesFrom [] said.toList = lines
    refine ⟨lines.take (lines.length - 20), lines.drop (lines.length - 20), ?_, ?_, rfl⟩
    · rw [List.take_append_drop]
      exact (Text.cutsInto_iff _ _).mpr cut
    · rw [List.take_append_drop, List.length_drop]
      omega

/-! ### Running the engine -/

namespace Engine

/-- What the engine comes to for a job when it has ended. -/
def judgement (engine : Engine) (job : String) (ended : ProgramEnd) : Except Fault Unit :=
  if ended.code = 0 then .ok ()
  else .error (.exited engine.binary ended.code job (tailOf ended.complaint))

/-- What the engine comes to for a job. -/
def verdict (engine : Engine) (job : String) : Except Fault Unit :=
  match engine.launch (engine.arguments job) with
  | .error fault =>
    .error (if fault.families.system then .notStarted engine.binary fault else fault)
  | .ok ended => engine.judgement job ended

theorem verdict_eq_ok_iff (engine : Engine) (job : String) : engine.verdict job = .ok () ↔
    ∃ ended, engine.launch [engine.binary, "-p", job] = .ok ended ∧ ended.code = 0 := by
  change engine.verdict job = .ok () ↔
    ∃ ended, engine.launch (engine.arguments job) = .ok ended ∧ ended.code = 0
  unfold verdict
  cases engine.launch (engine.arguments job) with
  | error fault => simp
  | ok ended => simp [judgement]

/-- The wording of the verdict on an engine that has ended with another code than zero. -/
theorem verdict_of_exited {engine : Engine} {job : String} {ended : ProgramEnd}
    (exited : engine.launch [engine.binary, "-p", job] = .ok ended) (failed : ended.code ≠ 0) :
    ∃ fault tail, engine.verdict job = .error fault ∧ fault.isKind .execution = true ∧
      IsTail ended.complaint tail ∧
      fault.message = engine.binary ++ " exited with code " ++ toString ended.code ++ " for " ++
        job ++ if tail = "" then "" else ":\n" ++ tail := by
  change engine.launch (engine.arguments job) = .ok ended at exited
  unfold verdict
  rw [exited]
  dsimp only [judgement]
  rw [if_neg failed]
  refine ⟨.exited engine.binary ended.code job (tailOf ended.complaint), tailOf ended.complaint,
    rfl, rfl, (isTail_iff _ _).mpr rfl, ?_⟩
  change Fault.exitText engine.binary ended.code job (tailOf ended.complaint) = _
  unfold Fault.exitText
  simp only [String.isEmpty_iff]

/-- How the engine has ended is looked at without a call. -/
theorem perform_judge (engine : Engine) (job : String) (ended : ProgramEnd) (session : Session) :
    ∃ reached, (do
      unless ended.output.isEmpty do
        Action.log .debug engine.logger (engine.binary ++ " output:\n" ++ ended.output) false
      unless ended.code == 0 do
        throw (.exited engine.binary ended.code job (tailOf ended.complaint)) :
          Action Fault Unit).perform session = (engine.judgement job ended, reached) ∧
      callsIn reached.events = callsIn session.events := by
  have judge (reached : Session) : (if ended.code == 0 then pure ()
      else throw (.exited engine.binary ended.code job (tailOf ended.complaint)) :
        Action Fault Unit).perform reached = (engine.judgement job ended, reached) := by
    unfold judgement
    by_cases zero : ended.code = 0
    · rw [if_pos (beq_iff_eq.mpr zero), if_pos zero, perform_pure]
    · rw [if_neg (mt beq_iff_eq.mp zero), if_neg zero, perform_throw]
  by_cases silent : ended.output.isEmpty = true
  · rw [if_pos silent]
    exact ⟨session, judge session, rfl⟩
  · rw [if_neg silent, perform_bind, perform_log]
    exact ⟨_, judge _, Session.callsIn_noting _ _⟩

/-- **The engine is started once** when it is run on a job, and comes to its verdict. -/
theorem perform_apply (engine : Engine) (job : String) (session : Session) :
    ∃ reached, (engine.applier.apply job).perform session = (engine.verdict job, reached) ∧
      callsIn reached.events =
        callsIn session.events ++ [.started [engine.binary, "-p", job]] := by
  change ∃ reached, (engine.apply job).perform session = _ ∧ _
  unfold apply run verdict
  rw [perform_bind, perform_log]
  dsimp only
  rw [perform_bind, perform_bind, perform_call]
  generalize noted : session.noting _ = ready
  have calls : callsIn (ready.adding (.call (.started (engine.arguments job)))).events =
      callsIn session.events ++ [.started [engine.binary, "-p", job]] := by
    rw [Session.callsIn_adding_call, ← noted, Session.callsIn_noting]
    rfl
  cases engine.launch (engine.arguments job) with
  | error fault => exact ⟨_, rfl, calls⟩
  | ok ended =>
    obtain ⟨reached, judged, noCalls⟩ := engine.perform_judge job ended
      (ready.adding (.call (.started (engine.arguments job))))
    exact ⟨reached, judged, noCalls.trans calls⟩

end Engine

namespace Rollout

variable {targets : Targets} {session : Session} {file job : String}

/-- What a result tells of the end of the engine that was started for a job. -/
structure Mirrors (targets : Targets) (binary job : String) (ended : Except Fault ProgramEnd)
    (result : RolloutResult) : Prop where
  clusterUri : result.clusterUri = targets.clusterUri
  databases : result.databases = targets.databases
  jobFile : result.jobFile = some job
  success : result.status = .success ↔ ∃ how, ended = .ok how ∧ how.code = 0
  failed : result.status = .failed ↔ ¬ ∃ how, ended = .ok how ∧ how.code = 0
  error_eq_none : result.error = none ↔ result.status ≠ .failed
  error_exited : ∀ how, ended = .ok how → how.code ≠ 0 → ∃ tail, IsTail how.complaint tail ∧
    result.error = some (binary ++ " exited with code " ++ toString how.code ++ " for " ++ job ++
      if tail = "" then "" else ":\n" ++ tail)

/-- A result that accounts for a generated job and for an applier that comes to the engine's verdict
mirrors the engine's end. -/
theorem Accounts.mirrors {generated : Except Fault Value} {applied : String → Except Fault Unit}
    {result : RolloutResult} {engine : Engine}
    (account : Accounts targets false generated applied result) (refers : Refers generated job)
    (ran : applied job = engine.verdict job) :
    Mirrors targets engine.binary job (engine.launch [engine.binary, "-p", job]) result where
  clusterUri := account.clusterUri
  databases := account.databases
  jobFile := account.jobFile job refers
  success := by
    rw [account.success job refers, ran, engine.verdict_eq_ok_iff]
    exact and_iff_right rfl
  failed := by
    rw [account.failed job refers, ran, ← engine.verdict_eq_ok_iff]
    cases engine.verdict job with
    | error fault => simp
    | ok value => simp
  error_eq_none := account.error_eq_none
  error_exited := by
    intro how exited code
    obtain ⟨fault, tail, isFault, isKind, isTail, wording⟩ := Engine.verdict_of_exited exited code
    obtain ⟨_, error⟩ := account.error_unapplied job fault refers rfl (ran.trans isFault)
    unfold unappliedFault at error
    rw [if_pos isKind, wording] at error
    exact ⟨tail, isTail, error⟩

/-- A rollout whose job is generated comes to what its applier comes to. -/
theorem perform_apply_generated (rollout : Rollout) (stored : rollout.schemaFile = .path file)
    (wet : rollout.dryRun = false) (refers : Refers (rollout.asked targets file session).1 job) :
    (rollout.apply targets).perform session =
      let applied := rollout.applied (rollout.configuration targets file job)
        (rollout.asked targets file session).2
      (.ok (completed targets job targets.clusterUri applied.1),
        notingUnapplied targets.clusterUri applied.1 applied.2) := by
  have found := (referenceIn_eq_some_iff _ _).mpr refers
  rw [perform_apply rollout targets session file stored]
  unfold halfwayOf
  dsimp only
  rw [found, notingUnbuilt_of_some found]
  dsimp only
  rw [wet]
  rfl

/-- **The status of a rollout mirrors the end of the engine.** Whatever generator gives a reference
to a job, and however the engine ends or fails to start, a rollout that is no dry run ends in a
result. Behind the generator it makes one call, which starts the engine for the job. The result is
a success if the engine was started and has ended with the code zero, and else a failure. For
another code its error names the engine, the code and the job, and ends in the tail of what the
engine complained about, if that is not empty. -/
theorem mirrors_end (file : String) (generator : JobGenerator) (engine : Engine) (lossFlag : Value)
    (targets : Targets) (session : Session) (job : String) :
    let rollout : Rollout := ⟨.path file, generator, engine.applier, lossFlag, false⟩
    let asked := (generator.generate targets.clusterUri targets.databases (.ofText file)
      lossFlag).perform (askingSession targets.clusterUri targets.databases session)
    Refers asked.1 job →
      ∃ result reached, (rollout.apply targets).perform session = (.ok result, reached) ∧
        callsIn reached.events =
          callsIn asked.2.events ++ [.started [engine.binary, "-p", job]] ∧
        (∀ generate, generator = .answering generate → callsIn reached.events =
          callsIn session.events ++
            [.generated targets.clusterUri targets.databases (Path.ofText file).toText lossFlag,
              .started [engine.binary, "-p", job]]) ∧
        Mirrors targets engine.binary job (engine.launch [engine.binary, "-p", job]) result := by
  intro rollout asked refers
  have performed := perform_apply_generated rollout rfl rfl refers
  obtain ⟨ended, ran, calls⟩ := engine.perform_apply job
    (asked.2.noting (applyingRecord (rollout.configuration targets file job)))
  have applied : rollout.applied (rollout.configuration targets file job)
      (rollout.asked targets file session).2 = (engine.verdict job, ended) := ran
  rw [applied] at performed
  have behind : callsIn (notingUnapplied targets.clusterUri (engine.verdict job) ended).events =
      callsIn asked.2.events ++ [.started [engine.binary, "-p", job]] := by
    rw [callsIn_notingUnapplied, calls, Session.callsIn_noting]
  have account := accounts_completed targets (fun _ => engine.verdict job) refers
  refine ⟨_, _, performed, behind, ?_, account.mirrors refers rfl⟩
  intro generate isGenerator
  have onlyAsked : asked = _ := asked_of_answering rollout targets file session isGenerator
  rw [behind, onlyAsked, Session.callsIn_adding_call, callsIn_askingSession, List.append_assoc]
  rfl

/-- An engine that a signal has ended, after it complained in lines with several kinds of ends. -/
theorem mirrors_end_signalled :
    let generator : JobGenerator := .answering fun _ _ _ _ => .ok (.text "job.yaml")
    let engine : Engine :=
      ⟨"delta-kusto", fun _ => .ok ⟨-9, "", "lost\r\n\u2028again\n"⟩, Engine.defaultLogger⟩
    let targets : Targets := ⟨"https://a", ["X"], .all⟩
    let session := Session.start ⟨[], []⟩
    let asked := (generator.generate targets.clusterUri targets.databases (.ofText "s.kql")
      (.bool true)).perform (askingSession targets.clusterUri targets.databases session)
    Refers asked.1 "job.yaml" ∧
      ∃ result reached,
        ((⟨.path "s.kql", generator, engine.applier, .bool true, false⟩ : Rollout).apply
          targets).perform session = (.ok result, reached) ∧
        callsIn reached.events = [.generated "https://a" ["X"] "s.kql" (.bool true),
          .started ["delta-kusto", "-p", "job.yaml"]] ∧
        Mirrors targets "delta-kusto" "job.yaml" (.ok ⟨-9, "", "lost\r\n\u2028again\n"⟩) result ∧
        result.error = some "delta-kusto exited with code -9 for job.yaml:\nlost\n\nagain" := by
  intro generator engine targets session asked
  have refers : Refers asked.1 "job.yaml" := ⟨_, rfl, .text _ (by decide)⟩
  obtain ⟨result, reached, performed, _, calls, mirrors⟩ :=
    mirrors_end "s.kql" generator engine (.bool true) targets session "job.yaml" refers
  obtain ⟨tail, isTail, error⟩ := mirrors.error_exited _ rfl (by decide)
  obtain rfl : tail = "lost\n\nagain" := ((isTail_iff _ _).mp isTail).trans (by decide +kernel)
  exact ⟨refers, result, reached, performed, calls _ rfl, mirrors, error.trans (by decide +kernel)⟩

end Rollout

end FleetSchema
