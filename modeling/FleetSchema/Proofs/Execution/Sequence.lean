/-
**Storing, building and executing follow each other.**

A schema is stored, the job that refers to its file is generated, and the job is applied. Each of
these is done once, in this order, and the first one that fails ends the run with a fault of its own
kind.

* `Storage.perform_writeFresh_of_clean`: a fresh file is written without any event, and only the
  system refuses it or fails;
* `SchemaStore.store_cases`: storing ends in a fresh file or in a fault of storage, without a call;
* `Configuration.carryOut`: storing, building and executing in a row;
* `Configuration.CarriedOut`: how such a run ends, stage by stage;
* `carries_out_in_stages`: every run ends so.
-/

import FleetSchema.Execution
import FleetSchema.Proofs.Files.Written
import FleetSchema.Proofs.Rollout.Outcome

namespace FleetSchema

open FleetSchema.Action FileTree

variable {session last : Session}

/-! ### Storing -/

theorem Storage.writeFresh_clean {root start ending : String}
    (cleanRoot : '\x00' ∉ root.toList) (cleanStart : '\x00' ∉ start.toList)
    (cleanEnding : '\x00' ∉ ending.toList) : '\x00' ∉ (root ++ start ++ ending).toList := by
  rw [String.toList_append, String.toList_append, List.mem_append, List.mem_append]
  rintro ((inRoot | inStart) | inEnding)
  · exact cleanRoot inRoot
  · exact cleanStart inStart
  · exact cleanEnding inEnding

/-- A text is written into a fresh file without any event. If it is not, the system has refused
it or fails to write it. -/
theorem Storage.perform_writeFresh_of_clean {directory : Path} {mode : Nat}
    {start ending text : String} {outcome : Except Fault Path}
    (clean : '\x00' ∉ (directory.toText ++ start ++ ending).toList)
    (performed : (writeFresh directory mode start ending (.ok text)).perform session =
      (outcome, last)) :
    last.events = session.events ∧
      ∀ fault, outcome = .error fault → fault.families.system = true := by
  have cleanDirectory : '\x00' ∉ directory.toText.toList := by
    intro inDirectory
    apply clean
    rw [String.toList_append, String.toList_append]
    exact List.mem_append_left _ (List.mem_append_left _ inDirectory)
  unfold writeFresh at performed
  rw [perform_bind, perform_makeDirectories cleanDirectory] at performed
  cases making : session.tree.makeDirectories directory mode with
  | error refused =>
    rw [making] at performed
    cases performed
    refine ⟨rfl, fun fault isFault => ?_⟩
    cases isFault
    rfl
  | ok made =>
    rw [making] at performed
    dsimp only at performed
    rw [perform_bind, perform_createFresh clean] at performed
    dsimp only at performed
    cases creating : made.createFresh directory start ending with
    | error refused =>
      rw [creating] at performed
      cases performed
      refine ⟨rfl, fun fault isFault => ?_⟩
      cases isFault
      rfl
    | ok file =>
      rw [creating] at performed
      dsimp only at performed
      rw [perform_bind, perform_ofDefect] at performed
      dsimp only [Except.mapError] at performed
      rw [perform_bind, perform_write] at performed
      cases refuses : session.devices.disk file.1 with
      | none =>
        dsimp only at performed
        rw [refuses] at performed
        cases performed
        exact ⟨rfl, fun fault isFault => by cases isFault⟩
      | some reason =>
        dsimp only at performed
        rw [refuses] at performed
        cases performed
        refine ⟨rfl, fun fault isFault => ?_⟩
        cases isFault
        rfl

/-- **Storing a schema ends in a fresh file with its text or in a fault of storage**, and nobody is
called on. -/
theorem SchemaStore.store_cases {place : SchemaStore} {schema : SchemaDefinition}
    {outcome : Except Fault Path} (cleanRoot : '\x00' ∉ place.root.toText.toList)
    (cleanDialect : '\x00' ∉ schema.dialect.toList)
    (performed : (place.store schema).perform session = (outcome, last)) :
    callsIn last.events = callsIn session.events ∧
      ((∃ cause, outcome = .error (.schemaUnstored place.root.toText cause) ∧
          cause.families.system = true ∧ session.Spares schema.text last) ∨
        ∃ path, outcome = .ok path ∧
          Fresh path (Text.Utf8.encode schema.text) session.tree last.tree) := by
  have comes := freshOutcome_store performed
  have clean : '\x00' ∉ (place.root.toText ++ "schema-" ++ ("." ++ schema.dialect)).toList := by
    refine Storage.writeFresh_clean cleanRoot (by decide) ?_
    rw [String.toList_append, List.mem_append, not_or]
    exact ⟨by decide, cleanDialect⟩
  unfold store at performed
  rw [perform_bind, perform_onFault] at performed
  rcases wrote : (place.writeFresh schema).perform session with ⟨fault | path, reached⟩
  · obtain ⟨silent, refused⟩ := Storage.perform_writeFresh_of_clean clean wrote
    have system : fault.families.system = true := refused fault rfl
    rw [wrote] at performed
    unfold storeFault at performed
    dsimp only at performed
    rw [if_pos system, perform_bind, perform_log] at performed
    cases performed
    refine ⟨?_, Or.inl ⟨fault, rfl, system, ?_⟩⟩
    · rw [Session.callsIn_noting, silent]
    · cases comes with
      | refused _ _ gains => exact Or.inl gains
      | unfilled _ _ isDefect => cases isDefect
      | torn _ _ isText refuses fresh =>
        cases isText
        exact Or.inr ⟨_, _, refuses, fresh⟩
  · obtain ⟨silent, _⟩ := Storage.perform_writeFresh_of_clean clean wrote
    rw [wrote] at performed
    dsimp only at performed
    rw [perform_bind, perform_log] at performed
    cases performed
    refine ⟨?_, Or.inr ⟨path, rfl, ?_⟩⟩
    · rw [Session.callsIn_noting, silent]
    · cases comes with
      | filled _ isText _ fresh =>
        cases isText
        exact fresh

namespace Configuration

variable {store : SchemaStore} {generator : JobGenerator} {applier : SchemaApplier}
  {targets : Targets} {schema : SchemaDefinition} {lossFlag : Value} {first : Session}

/-! ### The three stages -/

/-- Store a schema, build the configuration for targets, and execute it. -/
def carryOut (store : SchemaStore) (generator : JobGenerator) (applier : SchemaApplier)
    (targets : Targets) (schema : SchemaDefinition) (lossFlag : Value) : Action Fault Unit := do
  let configuration ← create store generator targets schema lossFlag
  execute configuration applier

/-- How storing, building and executing in a row end. Every stage starts in the session in which the
one before it has ended; in between there are diagnostics only. -/
inductive CarriedOut (store : SchemaStore) (generator : JobGenerator) (applier : SchemaApplier)
    (targets : Targets) (schema : SchemaDefinition) (lossFlag : Value) (first : Session) :
    Except Fault Unit → Session → Prop
  /-- The schema is not stored. No file is left behind unless the disk refuses it, and nobody is
  called on. -/
  | unstored {cause : Fault} {last : Session}
    (wasStored : (store.store schema).perform first =
      (.error (.schemaUnstored store.root.toText cause), last))
    (system : cause.families.system = true)
    (silent : callsIn last.events = callsIn first.events)
    (spares : first.Spares schema.text last) :
    CarriedOut store generator applier targets schema lossFlag first
      (.error (.schemaUnstored store.root.toText cause)) last
  /-- The generator is asked once for the job of the file just stored, and ends in a fault or in
  something that is no reference. -/
  | unbuilt {path : Path} {stored asked : Session} {generated : Except Fault Value}
    (wasStored : (store.store schema).perform first = (.ok path, stored))
    (fresh : Fresh path (Text.Utf8.encode schema.text) first.tree stored.tree)
    (silent : callsIn stored.events = callsIn first.events)
    (wasAsked : (generator.generate targets.clusterUri targets.databases path lossFlag).perform
      (askingSession targets.clusterUri targets.databases stored) = (generated, asked))
    (unusable : ∀ job, ¬Refers generated job)
    (calls : ∀ generate, generator = .answering generate →
      generate targets.clusterUri targets.databases path lossFlag = generated ∧
      callsIn asked.events = callsIn first.events ++
        [.generated targets.clusterUri targets.databases path.toText lossFlag]) :
    CarriedOut store generator applier targets schema lossFlag first
      (.error (unbuiltFault targets.clusterUri generated))
      (notingUnbuilt targets.clusterUri generated asked)
  /-- The generator is asked once and gives a reference, and the applier is asked once to apply
  it. -/
  | executed {path : Path} {job : String} {stored asked reached : Session}
    {generated : Except Fault Value} {applied : Except Fault Unit}
    (wasStored : (store.store schema).perform first = (.ok path, stored))
    (fresh : Fresh path (Text.Utf8.encode schema.text) first.tree stored.tree)
    (silent : callsIn stored.events = callsIn first.events)
    (wasAsked : (generator.generate targets.clusterUri targets.databases path lossFlag).perform
      (askingSession targets.clusterUri targets.databases stored) = (generated, asked))
    (refers : Refers generated job)
    (wasBuilt : (create store generator targets schema lossFlag).perform first =
      (.ok ⟨path, job, targets.clusterUri, targets.databases, lossFlag⟩, asked))
    (wasApplied : (applier.apply job).perform (asked.noting
      (applyingRecord ⟨path, job, targets.clusterUri, targets.databases, lossFlag⟩)) =
        (applied, reached))
    (calls : ∀ generate apply, generator = .answering generate → applier = .answering apply →
      generate targets.clusterUri targets.databases path lossFlag = generated ∧
      apply job = applied ∧
      callsIn reached.events = callsIn first.events ++
        [.generated targets.clusterUri targets.databases path.toText lossFlag, .applied job]) :
    CarriedOut store generator applier targets schema lossFlag first
      (applied.mapError (unappliedFault targets.clusterUri))
      (notingUnapplied targets.clusterUri applied reached)

/-- A generator that answers as a function says is called once. -/
theorem calls_of_answering {path : Path} {stored asked : Session} {generated : Except Fault Value}
    {generate : String → List String → Path → Value → Except Fault Value}
    (silent : callsIn stored.events = callsIn first.events)
    (wasAsked : ((JobGenerator.answering generate).generate targets.clusterUri targets.databases
      path lossFlag).perform (askingSession targets.clusterUri targets.databases stored) =
        (generated, asked)) :
    generate targets.clusterUri targets.databases path lossFlag = generated ∧
      callsIn asked.events = callsIn first.events ++
        [.generated targets.clusterUri targets.databases path.toText lossFlag] := by
  unfold JobGenerator.answering at wasAsked
  rw [perform_bind, perform_call] at wasAsked
  dsimp only at wasAsked
  rw [perform_ofExcept] at wasAsked
  cases wasAsked
  refine ⟨rfl, ?_⟩
  rw [Session.callsIn_adding_call, Rollout.callsIn_askingSession, silent]

/-- What is left to be done with a stored schema. -/
theorem carriedOut_of_stored {path : Path} {stored : Session}
    (wasStored : (store.store schema).perform first = (.ok path, stored))
    (fresh : Fresh path (Text.Utf8.encode schema.text) first.tree stored.tree)
    (silent : callsIn stored.events = callsIn first.events) :
    ∃ outcome last, (carryOut store generator applier targets schema lossFlag).perform first =
        (outcome, last) ∧
      CarriedOut store generator applier targets schema lossFlag first outcome last := by
  have built : (create store generator targets schema lossFlag).perform first =
      (build generator targets.clusterUri targets.databases (.path path.toText) lossFlag).perform
        stored := by
    unfold create
    rw [perform_bind, wasStored]
  rw [perform_build, perform_assemble, Path.ofText_toText fresh.normal] at built
  rcases wasAsked : (generator.generate targets.clusterUri targets.databases path lossFlag).perform
    (askingSession targets.clusterUri targets.databases stored) with ⟨generated, asked⟩
  rw [wasAsked] at built
  dsimp only [configurationOf] at built
  rw [Path.ofText_toText fresh.normal] at built
  unfold carryOut
  rw [perform_bind, built]
  cases found : referenceIn generated with
  | none =>
    refine ⟨_, _, rfl, .unbuilt wasStored fresh silent wasAsked
      (Rollout.not_refers_of_none found) ?_⟩
    rintro generate rfl
    exact calls_of_answering silent wasAsked
  | some job =>
    rw [found, Rollout.notingUnbuilt_of_some found] at built
    have refers : Refers generated job := (referenceIn_eq_some_iff _ _).mp found
    dsimp only at built ⊢
    rw [perform_execute, Rollout.notingUnbuilt_of_some found]
    rcases wasApplied : (applier.apply job).perform (asked.noting
      (applyingRecord ⟨path, job, targets.clusterUri, targets.databases, lossFlag⟩)) with
      ⟨applied, reached⟩
    refine ⟨_, _, rfl, .executed wasStored fresh silent wasAsked refers built wasApplied ?_⟩
    rintro generate apply rfl rfl
    obtain ⟨sameGenerated, calls⟩ := calls_of_answering silent wasAsked
    unfold SchemaApplier.answering at wasApplied
    rw [perform_bind, perform_call] at wasApplied
    dsimp only at wasApplied
    rw [perform_ofExcept] at wasApplied
    cases wasApplied
    refine ⟨sameGenerated, rfl, ?_⟩
    rw [Session.callsIn_adding_call, Session.callsIn_noting, calls, List.append_assoc]
    rfl

/-- A run that is carried out in stages ends in a fault of one of three kinds, if in any. -/
theorem CarriedOut.isKind {outcome : Except Fault Unit} {fault : Fault}
    (ends : CarriedOut store generator applier targets schema lossFlag first outcome last)
    (failed : outcome = .error fault) :
    fault.isKind .storage = true ∨ fault.isKind .build = true ∨ fault.isKind .execution = true := by
  cases ends with
  | unstored =>
    cases failed
    exact Or.inl rfl
  | unbuilt =>
    cases failed
    exact Or.inr (Or.inl (unbuiltFault_isKind _ _))
  | @executed _ _ _ _ _ _ applied =>
    cases applied with
    | ok value => cases failed
    | error cause =>
      cases failed
      exact Or.inr (Or.inr (unappliedFault_isKind _ _))

/-- **Storing, building and executing follow each other strictly.** A schema that cannot be stored
is a fault of storage, and nobody is called on. Otherwise the generator is asked once, for the
targets and the file just stored; unless it gives a reference, that is a fault of building, and the
applier is never asked. Otherwise the configuration holds what the generator was asked and its
reference, and the applier is asked once, with that reference; its fault is one of executing. -/
theorem carries_out_in_stages (store : SchemaStore) (generator : JobGenerator)
    (applier : SchemaApplier) (targets : Targets) (schema : SchemaDefinition) (lossFlag : Value)
    (first : Session) (cleanRoot : '\x00' ∉ store.root.toText.toList)
    (cleanDialect : '\x00' ∉ schema.dialect.toList) :
    ∃ outcome last,
      (carryOut store generator applier targets schema lossFlag).perform first = (outcome, last) ∧
      CarriedOut store generator applier targets schema lossFlag first outcome last ∧
      ∀ fault, outcome = .error fault → fault.isKind .storage = true ∨
        fault.isKind .build = true ∨ fault.isKind .execution = true := by
  suffices ends : ∃ outcome last,
      (carryOut store generator applier targets schema lossFlag).perform first = (outcome, last) ∧
      CarriedOut store generator applier targets schema lossFlag first outcome last by
    obtain ⟨outcome, last, performed, carried⟩ := ends
    exact ⟨outcome, last, performed, carried, fun _ failed => carried.isKind failed⟩
  rcases wasStored : (store.store schema).perform first with ⟨ended, stored⟩
  obtain ⟨silent, ⟨cause, rfl, system, spares⟩ | ⟨path, rfl, fresh⟩⟩ :=
    SchemaStore.store_cases cleanRoot cleanDialect wasStored
  · refine ⟨_, _, ?_, .unstored wasStored system silent spares⟩
    unfold carryOut create
    rw [perform_bind, perform_bind, wasStored]
  · exact carriedOut_of_stored wasStored fresh silent

/-- A job is generated, and applying it fails with a defect. -/
theorem carries_out_in_stages_failing :
    let store : SchemaStore := ⟨⟨"", ["store"]⟩, SchemaStore.defaultLogger⟩
    let generator := JobGenerator.answering fun _ _ _ _ => .ok (.text "job-1")
    let applier := SchemaApplier.answering fun _ => .error (.defect .embeddedNull)
    let targets : Targets := ⟨"https://fabrikam.kusto.windows.net", ["sales"], .explicitList⟩
    let first := Session.start ⟨["work"], [(["work"], .directory openMode)]⟩
    '\x00' ∉ store.root.toText.toList ∧ '\x00' ∉ "kql".toList ∧
      ∃ outcome last,
        (carryOut store generator applier targets ⟨".create table T (x: int)", "kql"⟩
          (.bool true)).perform first = (outcome, last) ∧
        CarriedOut store generator applier targets ⟨".create table T (x: int)", "kql"⟩ (.bool true)
          first outcome last ∧
        ∀ fault, outcome = .error fault → fault.isKind .storage = true ∨
          fault.isKind .build = true ∨ fault.isKind .execution = true := by
  intro store generator applier targets first
  have cleanRoot : '\x00' ∉ store.root.toText.toList := by decide +kernel
  have cleanDialect : '\x00' ∉ "kql".toList := by decide +kernel
  exact ⟨cleanRoot, cleanDialect,
    carries_out_in_stages store generator applier targets _ (.bool true) first cleanRoot
      cleanDialect⟩

end Configuration

end FleetSchema
