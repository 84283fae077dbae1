/-
**Files that a run writes.**

* `FreshOutcome`: what comes of asking for a fresh file, which the system grants or not and the disk
  takes or not;
* `NewFiles`: new files at distinct paths, and no other one but those that the disk refuses to take;
* `SchemaStore.freshOutcome_store`, `JobWriter.freshOutcome_generate`: storing a schema and
  generating a job file are two ways of asking for one;
* `SchemaStore.store_eq_ok`: a schema that is stored stands in a fresh file;
* `JobDocument.exists_text`: a document of texts and switches has a form;
* `JobWriter.perform_generate`: a job file that is generated holds its document, and a job file that
  is not leaves nothing behind, except a fresh file that the disk refuses to take.
-/

import FleetSchema.Job.Generator
import FleetSchema.Proofs.Files.Growth
import FleetSchema.Proofs.Job.Document
import FleetSchema.Schema
import FleetSchema.Settings

namespace FleetSchema

open FleetSchema.Action FileTree

variable {session last : Session} {path : Path}

/-! ### Fresh files -/

/-- A fresh file behind new directories. -/
theorem FileTree.Fresh.behind {bytes : List UInt8} {first middle later : FileTree}
    (gains : Gains [] first middle) (fresh : Fresh path bytes middle later) :
    Fresh path bytes first later := by
  obtain ⟨place, leads, vacant, found⟩ := fresh.stands
  exact ⟨gains.trans fresh.gains, fresh.normal, gains.isThere fresh.absent, place, leads,
    gains.find?_eq_none vacant, found⟩

/-- A tree comes out of another one by new directories and, if by any files, by files that the disk
refuses to take. -/
def FileTree.GainsTorn (disk : Path → Option WriteFault) (first last : FileTree) : Prop :=
  ∃ gained, Gains gained first last ∧ ∀ path ∈ gained, disk path ≠ none

theorem FileTree.gainsTorn_refl (disk : Path → Option WriteFault) (tree : FileTree) :
    GainsTorn disk tree tree := ⟨[], .refl tree, nofun⟩

/-- New files: they are at distinct paths that led to nothing before, and no other file is new but
those that the disk refuses to take. -/
structure FileTree.NewFiles (disk : Path → Option WriteFault) (paths : List Path)
    (first last : FileTree) : Prop where
  gains : ∃ gained, Gains gained first last ∧ ∀ path ∈ gained, path ∈ paths ∨ disk path ≠ none
  distinct : paths.Nodup
  absent : ∀ path ∈ paths, first.isThere path = false

/-- New files behind a fresh one. -/
theorem FileTree.Fresh.cons {bytes : List UInt8} {first middle later : FileTree}
    {disk : Path → Option WriteFault} {paths : List Path} (fresh : Fresh path bytes first middle)
    (more : NewFiles disk paths middle later) : NewFiles disk (path :: paths) first later where
  gains := by
    obtain ⟨gained, gains, known⟩ := more.gains
    refine ⟨path :: gained, fresh.gains.trans gains, fun other member => ?_⟩
    obtain rfl | behind := List.mem_cons.mp member
    · exact Or.inl List.mem_cons_self
    · exact (known other behind).imp_left (List.mem_cons_of_mem _)
  distinct := by
    refine List.nodup_cons.mpr ⟨fun member => ?_, more.distinct⟩
    have absent := more.absent path member
    rw [isThere_of_read fresh.held] at absent
    cases absent
  absent other member := by
    obtain rfl | behind := List.mem_cons.mp member
    · exact fresh.absent
    · exact fresh.gains.isThere (more.absent other behind)

/-- The system grants a fresh file at a path, in a directory that is made where it is missing. -/
def FileTree.Grants (tree : FileTree) (directory : Path) (mode : Nat) (start ending : String)
    (path : Path) : Prop :=
  '\x00' ∉ (directory.toText ++ start ++ ending).toList ∧
    ∃ made last, tree.makeDirectories directory mode = .ok made ∧
      made.createFresh directory start ending = .ok (path, last)

/-- One fresh file is granted at most. -/
theorem FileTree.Grants.unique {tree : FileTree} {directory : Path} {mode : Nat}
    {start ending : String} {other : Path} (grants : tree.Grants directory mode start ending path)
    (grantsOther : tree.Grants directory mode start ending other) : path = other := by
  obtain ⟨_, made, last, making, creating⟩ := grants
  obtain ⟨_, _, _, again, creatingOther⟩ := grantsOther
  rw [making] at again
  cases again
  rw [creating] at creatingOther
  cases creatingOther
  rfl

/-- What comes of asking for a fresh file with some content. -/
inductive FreshOutcome (granted : Path → Prop) (disk : Path → Option WriteFault)
    (content : Except Defect String) (first last : FileTree) : Except Fault Path → Prop
  /-- The system refuses. -/
  | refused (fault : Fault) (refuses : ∀ path, ¬granted path) (gains : Gains [] first last) :
    FreshOutcome granted disk content first last (.error fault)
  /-- There is nothing to write, and the file stays empty. -/
  | unfilled (fault : Fault) {path : Path} {defect : Defect} (grants : granted path)
    (isDefect : content = .error defect) (fresh : Fresh path [] first last) :
    FreshOutcome granted disk content first last (.error fault)
  /-- The disk refuses the content, and the file holds the first bytes of it. -/
  | torn (fault : Fault) {path : Path} {text : String} {reason : WriteFault}
    (grants : granted path) (isText : content = .ok text) (refuses : disk path = some reason)
    (fresh : Fresh path ((Text.Utf8.encode text).take reason.written) first last) :
    FreshOutcome granted disk content first last (.error fault)
  /-- The file holds the content. -/
  | filled {path : Path} {text : String} (grants : granted path) (isText : content = .ok text)
    (takes : disk path = none) (fresh : Fresh path (Text.Utf8.encode text) first last) :
    FreshOutcome granted disk content first last (.ok path)

namespace Storage

variable {text start ending : String} {mode : Nat} {directory : Path}

theorem perform_checkPath_of_mem (ends : '\x00' ∈ text.toList) :
    (checkPath text).perform session = (.error (.defect .embeddedNull), session) := by
  unfold checkPath
  rw [if_pos (List.contains_iff_mem.mpr ends)]
  rfl

theorem perform_checkPath_of_not_mem (clean : '\x00' ∉ text.toList) :
    (checkPath text).perform session = (.ok (), session) := by
  unfold checkPath
  rw [if_neg fun ends => clean (List.contains_iff_mem.mp ends)]
  rfl

theorem perform_makeDirectories_of_mem (ends : '\x00' ∈ directory.toText.toList) :
    (makeDirectories directory mode).perform session =
      (.error (.defect .embeddedNull), session) := by
  unfold makeDirectories
  rw [perform_bind, perform_checkPath_of_mem ends]

theorem perform_createFresh_of_mem
    (ends : '\x00' ∈ (directory.toText ++ start ++ ending).toList) :
    (createFresh directory start ending).perform session =
      (.error (.defect .embeddedNull), session) := by
  unfold createFresh
  rw [perform_bind, perform_checkPath_of_mem ends]

theorem perform_makeDirectories (clean : '\x00' ∉ directory.toText.toList) :
    (makeDirectories directory mode).perform session =
      match session.tree.makeDirectories directory mode with
      | .ok tree => (.ok (), { session with tree := tree })
      | .error (refusal, place) => (.error (.defect (.refused refusal place.toText)), session) := by
  unfold makeDirectories
  rw [perform_bind, perform_checkPath_of_not_mem clean]
  dsimp only
  rw [perform_bind, perform_get]
  dsimp only
  cases session.tree.makeDirectories directory mode with
  | ok tree => rfl
  | error refused => rfl

theorem perform_createFresh (clean : '\x00' ∉ (directory.toText ++ start ++ ending).toList) :
    (createFresh directory start ending).perform session =
      match session.tree.createFresh directory start ending with
      | .ok (path, tree) => (.ok path, { session with tree := tree })
      | .error (refusal, place) => (.error (.defect (.refused refusal place)), session) := by
  unfold createFresh
  rw [perform_bind, perform_checkPath_of_not_mem clean]
  dsimp only
  rw [perform_bind, perform_get]
  dsimp only
  cases session.tree.createFresh directory start ending with
  | ok file => rfl
  | error refused => rfl

/-- **A fresh file is refused, stays empty, is torn or has its content.** -/
theorem freshOutcome_writeFresh (directory : Path) (mode : Nat) (start ending : String)
    (content : Except Defect String) (session : Session) :
    FreshOutcome (session.tree.Grants directory mode start ending) session.devices.disk content
      session.tree ((writeFresh directory mode start ending content).perform session).2.tree
      ((writeFresh directory mode start ending content).perform session).1 := by
  unfold writeFresh
  rw [perform_bind]
  by_cases ends : '\x00' ∈ directory.toText.toList
  · rw [perform_makeDirectories_of_mem ends]
    refine .refused _ (fun path granted => granted.1 ?_) (.refl _)
    rw [String.toList_append, String.toList_append]
    exact List.mem_append_left _ (List.mem_append_left _ ends)
  rw [perform_makeDirectories ends]
  cases making : session.tree.makeDirectories directory mode with
  | error refused =>
    refine .refused _ ?_ (.refl _)
    rintro path ⟨_, made, _, isMade, _⟩
    rw [making] at isMade
    cases isMade
  | ok made =>
    have gains := gains_makeDirectories making
    dsimp only
    rw [perform_bind]
    by_cases endsWhole : '\x00' ∈ (directory.toText ++ start ++ ending).toList
    · rw [perform_createFresh_of_mem endsWhole]
      exact .refused _ (fun path granted => granted.1 endsWhole) gains
    rw [perform_createFresh endsWhole]
    dsimp only
    cases creating : made.createFresh directory start ending with
    | error refused =>
      refine .refused _ ?_ gains
      rintro path ⟨_, other, file, isMade, isCreated⟩
      rw [making] at isMade
      cases isMade
      rw [creating] at isCreated
      cases isCreated
    | ok file =>
      obtain ⟨path, created⟩ := file
      have granted : session.tree.Grants directory mode start ending path :=
        ⟨endsWhole, made, created, making, creating⟩
      dsimp only
      rw [perform_bind, perform_ofDefect]
      cases content with
      | error defect => exact .unfilled _ granted rfl ((fresh_createFresh creating).behind gains)
      | ok text =>
        dsimp only [Except.mapError]
        rw [perform_bind, perform_write]
        cases takes : session.devices.disk path with
        | none => exact .filled granted rfl takes ((fresh_fill _ creating).behind gains)
        | some reason => exact .torn _ granted rfl takes ((fresh_fill _ creating).behind gains)

end Storage

/-- The outcome stays when the fault is put in other words and the path is written down. -/
theorem FreshOutcome.told {granted : Path → Prop} {disk : Path → Option WriteFault}
    {content : Except Defect String} {action : Action Fault Path}
    {restate : Fault → Action Fault Path} {note : Path → Action Fault Unit}
    (restates : ∀ fault reached, ∃ other last,
      (restate fault).perform reached = (.error other, last) ∧ last.tree = reached.tree)
    (notes : ∀ path reached, ∃ last,
      (note path).perform reached = (.ok (), last) ∧ last.tree = reached.tree)
    (comes : FreshOutcome granted disk content session.tree (action.perform session).2.tree
      (action.perform session).1)
    {outcome : Except Fault Path}
    (performed : (do
      let path ← action.onFault restate
      note path
      return path : Action Fault Path).perform session = (outcome, last)) :
    FreshOutcome granted disk content session.tree last.tree outcome := by
  rw [perform_bind, perform_onFault] at performed
  generalize action.perform session = ended at comes performed
  obtain ⟨fault | path, reached⟩ := ended
  · obtain ⟨other, after, restated, sameTree⟩ := restates fault reached
    dsimp only at performed comes
    rw [restated] at performed
    cases performed
    rw [sameTree]
    cases comes with
    | refused _ refuses gains => exact .refused other refuses gains
    | unfilled _ grants isDefect fresh => exact .unfilled other grants isDefect fresh
    | torn _ grants isText refuses fresh => exact .torn other grants isText refuses fresh
  · obtain ⟨after, noted, sameTree⟩ := notes path reached
    dsimp only at performed comes
    rw [perform_bind, noted] at performed
    cases performed
    rw [sameTree]
    exact comes

/-- A path is answered exactly when it is granted, the disk takes it, and there is something to
write. -/
theorem FreshOutcome.granted_iff {granted : Path → Prop} {disk : Path → Option WriteFault}
    {content : Except Defect String} {first later : FileTree} {outcome : Except Fault Path}
    (unique : ∀ path other, granted path → granted other → path = other)
    (comes : FreshOutcome granted disk content first later outcome) (path : Path) :
    outcome = .ok path ↔ granted path ∧ disk path = none ∧ ∃ text, content = .ok text := by
  cases comes with
  | refused fault refuses gains =>
    exact ⟨nofun, fun both => absurd both.1 (refuses path)⟩
  | unfilled fault grants isDefect fresh =>
    rw [isDefect]
    refine ⟨nofun, ?_⟩
    rintro ⟨_, _, text, ⟨⟩⟩
  | torn fault grants isText refuses fresh =>
    refine ⟨nofun, ?_⟩
    rintro ⟨grantsPath, takes, _⟩
    rw [unique _ _ grantsPath grants, refuses] at takes
    cases takes
  | filled grants isText takes fresh =>
    constructor
    · rintro ⟨⟩
      exact ⟨grants, takes, _, isText⟩
    · rintro ⟨grantsPath, _⟩
      rw [unique _ _ grantsPath grants]

/-! ### Schemas -/

theorem tree_noting (session : Session) (record : LogRecord) :
    (session.noting record).tree = session.tree := by
  unfold Session.noting
  split
  · rfl
  · rfl

/-- A diagnostic leaves the files alone. -/
theorem perform_log_tree (level : LogLevel) (logger message : String) (showsFault : Bool)
    (reached : Session) :
    ∃ last, (Action.log level logger message showsFault : Action Fault Unit).perform reached =
      (.ok (), last) ∧ last.tree = reached.tree :=
  ⟨_, perform_log level logger message showsFault reached, tree_noting reached _⟩

/-- **Storing a schema asks for a fresh file with its text.** -/
theorem SchemaStore.freshOutcome_store {place : SchemaStore} {schema : SchemaDefinition}
    {outcome : Except Fault Path}
    (performed : (place.store schema).perform session = (outcome, last)) :
    FreshOutcome (session.tree.Grants place.root openMode "schema-" ("." ++ schema.dialect))
      session.devices.disk (.ok schema.text) session.tree last.tree outcome := by
  have written := Storage.freshOutcome_writeFresh place.root openMode "schema-"
    ("." ++ schema.dialect) (.ok schema.text) session
  refine FreshOutcome.told (fun fault reached => ?_) (fun path reached => ?_) written performed
  · unfold storeFault
    split
    · rw [perform_bind, perform_log]
      exact ⟨_, _, rfl, tree_noting reached _⟩
    · exact ⟨_, _, rfl, rfl⟩
  · exact perform_log_tree _ _ _ _ reached

/-- **A schema that is stored stands in a fresh file.** -/
theorem SchemaStore.store_eq_ok {place : SchemaStore} {schema : SchemaDefinition}
    (performed : (place.store schema).perform session = (.ok path, last)) :
    Fresh path (Text.Utf8.encode schema.text) session.tree last.tree := by
  cases freshOutcome_store performed with
  | filled grants isText takes fresh =>
    cases isText
    exact fresh

/-! ### Documents -/

namespace JobDocument

theorem formlessField?_append (fields others : List (String × Value)) :
    Yaml.formlessField? (fields ++ others) =
      (Yaml.formlessField? fields <|> Yaml.formlessField? others) := by
  induction fields with
  | nil => rfl
  | cons field rest ih =>
    rw [List.cons_append, Yaml.formlessField?, Yaml.formlessField?, ih]
    cases Yaml.formless? field.2 with
    | none => rfl
    | some value => rfl

theorem formlessField?_jobs (jobs : List (String × Job)) :
    Yaml.formlessField? (jobs.map fun (key, job) => (key, job.toValue)) = none := by
  induction jobs with
  | nil => rfl
  | cons entry rest ih => exact ih

/-- **A document has a form**, if its flag is a switch and the way to sign in has one. -/
theorem exists_text (document : JobDocument) {flag : Bool} (isFlag : document.lossFlag = .bool flag)
    (provider : ∀ fields, document.tokenProvider = some fields →
      Yaml.formlessField? fields = none) :
    ∃ text, Yaml.writeFields document.fields = .ok text := by
  have jobs : Yaml.formlessField?
      [("jobs", .object (document.jobs.map fun (key, job) => (key, job.toValue)))] = none := by
    rw [Yaml.formlessField?, Yaml.formless?, formlessField?_jobs]
    rfl
  have formless : Yaml.formlessField? document.fields = none := by
    unfold fields
    rw [formlessField?_append, formlessField?_append, isFlag, jobs]
    cases given : document.tokenProvider with
    | none => rfl
    | some fields =>
      have signing : Yaml.formlessField? [("tokenProvider", .object fields)] = none := by
        rw [Yaml.formlessField?, Yaml.formless?, provider fields given]
        rfl
      dsimp only
      rw [signing]
      rfl
  unfold Yaml.writeFields
  rw [formless]
  exact ⟨_, rfl⟩

end JobDocument

theorem AppCredentials.formlessField?_tokenProvider (credentials : AppCredentials) :
    Yaml.formlessField? credentials.tokenProvider = none := rfl

/-! ### Job files -/

/-- **Generating a job file asks for a fresh file with its document.** -/
theorem JobWriter.freshOutcome_generate {writer : JobWriter} {uri : String}
    {databases : List String} {script : String} {lossFlag : Value} {outcome : Except Fault Path}
    (performed : (writer.generate uri databases script lossFlag).perform session =
      (outcome, last)) :
    FreshOutcome
      (session.tree.Grants writer.directory ownerMode ("delta-" ++ hostLabel uri ++ "-") ".yaml")
      session.devices.disk (Yaml.writeFields (writer.document uri databases script lossFlag).fields)
      session.tree last.tree outcome := by
  have written := Storage.freshOutcome_writeFresh writer.directory ownerMode
    ("delta-" ++ hostLabel uri ++ "-") ".yaml"
    (Yaml.writeFields (writer.document uri databases script lossFlag).fields) session
  exact FreshOutcome.told (fun fault reached => ⟨_, _, rfl, rfl⟩)
    (fun path reached => perform_log_tree _ _ _ _ reached) written performed

/-- What is left of a text that is not written: no file, or a fresh one with the first bytes of the
text, which the disk refuses. -/
def Session.Spares (first : Session) (text : String) (last : Session) : Prop :=
  Gains [] first.tree last.tree ∨ ∃ path reason, first.devices.disk path = some reason ∧
    Fresh path ((Text.Utf8.encode text).take reason.written) first.tree last.tree

theorem Session.Spares.gainsTorn {first : Session} {text : String}
    (spares : first.Spares text last) : GainsTorn first.devices.disk first.tree last.tree := by
  obtain gains | ⟨path, reason, refuses, fresh⟩ := spares
  · exact ⟨[], gains, nofun⟩
  · refine ⟨[path], fresh.gains, fun other member => ?_⟩
    rw [List.mem_singleton.mp member, refuses]
    exact Option.some_ne_none reason

/-- **A job file that is generated is fresh and holds its document.** A job file that is not
generated leaves no file behind, except one that the disk refuses. -/
theorem JobWriter.perform_generate {writer : JobWriter} {uri : String} {databases : List String}
    {script text : String} {lossFlag : Value} {outcome : Except Fault Path}
    (isText : Yaml.writeFields (writer.document uri databases script lossFlag).fields = .ok text)
    (performed : (writer.generate uri databases script lossFlag).perform session =
      (outcome, last)) :
    (∃ fault, outcome = .error fault ∧ session.Spares text last) ∨
      ∃ path, outcome = .ok path ∧
        Fresh path (Text.Utf8.encode text) session.tree last.tree := by
  have comes := freshOutcome_generate performed
  rw [isText] at comes
  cases comes with
  | refused fault _ gains => exact Or.inl ⟨fault, rfl, Or.inl gains⟩
  | unfilled fault _ isDefect => cases isDefect
  | torn fault _ isText refuses fresh =>
    cases isText
    exact Or.inl ⟨fault, rfl, Or.inr ⟨_, _, refuses, fresh⟩⟩
  | filled _ isText _ fresh =>
    cases isText
    exact Or.inr ⟨_, rfl, fresh⟩

end FleetSchema
