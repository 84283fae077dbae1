/-
**Files are only ever added.**

Schemas are stored and job files are generated one after another, in directories of any kind, which
they may share with each other and with whatever is there already.

* `FileCall`: a call that writes a file, and `performAll`: calls one after another;
* `FileCall.freshOutcome`: one call is refused, leaves an empty or a torn file behind or writes its
  file;
* `exists_gains_performAll`, `isThere_of_returned`: over many calls nothing goes, and every path that
  was answered leads to something;
* `FileCall.Adds`, **`performAll_adds`**: what a call does to files, among all others.
-/

import FleetSchema.Proofs.Files.Written

namespace FleetSchema

open FleetSchema.Action FileTree

/-- A call that writes a file. -/
inductive FileCall where
  /-- A schema is stored. -/
  | store (place : SchemaStore) (schema : SchemaDefinition)
  /-- A job file is generated. -/
  | generate (writer : JobWriter) (uri : String) (databases : List String) (script : String)
    (lossFlag : Value)

namespace FileCall

/-- The action of a call. -/
def action : FileCall → Action Fault Path
  | store place schema => place.store schema
  | generate writer uri databases script lossFlag =>
    writer.generate uri databases script lossFlag

/-- What the file of a call is to hold: the text of the schema, or the job document. -/
def content : FileCall → Except Defect String
  | store _ schema => .ok schema.text
  | generate writer uri databases script lossFlag =>
    Yaml.writeFields (writer.document uri databases script lossFlag).fields

/-- The system grants a call its file at a path. -/
def IsGranted (tree : FileTree) : FileCall → Path → Prop
  | store place schema => tree.Grants place.root openMode "schema-" ("." ++ schema.dialect)
  | generate writer uri .. =>
    tree.Grants writer.directory ownerMode ("delta-" ++ JobWriter.hostLabel uri ++ "-") ".yaml"

/-- Calls one after another, whatever they end in. -/
def performAll : List FileCall → Session → List (Except Fault Path) × Session
  | [], session => ([], session)
  | call :: rest, session =>
    let ended := call.action.perform session
    let others := performAll rest ended.2
    (ended.1 :: others.1, others.2)

/-! ### One call -/

/-- Every call asks for a fresh file with its content. -/
theorem freshOutcome (call : FileCall) (session : Session) :
    FreshOutcome (call.IsGranted session.tree) session.devices.disk call.content session.tree
      (call.action.perform session).2.tree (call.action.perform session).1 := by
  cases call with
  | store place schema => exact SchemaStore.freshOutcome_store rfl
  | generate writer uri databases script lossFlag => exact JobWriter.freshOutcome_generate rfl

theorem IsGranted.unique {call : FileCall} {tree : FileTree} {path other : Path}
    (granted : call.IsGranted tree path) (also : call.IsGranted tree other) : path = other := by
  cases call with
  | store place schema => exact FileTree.Grants.unique granted also
  | generate writer uri databases script lossFlag => exact FileTree.Grants.unique granted also

end FileCall

namespace FreshOutcome

variable {granted : Path → Prop} {disk : Path → Option WriteFault}
  {content : Except Defect String} {first last : FileTree} {outcome : Except Fault Path}

/-- Whatever it comes to, nothing that was there goes. -/
theorem exists_gains (comes : FreshOutcome granted disk content first last outcome) :
    ∃ paths, Gains paths first last := by
  cases comes with
  | refused _ _ gains => exact ⟨_, gains⟩
  | unfilled _ _ _ fresh => exact ⟨_, fresh.gains⟩
  | torn _ _ _ _ fresh => exact ⟨_, fresh.gains⟩
  | filled _ _ _ fresh => exact ⟨_, fresh.gains⟩

theorem fresh_of_eq_ok (comes : FreshOutcome granted disk content first last outcome)
    {path : Path} (isOk : outcome = .ok path) :
    ∃ text, content = .ok text ∧ Fresh path (Text.Utf8.encode text) first last := by
  cases comes with
  | refused => cases isOk
  | unfilled => cases isOk
  | torn => cases isOk
  | filled _ isText _ fresh =>
    cases isOk
    exact ⟨_, isText, fresh⟩

end FreshOutcome

/-! ### Many calls -/

namespace FileCall

variable {calls : List FileCall} {session : Session}

theorem performAll_append (earlier later : List FileCall) (session : Session) :
    performAll (earlier ++ later) session =
      ((performAll earlier session).1 ++ (performAll later (performAll earlier session).2).1,
        (performAll later (performAll earlier session).2).2) := by
  induction earlier generalizing session with
  | nil => rfl
  | cons call rest ih =>
    rw [List.cons_append, performAll, ih]
    rfl

/-- Over many calls nothing that was there goes. -/
theorem exists_gains_performAll (calls : List FileCall) (session : Session) :
    ∃ paths, Gains paths session.tree (performAll calls session).2.tree := by
  induction calls generalizing session with
  | nil => exact ⟨[], .refl _⟩
  | cons call rest ih =>
    obtain ⟨paths, gains⟩ := (call.freshOutcome session).exists_gains
    obtain ⟨others, more⟩ := ih (call.action.perform session).2
    exact ⟨paths ++ others, gains.trans more⟩

/-- **A path that was answered leads to something from then on.** -/
theorem isThere_of_returned {path : Path}
    (returned : .ok path ∈ (performAll calls session).1) :
    (performAll calls session).2.tree.isThere path = true := by
  induction calls generalizing session with
  | nil => cases returned
  | cons call rest ih =>
    obtain here | behind := List.mem_cons.mp returned
    · obtain ⟨text, _, fresh⟩ := (call.freshOutcome session).fresh_of_eq_ok here.symm
      obtain ⟨paths, more⟩ := exists_gains_performAll rest (call.action.perform session).2
      exact isThere_of_read (more.read fresh.held)
    · exact ih behind

/-- What a call does to files: everything that was there before stays as it was; the call answers a
path exactly when the system grants it a file there, the disk takes the file, and there is something
to write; and the path that it answers led to nothing and was not answered before. It leads to a new
file with the content, for its owner alone, and still does at the end. -/
structure Adds (call : FileCall) (disk : Path → Option WriteFault)
    (earlier : List (Except Fault Path)) (before after final : FileTree)
    (outcome : Except Fault Path) : Prop where
  places : ∀ place entry, before.find? place = some entry → after.find? place = some entry
  paths : ∀ path entry, before.entryAt? path = some entry → after.entryAt? path = some entry
  succeeds : ∀ path, outcome = .ok path ↔
    call.IsGranted before path ∧ disk path = none ∧ ∃ text, call.content = .ok text
  fresh : ∀ path, outcome = .ok path →
    before.isThere path = false ∧ .ok path ∉ earlier ∧
      ∃ text place, call.content = .ok text ∧ after.locate path = .ok place ∧
        before.find? place = none ∧
        after.find? place = some (.file 0o600 (Text.Utf8.encode text)) ∧
        final.entryAt? path = some (.file 0o600 (Text.Utf8.encode text))

/-- **Stored files are always fresh, and nothing is overwritten**: among any calls over any files,
each one only adds to what is there. -/
theorem performAll_adds (earlier later : List FileCall) (call : FileCall) (session : Session) :
    ∃ (before after : Session) (outcome : Except Fault Path) (outcomes : List (Except Fault Path)),
      performAll earlier session = (outcomes, before) ∧
      call.action.perform before = (outcome, after) ∧
      (performAll (earlier ++ call :: later) session).1 =
        outcomes ++ outcome :: (performAll later after).1 ∧
      call.Adds before.devices.disk outcomes before.tree after.tree
        (performAll (earlier ++ call :: later) session).2.tree outcome := by
  have split := performAll_append earlier (call :: later) session
  refine ⟨_, _, _, _, rfl, rfl, congrArg Prod.fst split, ?_⟩
  generalize ran : performAll earlier session = first at split ⊢
  obtain ⟨outcomes, before⟩ := first
  have comes := call.freshOutcome before
  obtain ⟨paths, gains⟩ := comes.exists_gains
  obtain ⟨others, more⟩ := exists_gains_performAll later (call.action.perform before).2
  refine ⟨gains.kept, fun path entry => gains.entryAt?,
    comes.granted_iff fun _ _ => IsGranted.unique, fun path isOk => ?_⟩
  obtain ⟨text, isText, fresh⟩ := comes.fresh_of_eq_ok isOk
  obtain ⟨place, leads, vacant, found⟩ := fresh.stands
  refine ⟨fresh.absent, fun returned => ?_, text, place, isText, leads, vacant, found, ?_⟩
  · have there : .ok path ∈ (performAll earlier session).1 →
        (performAll earlier session).2.tree.isThere path = true := isThere_of_returned
    rw [ran, fresh.absent] at there
    cases there returned
  · rw [split]
    exact more.entryAt? fresh.entry

-- A schema that is stored twice gets two files.
example :
    (performAll [.store ⟨.ofText "/s", "l"⟩ ⟨"a", "kql"⟩, .store ⟨.ofText "/s", "l"⟩ ⟨"a", "kql"⟩]
      (.start ⟨[], []⟩)).1.map (·.toOption.map Path.toText) =
    [some "/s/schema-00000000.kql", some "/s/schema-00000001.kql"] := by decide +kernel

end FileCall

end FleetSchema
