/-
**The jobs of a document.**

* `freshKey_not_mem`, `nodup_keys`: databases get keys of their own, whatever their names have in
  common once they are made keys of;
* `isKey_of_mem_keysAfter`: all keys start alike and hold plain letters only;
* `jobs_make`: so no job gives way to another one, and a document holds one job for each database;
* `writes_job_each`: what stands in the jobs of a document, as an object.
-/

import FleetSchema.Job.Generator
import Mathlib.Data.List.Forall2
import Mathlib.Data.List.Infix

namespace FleetSchema

namespace Job

/-! ### Keys -/

/-- A fresh key is not taken. -/
theorem freshKey_not_mem (taken : List String) (base : String) : freshKey taken base ∉ taken :=
  candidate_rejections_not_mem taken base 0

theorem keysAfter_disjoint {taken databases : List String} {key : String}
    (member : key ∈ keysAfter taken databases) : key ∉ taken := by
  induction databases generalizing taken with
  | nil => cases member
  | cons database rest ih =>
    unfold keysAfter at member
    obtain rfl | behind := List.mem_cons.mp member
    · exact freshKey_not_mem taken _
    · exact fun held => ih behind (List.mem_cons_of_mem _ held)

theorem nodup_keysAfter (taken databases : List String) : (keysAfter taken databases).Nodup := by
  induction databases generalizing taken with
  | nil => exact List.nodup_nil
  | cons database rest ih =>
    unfold keysAfter
    exact List.nodup_cons.mpr ⟨fun member => keysAfter_disjoint member List.mem_cons_self, ih _⟩

theorem length_keysAfter (taken databases : List String) :
    (keysAfter taken databases).length = databases.length := by
  induction databases generalizing taken with
  | nil => rfl
  | cons database rest ih => exact congrArg (· + 1) (ih _)

/-- **Every database gets a key of its own.** -/
theorem nodup_keys (databases : List String) : (keys databases).Nodup :=
  nodup_keysAfter [] databases

theorem length_keys (databases : List String) : (keys databases).length = databases.length :=
  length_keysAfter [] databases

/-! ### Letters of keys -/

/-- What a key looks like: it has a fixed start and holds letters and digits of ASCII, underscores,
dots and hyphens. -/
structure IsKey (key : String) : Prop where
  start : "push-".toList <+: key.toList
  plain : ∀ letter ∈ key.toList, ('A' ≤ letter ∧ letter ≤ 'Z') ∨ ('a' ≤ letter ∧ letter ≤ 'z') ∨
    ('0' ≤ letter ∧ letter ≤ '9') ∨ letter ∈ ['_', '.', '-']

theorem isKeyLetter_iff {letter : Char} : isKeyLetter letter = true ↔
    ('A' ≤ letter ∧ letter ≤ 'Z') ∨ ('a' ≤ letter ∧ letter ≤ 'z') ∨
      ('0' ≤ letter ∧ letter ≤ '9') ∨ letter ∈ ['_', '.', '-'] := by
  unfold isKeyLetter Char.isAlphanum Char.isAlpha Char.isUpper Char.isLower Char.isDigit
  simp only [Bool.or_eq_true, Bool.and_eq_true, decide_eq_true_eq, beq_iff_eq, List.mem_cons,
    List.not_mem_nil, or_false, or_assoc]
  exact Iff.rfl

theorem isKeyLetter_of_mem_sanitize {inRun : Bool} {letters : List Char} {letter : Char}
    (member : letter ∈ sanitize inRun letters) : isKeyLetter letter = true := by
  fun_induction sanitize inRun letters with
  | case1 => cases member
  | case2 inRun first rest plain ih =>
    obtain rfl | behind := List.mem_cons.mp member
    · exact plain
    · exact ih behind
  | case3 first rest other ih => exact ih member
  | case4 inRun first rest other start ih =>
    obtain rfl | behind := List.mem_cons.mp member
    · rfl
    · exact ih behind

theorem isKey_baseKey (database : String) : IsKey (baseKey database) := by
  unfold baseKey
  constructor
  · rw [String.toList_append]
    exact List.prefix_append _ _
  · intro letter member
    rw [String.toList_append, List.mem_append] at member
    refine isKeyLetter_iff.mp ?_
    obtain start | behind := member
    · have plain : "push-".toList.all isKeyLetter = true := by decide
      exact List.all_eq_true.mp plain letter start
    · rw [String.toList_ofList] at behind
      exact isKeyLetter_of_mem_sanitize behind

/-- A number behind a key makes a key of it again. -/
theorem IsKey.numberedKey {base : String} (isKey : IsKey base) (number : Nat) :
    IsKey (Job.numberedKey base number) := by
  have letters : (Job.numberedKey base number).toList =
      base.toList ++ ('-' :: Nat.toDigits 10 number) := by
    unfold Job.numberedKey
    rw [String.toList_append, String.toList_append, List.append_assoc]
    exact congrArg (base.toList ++ '-' :: ·) Nat.toList_repr
  constructor
  · rw [letters]
    exact isKey.start.trans (List.prefix_append _ _)
  · intro letter member
    rw [letters, List.mem_append, List.mem_cons] at member
    obtain plain | rfl | digit := member
    · exact isKey.plain letter plain
    · decide
    · have isDigit := Nat.isDigit_of_mem_toDigits (by decide) (by decide) digit
      exact isKeyLetter_iff.mp (by simp [isKeyLetter, Char.isAlphanum, isDigit])

/-- Whatever number of keys is tried in vain, the next one is a key. -/
theorem IsKey.candidate {base : String} (isKey : IsKey base) (tried : Nat) :
    IsKey (Job.candidate base tried) := by
  cases tried with
  | zero => exact isKey
  | succ tried => exact isKey.numberedKey _

theorem isKey_freshKey (taken : List String) (database : String) :
    IsKey (freshKey taken (baseKey database)) :=
  (isKey_baseKey database).candidate _

/-- **All keys start alike and hold plain letters only.** -/
theorem isKey_of_mem_keysAfter {taken databases : List String} {key : String}
    (member : key ∈ keysAfter taken databases) : IsKey key := by
  induction databases generalizing taken with
  | nil => cases member
  | cons database rest ih =>
    unfold keysAfter at member
    obtain rfl | behind := List.mem_cons.mp member
    · exact isKey_freshKey taken database
    · exact ih behind

end Job

namespace JobDocument

/-! ### Jobs -/

/-- Jobs under keys of their own all find their place. -/
theorem foldl_put {jobs entries : List (String × Job)}
    (distinct : ((jobs ++ entries).map Prod.fst).Nodup) :
    entries.foldl put jobs = jobs ++ entries := by
  induction entries generalizing jobs with
  | nil => exact (List.append_nil _).symm
  | cons entry rest ih =>
    have fresh : jobs.any (·.1 == entry.1) = false := by
      rw [List.any_eq_false]
      intro other member same
      rw [List.map_append, List.nodup_append] at distinct
      exact distinct.2.2 _ (List.mem_map_of_mem member) _ List.mem_cons_self (beq_iff_eq.mp same)
    have placed : put jobs entry = jobs ++ [entry] := by
      unfold put
      rw [fresh]
      rfl
    rw [List.foldl_cons, placed, ih (by rw [List.append_assoc]; exact distinct), List.append_assoc]
    rfl

/-- **A document holds a job for each database.** -/
theorem jobs_make (tokenProvider : Option (List (String × Value))) (uri : String)
    (databases : List String) (script : String) (lossFlag : Value) :
    (make tokenProvider uri databases script lossFlag).jobs =
      (Job.keys databases).zip (databases.map fun database => ⟨uri, database, script⟩) := by
  refine foldl_put ?_
  rw [List.nil_append, List.map_fst_zip (by rw [Job.length_keys, List.length_map])]
  exact Job.nodup_keys databases

/-- The databases that a document is for, each with the address of its cluster. -/
def pairs (document : JobDocument) : List (String × String) :=
  document.jobs.map fun (_, job) => (job.clusterUri, job.database)

theorem nodup_keys_make (tokenProvider : Option (List (String × Value))) (uri : String)
    (databases : List String) (script : String) (lossFlag : Value) :
    ((make tokenProvider uri databases script lossFlag).jobs.map Prod.fst).Nodup := by
  rw [jobs_make, List.map_fst_zip (by rw [Job.length_keys, List.length_map])]
  exact Job.nodup_keys databases

theorem jobs_make_snd (tokenProvider : Option (List (String × Value))) (uri : String)
    (databases : List String) (script : String) (lossFlag : Value) :
    (make tokenProvider uri databases script lossFlag).jobs.map Prod.snd =
      databases.map fun database => ⟨uri, database, script⟩ := by
  rw [jobs_make, List.map_snd_zip (by rw [Job.length_keys, List.length_map])]

theorem pairs_make (tokenProvider : Option (List (String × Value))) (uri : String)
    (databases : List String) (script : String) (lossFlag : Value) :
    (make tokenProvider uri databases script lossFlag).pairs = databases.map (uri, ·) := by
  have jobs := congrArg (List.map fun job : Job => (job.clusterUri, job.database))
    (jobs_make_snd tokenProvider uri databases script lossFlag)
  rw [List.map_map, List.map_map] at jobs
  exact jobs

/-- Every job of a document brings its database to the one script. -/
theorem script_of_mem_make {tokenProvider : Option (List (String × Value))} {uri : String}
    {databases : List String} {script : String} {lossFlag : Value} {entry : String × Job}
    (member : entry ∈ (make tokenProvider uri databases script lossFlag).jobs) :
    entry.2.script = script := by
  have held := List.mem_map_of_mem (f := Prod.snd) member
  rw [jobs_make_snd] at held
  obtain ⟨database, _, same⟩ := List.mem_map.mp held
  rw [← same]

/-- The jobs of a document stand in a field of their own. -/
theorem field_fields (document : JobDocument) :
    Value.field document.fields "jobs" =
      .object (document.jobs.map fun (key, job) => (key, job.toValue)) := by
  unfold fields
  cases document.tokenProvider with
  | none => rfl
  | some provider => rfl

end JobDocument

/-! ### Jobs as objects -/

/-- The value at the end of a path of fields; nothing stands behind a value without fields. -/
def Value.fieldAt (value : Value) : List String → Value
  | [] => value
  | name :: rest =>
    match value with
    | .object fields => (Value.field fields name).fieldAt rest
    | _ => .null

/-- A job as an object: it is for one database of a cluster, has one script and pushes it. -/
structure Job.IsJobFor (uri database script : String) (job : Value) : Prop where
  uri : job.fieldAt ["current", "adxDatabase", "clusterUri"] = .text uri
  database : job.fieldAt ["current", "adxDatabase", "database"] = .text database
  scripts : job.fieldAt ["target", "scripts"] = .list [.object [("filePath", .text script)]]
  pushes : job.fieldAt ["action", "pushToCurrent"] = .bool true

theorem Job.isJobFor_toValue (job : Job) :
    IsJobFor job.clusterUri job.database job.script job.toValue := ⟨rfl, rfl, rfl, rfl⟩

/-- Jobs beside their databases, under keys of some sort. -/
theorem Job.forall₂_zip {keys databases : List String} {uri script : String}
    (each : keys.length = databases.length) (isKey : ∀ key ∈ keys, IsKey key) :
    List.Forall₂ (fun database entry => IsKey entry.1 ∧ IsJobFor uri database script entry.2)
      databases (((keys.zip (databases.map fun database => ⟨uri, database, script⟩)).map
        fun (key, job) => (key, Job.toValue job))) := by
  induction databases generalizing keys with
  | nil =>
    rw [List.eq_nil_of_length_eq_zero each]
    exact .nil
  | cons database rest ih =>
    obtain _ | ⟨key, others⟩ := keys
    · cases each
    · rw [List.forall_mem_cons] at isKey
      exact .cons ⟨isKey.1, isJobFor_toValue ⟨uri, database, script⟩⟩
        (ih (Nat.succ.inj each) isKey.2)

/-- **A document has a job for each database.** In the order of the databases, each has a job of its
own under a key of its own, whatever the names are: the job is for that database of the cluster,
with the schema file as its only script, and no key stands for two jobs. -/
theorem JobWriter.writes_job_each (writer : JobWriter) (uri : String) (databases : List String)
    (schemaFile : Path) (lossFlag : Value) :
    ∃ entries,
      Value.field (writer.document uri databases schemaFile.toText lossFlag).fields "jobs" =
        .object entries ∧
      entries.length = databases.length ∧ (entries.map Prod.fst).Nodup ∧
      List.Forall₂ (fun database entry => Job.IsKey entry.1 ∧
        Job.IsJobFor uri database schemaFile.toText entry.2) databases entries := by
  have all : List.Forall₂ (fun database (entry : String × Value) => Job.IsKey entry.1 ∧
      Job.IsJobFor uri database schemaFile.toText entry.2) databases _ :=
    Job.forall₂_zip (Job.length_keys databases) fun _ => Job.isKey_of_mem_keysAfter
  refine ⟨_, JobDocument.field_fields _, ?_, ?_, ?_⟩
  · unfold document
    rw [JobDocument.jobs_make]
    exact all.length_eq.symm
  · rw [List.map_map]
    exact JobDocument.nodup_keys_make _ _ _ _ _
  · unfold document
    rw [JobDocument.jobs_make]
    exact all

end FleetSchema
