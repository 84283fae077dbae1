/-
**The name of a cluster in the name of its job file.**

A job file is named after its cluster and stands in the directory of the writer. The name in the file
is what stands between the scheme of the address and the first dot. The short name of the cluster
also ends at the first slash. The two differ when a path stands behind a host without a dot, and
then the slash in the file name leads out of the directory.

* `name_eq_ok_iff`: the short name of the cluster at an address;
* `hostLabel_cases`: the name in the job file is the short name, or a slash follows in it;
* `JobWriter.generate_eq_ok`: a job file is created at the path of a number;
* `files_by_name_unless_path`: job files are named after their clusters and stand in the directory,
  exactly for all addresses without such a path.
-/

import FleetSchema.Cluster.Uri
import FleetSchema.Proofs.Files.Vacant
import FleetSchema.Proofs.Files.Written
import FleetSchema.Proofs.Rollout.Filing
import Mathlib.Data.List.TakeWhile

namespace FleetSchema

open FleetSchema.Action FileTree

/-! ### The first label of a host -/

namespace ClusterUri

theorem startsAs_iff (start text : String) :
    startsAs start text = true ↔ ∃ rest, text.toList = start.toList ++ rest := by
  unfold startsAs
  rw [List.isPrefixOf_iff_prefix]
  exact ⟨fun ⟨rest, whole⟩ => ⟨rest, whole.symm⟩, fun ⟨rest, whole⟩ => ⟨rest, whole.symm⟩⟩

theorem name_eq_ok_iff {uri name : String} : ClusterUri.name uri = .ok name ↔
    ∃ rest, uri.toList = scheme.toList ++ rest ∧ firstLabel rest ≠ [] ∧
      name = String.ofList (firstLabel rest) := by
  have label (rest : List Char) (whole : uri.toList = scheme.toList ++ rest) :
      labelOf uri = firstLabel rest := by
    unfold labelOf
    rw [whole, ← String.length_toList, List.drop_left]
  unfold ClusterUri.name
  constructor
  · intro named
    split at named
    · rename_i starts
      obtain ⟨rest, whole⟩ := (startsAs_iff _ _).mp starts
      rw [label rest whole] at named
      split at named
      · cases named
      · rename_i given
        cases named
        exact ⟨rest, whole, fun empty => given (List.isEmpty_iff.mpr empty), rfl⟩
    · cases named
  · rintro ⟨rest, whole, given, rfl⟩
    rw [if_pos ((startsAs_iff _ _).mpr ⟨rest, whole⟩), label rest whole,
      if_neg (by rwa [List.isEmpty_iff])]

/-- The first label is what stands in front of the first slash in front of the first dot. -/
theorem firstLabel_eq (letters : List Char) :
    firstLabel letters = (letters.takeWhile (· != '.')).takeWhile (· != '/') := by
  unfold firstLabel
  rw [List.takeWhile_takeWhile, List.takeWhile_takeWhile]
  refine congrArg (fun inside => letters.takeWhile inside) (funext fun letter => ?_)
  exact decide_eq_decide.mpr and_comm

end ClusterUri

namespace JobWriter

open ClusterUri

variable {uri name : String}

/-- The first mark between a scheme and a host in an address is the one of its scheme. -/
theorem behindScheme_scheme (rest : List Char) : behindScheme (scheme.toList ++ rest) = rest := rfl

/-- The characters in front of the first dot are those of the first label, unless a slash follows
there. -/
theorem takeWhile_dot_cases (letters : List Char) :
    (letters.takeWhile (· != '.') = firstLabel letters ∧
        ∀ path, letters ≠ firstLabel letters ++ '/' :: path) ∨
      ∃ inner path, letters.takeWhile (· != '.') = firstLabel letters ++ '/' :: inner ∧
        letters = firstLabel letters ++ '/' :: path := by
  have whole := List.takeWhile_append_dropWhile (p := (· != '.')) (l := letters)
  have dotless : '.' ∉ letters.takeWhile (· != '.') := fun inside => by
    cases List.mem_takeWhile_imp inside
  have split := List.takeWhile_append_dropWhile (p := (· != '/'))
    (l := letters.takeWhile (· != '.'))
  rw [← firstLabel_eq] at split
  cases behind : (letters.takeWhile (· != '.')).dropWhile (· != '/') with
  | nil =>
    rw [behind, List.append_nil] at split
    refine Or.inl ⟨split.symm, fun path same => ?_⟩
    have cut : letters.takeWhile (· != '.') =
        firstLabel letters ++ ('/' :: path).takeWhile (· != '.') := by
      conv_lhs => rw [same]
      refine List.takeWhile_append_of_pos fun letter member => ?_
      rw [bne_iff_ne]
      rintro rfl
      rw [split] at member
      exact dotless member
    rw [← split, List.takeWhile_cons_of_pos (by decide)] at cut
    exact absurd (List.append_right_eq_self.mp cut.symm) (List.cons_ne_nil _ _)
  | cons slash inner =>
    obtain rfl : slash = '/' := by
      have outside := List.head?_dropWhile_not (· != '/') (letters.takeWhile (· != '.'))
      rw [behind] at outside
      simpa using outside
    rw [behind] at split
    refine Or.inr ⟨inner, inner ++ letters.dropWhile (· != '.'), split.symm, ?_⟩
    rw [← split, List.append_assoc] at whole
    exact whole.symm

/-- **The name in a job file** is the short name of the cluster, or a slash follows in it. -/
theorem hostLabel_cases (named : ClusterUri.name uri = .ok name) :
    '/' ∉ name.toList ∧
      ((hostLabel uri = name ∧ ∀ path, uri ≠ scheme ++ name ++ "/" ++ path) ∨
        ∃ inner path, hostLabel uri = name ++ "/" ++ inner ∧
          uri = scheme ++ name ++ "/" ++ path) := by
  obtain ⟨rest, whole, given, rfl⟩ := name_eq_ok_iff.mp named
  have isLabel : hostLabel uri = String.ofList (rest.takeWhile (· != '.')) := by
    unfold hostLabel
    rw [whole, behindScheme_scheme]
    refine if_neg fun empty => given ?_
    rw [firstLabel_eq, List.isEmpty_iff.mp empty]
    rfl
  refine ⟨?_, ?_⟩
  · rw [String.toList_ofList, firstLabel_eq]
    intro inside
    cases List.mem_takeWhile_imp inside
  obtain ⟨same, pathless⟩ | ⟨inner, path, label, split⟩ := takeWhile_dot_cases rest
  · refine Or.inl ⟨isLabel.trans (congrArg String.ofList same), fun path isPath => ?_⟩
    refine pathless path.toList ?_
    rw [isPath] at whole
    simp only [String.toList_append, String.toList_ofList, List.append_assoc] at whole
    exact (List.append_cancel_left whole).symm
  · refine Or.inr ⟨String.ofList inner, String.ofList path, ?_, ?_⟩
    · rw [isLabel, label, ← String.toList_inj]
      simp only [String.toList_append, String.toList_ofList, List.append_assoc]
      rfl
    · rw [← String.toList_inj, whole]
      simp only [String.toList_append, String.toList_ofList, List.append_assoc]
      exact congrArg (scheme.toList ++ ·) split

/-- The name in a job file is the short name of the cluster unless a path stands behind it. -/
theorem hostLabel_eq_iff (named : ClusterUri.name uri = .ok name) :
    hostLabel uri = name ↔ ∀ path, uri ≠ scheme ++ name ++ "/" ++ path := by
  obtain ⟨_, ⟨same, pathless⟩ | ⟨inner, path, label, split⟩⟩ := hostLabel_cases named
  · exact ⟨fun _ => pathless, fun _ => same⟩
  · refine ⟨fun same => ?_, fun pathless => absurd split (pathless path)⟩
    have letters := congrArg String.toList (label.symm.trans same)
    simp only [String.toList_append, List.append_assoc] at letters
    exact absurd (List.append_right_eq_self.mp letters) (List.cons_ne_nil _ _)

end JobWriter

/-! ### Files that are created -/

variable {session last : Session} {path directory : Path} {tree made : FileTree}
  {start ending : String} {mode : Nat}

/-- A file that is written has been created in a directory that was made. -/
theorem Storage.writeFresh_eq_ok {content : Except Defect String}
    (making : session.tree.makeDirectories directory mode = .ok made)
    (performed : (writeFresh directory mode start ending content).perform session =
      (.ok path, last)) :
    ∃ created, made.createFresh directory start ending = .ok (path, created) := by
  unfold writeFresh at performed
  obtain ⟨_, reached, makes, performed⟩ := perform_bind_eq_ok performed
  obtain ⟨file, middle, creates, performed⟩ := perform_bind_eq_ok performed
  obtain ⟨text, later, _, performed⟩ := perform_bind_eq_ok performed
  obtain ⟨_, _, _, performed⟩ := perform_bind_eq_ok performed
  cases performed
  have cleanDirectory : '\x00' ∉ directory.toText.toList := by
    intro ends
    rw [perform_makeDirectories_of_mem ends] at makes
    cases makes
  rw [perform_makeDirectories cleanDirectory, making] at makes
  cases makes
  have clean : '\x00' ∉ (directory.toText ++ start ++ ending).toList := by
    intro ends
    rw [perform_createFresh_of_mem ends] at creates
    cases creates
  rw [perform_createFresh clean] at creates
  dsimp only at creates
  cases created : made.createFresh directory start ending with
  | error refused =>
    rw [created] at creates
    cases creates
  | ok file =>
    rw [created] at creates
    cases creates
    exact ⟨_, rfl⟩

/-- A job file that is generated has been created in the directory of the writer. -/
theorem JobWriter.generate_eq_ok {writer : JobWriter} {uri script : String}
    {databases : List String} {lossFlag : Value}
    (making : session.tree.makeDirectories writer.directory ownerMode = .ok made)
    (performed : (writer.generate uri databases script lossFlag).perform session =
      (.ok path, last)) :
    ∃ created, made.createFresh writer.directory ("delta-" ++ hostLabel uri ++ "-") ".yaml" =
      .ok (path, created) := by
  unfold generate at performed
  obtain ⟨file, middle, wrote, performed⟩ := perform_bind_eq_ok performed
  obtain ⟨_, _, _, performed⟩ := perform_bind_eq_ok performed
  cases performed
  have written := perform_onFault_eq_ok (fun fault reached => by rintro ⟨⟩) wrote
  exact Storage.writeFresh_eq_ok making written

/-! ### Job files of a cluster -/

namespace JobWriter

open ClusterUri

variable {writer : JobWriter} {uri name : String} {databases : List String} {script : String}

/-- The directory of a writer takes job files of a name: it can be made and has room for them, the
disk refuses none of them, and what is written into them has a form. -/
structure TakesFiles (writer : JobWriter) (session : Session) (name : String) : Prop where
  form : writer.HasForm
  clean : '\x00' ∉ (writer.directory.toText ++ name).toList
  makes : ∃ made, session.tree.makeDirectories writer.directory ownerMode = .ok made ∧
    made.HasRoom writer.directory ("delta-" ++ name ++ "-") ".yaml"
  fits : ∀ number, session.devices.disk
    (session.tree.freshPath writer.directory ("delta-" ++ name ++ "-") ".yaml" number) = none

/-- The name of a job file is one part when the label in it has no slash. -/
theorem names_of_label (free : '/' ∉ name.toList) :
    Names ("delta-" ++ name ++ "-") ".yaml" where
  given := by
    rw [String.toList_append, String.toList_append]
    rfl
  start := by
    rw [String.toList_append, String.toList_append, List.mem_append, List.mem_append]
    rintro ((front | inside) | behind)
    · exact absurd front (by decide)
    · exact free inside
    · exact absurd behind (by decide)
  ending := by decide

/-- A file can be created in a directory that takes job files of a name. -/
theorem TakesFiles.creates (takes : writer.TakesFiles session name)
    (free : '/' ∉ name.toList) (normal : writer.directory.IsNormal)
    (home : session.tree.HomeStands) :
    ∃ made number created,
      session.tree.makeDirectories writer.directory ownerMode = .ok made ∧
      made.createFresh writer.directory ("delta-" ++ name ++ "-") ".yaml" =
        .ok (session.tree.freshPath writer.directory ("delta-" ++ name ++ "-") ".yaml" number,
          created) ∧
      session.tree.Grants writer.directory ownerMode ("delta-" ++ name ++ "-") ".yaml"
        (session.tree.freshPath writer.directory ("delta-" ++ name ++ "-") ".yaml" number) := by
  obtain ⟨made, making, room⟩ := takes.makes
  have gains := gains_makeDirectories making
  obtain ⟨number, creating⟩ := createFresh_of_stands (names_of_label free) (gains.homeStands home)
    normal (isDirectory_of_makeDirectories making) room
  have samePath : made.freshPath writer.directory ("delta-" ++ name ++ "-") ".yaml" number =
      session.tree.freshPath writer.directory ("delta-" ++ name ++ "-") ".yaml" number := by
    unfold freshPath
    rw [gains.settled]
  rw [samePath] at creating
  refine ⟨made, number, _, making, creating, ?_, made, _, making, creating⟩
  have clean := takes.clean
  simp only [String.toList_append, List.mem_append, not_or] at clean ⊢
  exact ⟨⟨clean.1, ⟨by decide, clean.2⟩, by decide⟩, by decide⟩

/-- **A job file is generated in the directory of the writer** when the label in its name has no
slash. -/
theorem TakesFiles.perform_generate (takes : writer.TakesFiles session name)
    (label : hostLabel uri = name) (free : '/' ∉ name.toList)
    (normal : writer.directory.IsNormal) (home : session.tree.HomeStands)
    (databases : List String) (script : String) (flag : Bool) :
    ∃ number text last,
      (writer.generate uri databases script (.bool flag)).perform session =
        (.ok (session.tree.freshPath writer.directory ("delta-" ++ name ++ "-") ".yaml" number),
          last) ∧
      Yaml.writeFields (writer.document uri databases script (.bool flag)).fields = .ok text ∧
      Fresh (session.tree.freshPath writer.directory ("delta-" ++ name ++ "-") ".yaml" number)
        (Text.Utf8.encode text) session.tree last.tree := by
  obtain ⟨made, number, created, making, creating, granted⟩ := takes.creates free normal home
  obtain ⟨text, isText⟩ :=
    (writer.document uri databases script (.bool flag)).exists_text rfl takes.form
  rcases performed : (writer.generate uri databases script (.bool flag)).perform session with
    ⟨outcome, last⟩
  have answers := (freshOutcome_generate performed).granted_iff fun _ _ => FileTree.Grants.unique
  rw [label] at answers
  obtain rfl := (answers _).mpr ⟨granted, takes.fits number, text, isText⟩
  obtain ⟨_, isError, _⟩ | ⟨_, isPath, fresh⟩ := JobWriter.perform_generate isText performed
  · cases isError
  · cases isPath
    exact ⟨number, text, last, rfl, isText, fresh⟩

/-- **A job file with a slash in its label is not in the directory of the writer.** It is further
below, in a directory that stood there before. -/
theorem path_of_slash {inner : String} {lossFlag : Value} (free : '/' ∉ name.toList)
    (label : hostLabel uri = name ++ "/" ++ inner) (normal : writer.directory.IsNormal)
    (home : session.tree.HomeStands)
    (performed : (writer.generate uri databases script lossFlag).perform session =
      (.ok path, last)) :
    ∃ made below mode,
      session.tree.makeDirectories writer.directory ownerMode = .ok made ∧ below ≠ [] ∧
      path.parts = (session.tree.settled writer.directory).parts ++ ("delta-" ++ name) :: below ∧
      made.find? ((session.tree.settled writer.directory).parts ++ ["delta-" ++ name]) =
        some (.directory mode) := by
  obtain ⟨made, making⟩ : ∃ made,
      session.tree.makeDirectories writer.directory ownerMode = .ok made := by
    cases freshOutcome_generate performed with
    | filled grants => exact ⟨_, grants.2.choose_spec.choose_spec.1⟩
  have gains := gains_makeDirectories making
  obtain ⟨created, creating⟩ := generate_eq_ok making performed
  have outerFree : '/' ∉ ("delta-" ++ name).toList := by
    rw [String.toList_append, List.mem_append, not_or]
    exact ⟨by decide, free⟩
  have given : "delta-" ++ name ≠ "" ∧ "delta-" ++ name ≠ "." ∧ "delta-" ++ name ≠ ".." := by
    refine ⟨?_, ?_, ?_⟩
    all_goals
      intro same
      have front := congrArg (fun text => text.toList.head?) same
      rw [String.toList_append] at front
      cases front
  have dash : '-' ∈ (inner ++ "-").toList := by
    rw [String.toList_append]
    exact List.mem_append_right _ (by decide)
  have start : "delta-" ++ (name ++ "/" ++ inner) ++ "-" =
      "delta-" ++ name ++ "/" ++ (inner ++ "-") := by
    simp only [String.append_assoc]
  rw [label, start] at creating
  obtain ⟨below, mode, goesOn, parts, stands⟩ := below_of_createFresh given outerFree dash
    ⟨by decide, by decide⟩ (gains.homeStands home) normal creating
  rw [gains.settled] at parts stands
  exact ⟨made, below, mode, making, goesOn, parts, stands⟩

/-- **A job file is named after its cluster unless a path stands behind the short name at once.** For
every other address the label in the file name is the short name, and a writer whose directory takes
files of this name generates one: it is new, it stands in the directory itself, and it holds the
document. With such a path the label has a slash. No file is generated then unless a directory
stands in the one of the writer that is named after the cluster, and then the file is below that
one. -/
theorem files_by_name_unless_path (uri name : String)
    (named : ClusterUri.name (normalize uri) = .ok name) :
    (hostLabel (normalize uri) = name ↔ ∀ path, normalize uri ≠ scheme ++ name ++ "/" ++ path) ∧
    ∀ (writer : JobWriter) (databases : List String) (script : String) (session : Session),
      writer.directory.IsNormal → session.tree.HomeStands →
        ((∀ path, normalize uri ≠ scheme ++ name ++ "/" ++ path) →
          writer.TakesFiles session name → ∀ flag, ∃ path number text last,
            (writer.generate (normalize uri) databases script (.bool flag)).perform session =
              (.ok path, last) ∧
            path.parent = session.tree.settled writer.directory ∧
            path.name = "delta-" ++ name ++ "-" ++ numbered number ++ ".yaml" ∧
            Yaml.writeFields (writer.document (normalize uri) databases script (.bool flag)).fields =
              .ok text ∧
            Fresh path (Text.Utf8.encode text) session.tree last.tree) ∧
        ∀ rest, normalize uri = scheme ++ name ++ "/" ++ rest → ∀ lossFlag path last,
          (writer.generate (normalize uri) databases script lossFlag).perform session =
            (.ok path, last) →
          path.parent ≠ session.tree.settled writer.directory ∧ ∃ made below mode,
            session.tree.makeDirectories writer.directory ownerMode = .ok made ∧ below ≠ [] ∧
            path.parts =
              (session.tree.settled writer.directory).parts ++ ("delta-" ++ name) :: below ∧
            made.find? ((session.tree.settled writer.directory).parts ++ ["delta-" ++ name]) =
              some (.directory mode) := by
  obtain ⟨free, cases⟩ := hostLabel_cases named
  refine ⟨hostLabel_eq_iff named, fun writer databases script session normal home => ⟨?_, ?_⟩⟩
  · intro pathless takes flag
    have label := (hostLabel_eq_iff named).mpr pathless
    obtain ⟨number, text, last, performed, isText, fresh⟩ :=
      takes.perform_generate label free normal home databases script flag
    refine ⟨_, number, text, last, performed, ?_, ?_, isText, fresh⟩
    · unfold Path.parent freshPath
      dsimp only
      rw [List.dropLast_concat]
    · unfold Path.name freshPath
      rw [List.getLast?_concat]
      rfl
  · intro rest split lossFlag path last performed
    obtain ⟨_, pathless⟩ | ⟨inner, _, label, _⟩ := cases
    · exact absurd split (pathless rest)
    obtain ⟨made, below, mode, making, goesOn, parts, stands⟩ :=
      path_of_slash free label normal home performed
    refine ⟨fun direct => ?_, made, below, mode, making, goesOn, parts, stands⟩
    have above := congrArg Path.parts direct
    unfold Path.parent at above
    rw [parts, List.dropLast_append_of_ne_nil (List.cons_ne_nil _ _),
      List.append_right_eq_self] at above
    cases below with
    | nil => exact goesOn rfl
    | cons next others => cases above

/-- An address with a dot in its host, a slash at its end and a query. -/
theorem files_by_name_unless_path_query :
    let uri := "https://fabrikam.kusto.windows.net/?tenant=t"
    let writer : JobWriter := ⟨.ofText "jobs", none, defaultLogger⟩
    let session := Session.start ⟨["work"], [(["work"], .directory openMode)]⟩
    ∃ path last,
      (writer.generate (normalize uri) ["sales"] "s.kql" (.bool false)).perform session =
        (.ok path, last) ∧ path.parent = ⟨"/", ["work", "jobs"]⟩ := by
  intro uri writer session
  have named : ClusterUri.name (normalize uri) = .ok "fabrikam" :=
    eq_ok_of_toOption (by decide +kernel)
  have home : session.tree.HomeStands :=
    ⟨⟨Or.inr (Or.inl rfl), List.forall_mem_singleton.mpr (by decide +kernel)⟩, by decide +kernel, rfl⟩
  have takes : writer.TakesFiles session "fabrikam" := by
    refine ⟨?_, by decide +kernel, ⟨⟨["work"], [(["work"], .directory openMode),
      (["work", "jobs"], .directory ownerMode)]⟩, rfl, ?_⟩, fun number => rfl⟩
    · rintro fields ⟨⟩
    · unfold HasRoom
      decide +kernel
  obtain ⟨same, files⟩ := files_by_name_unless_path uri "fabrikam" named
  obtain ⟨path, _, _, last, performed, parent, _⟩ := (files writer ["sales"] "s.kql" session
    (Path.isNormal_ofText _) home).1 (same.mp (by decide +kernel)) takes false
  exact ⟨path, last, performed, parent.trans (by decide +kernel)⟩

/-- A path behind a host without a dot. The label in the file name goes on behind the short name with
a slash, and the file is not created. -/
theorem files_not_below_missing :
    let uri := "https://contoso/x"
    let writer : JobWriter := ⟨.ofText "jobs", none, defaultLogger⟩
    let session := Session.start ⟨["work"], [(["work"], .directory openMode)]⟩
    (ClusterUri.name (normalize uri)).toOption = some "contoso" ∧
      hostLabel (normalize uri) = "contoso/x" ∧
      ((writer.generate (normalize uri) ["sales"] "s.kql" (.bool false)).perform session).1.mapError
        Fault.kind? = .error (some .build) := by
  decide +kernel

end JobWriter

end FleetSchema
