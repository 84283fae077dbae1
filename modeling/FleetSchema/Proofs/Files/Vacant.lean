/-
**Where fresh files go.**

A fresh file goes into a directory under the first number that is free. Where the directory stands,
one of the numbers is free as long as the names are not too long.

* `partsIn_freshText`, `Names.ofText_freshText`: the path of a numbered file is the path of the
  directory, written out, with the name of the file as one more part, unless a slash is in the name;
* `exists_vacant`: one of the numbers is free;
* `createFresh_of_stands`: in a directory that stands a fresh file is created;
* `below_of_createFresh`: it is further below if there is a slash in its name.
-/

import FleetSchema.Proofs.Files.Standing
import FleetSchema.Proofs.Numbers

namespace FleetSchema.FileTree

variable {tree last : FileTree} {path directory : Path} {start ending : String}

/-! ### Numbered files -/

/-- The name of a numbered file. -/
def freshName (start ending : String) (number : Nat) : String := start ++ numbered number ++ ending

/-- The path of a numbered file in a directory, written out from the root. -/
def freshPath (tree : FileTree) (directory : Path) (start ending : String) (number : Nat) : Path :=
  { tree.settled directory with
    parts := (tree.settled directory).parts ++ [freshName start ending number] }

theorem freshName_injective (start ending : String) :
    Function.Injective (freshName start ending) := by
  intro first second same
  unfold freshName at same
  exact numbered_injective ((String.append_right_inj _).mp ((String.append_left_inj _).mp same))

theorem endsWith_iff (text ending : String) :
    text.endsWith ending = true ↔ ending.toList <:+ text.toList := by
  have slice := @String.Slice.endsWith_string_iff ending text.toSlice
  rwa [String.copy_toSlice] at slice

/-- The text of the path of a numbered file is that of the directory, a slash and the name. The path
of the root has the slash already. -/
theorem toList_freshText (tree : FileTree) (directory : Path) (start ending : String)
    (number : Nat) :
    ∃ folder, (tree.freshText directory start ending number).toList =
        folder ++ '/' :: (freshName start ending number).toList ∧
      ((tree.settled directory).toText.toList = folder ∧
          (tree.settled directory).toText.endsWith "/" = false ∨
        (tree.settled directory).toText.toList = folder ++ ['/']) := by
  unfold freshText freshName
  dsimp only
  by_cases ends : (tree.settled directory).toText.endsWith "/" = true
  · rw [if_pos ends]
    obtain ⟨folder, whole⟩ := (endsWith_iff _ _).mp ends
    refine ⟨folder, ?_, Or.inr whole.symm⟩
    simp only [String.toList_append, ← whole, List.append_assoc]
    rfl
  · rw [if_neg ends]
    refine ⟨_, ?_, Or.inl ⟨rfl, Bool.not_eq_true _ ▸ ends⟩⟩
    simp only [String.toList_append, List.append_assoc]
    rfl

/-! ### The paths of numbered files -/

/-- **The parts of the path of a numbered file** are those of the directory and those in its name. -/
theorem partsIn_freshText (home : tree.HomeStands) (normal : directory.IsNormal)
    (start ending : String) (number : Nat) :
    Path.partsIn (tree.freshText directory start ending number).toList =
      (tree.settled directory).parts ++ Path.partsIn (freshName start ending number).toList := by
  have back := congrArg Path.parts (Path.ofText_toText (isNormal_settled home normal).1)
  rw [Path.ofText_eq] at back
  dsimp only at back
  obtain ⟨folder, whole, ⟨same, _⟩ | ended⟩ := tree.toList_freshText directory start ending number
  · rw [whole, Path.partsIn_append_slash, ← same, back]
  · rw [ended, Path.partsIn_append_slash] at back
    have none : Path.partsIn [] = [] := rfl
    rw [none, List.append_nil] at back
    rw [whole, Path.partsIn_append_slash, back]

theorem any_head?_append {test : Char → Bool} {text : String}
    (front : text.toList.head?.any test = true) (behind : String) :
    (text ++ behind).toList.head?.any test = true := by
  cases letters : text.toList with
  | nil =>
    rw [letters] at front
    cases front
  | cons letter rest =>
    rw [letters] at front
    rw [String.toList_append, letters]
    exact front

/-- A name starts with the character that stands in front of the number. -/
theorem any_head?_freshName {test : Char → Bool} (front : start.toList.head?.any test = true)
    (ending : String) (number : Nat) :
    (freshName start ending number).toList.head?.any test = true :=
  any_head?_append (any_head?_append front _) ending

theorem any_head?_of_not_mem {text : String} {letter : Char} (given : text ≠ "")
    (free : letter ∉ text.toList) : text.toList.head?.any (· != letter) = true := by
  cases letters : text.toList with
  | nil => exact absurd (String.toList_eq_nil_iff.mp letters) given
  | cons first rest =>
    rw [letters, List.mem_cons, not_or] at free
    exact bne_iff_ne.mpr (Ne.symm free.1)

/-- The slashes that the path of a numbered file starts with are those of the directory. -/
theorem rootOf_freshText (front : start.toList.head?.any (· != '/') = true)
    (home : tree.HomeStands) (normal : directory.IsNormal) (ending : String) (number : Nat) :
    Path.rootOf (tree.freshText directory start ending number) = (tree.settled directory).root := by
  obtain ⟨isNormal, rooted⟩ := isNormal_settled home normal
  have noSlash := Path.head_intercalate isNormal.parts
  have nameFront := any_head?_freshName front ending number
  obtain ⟨folder, whole, folderIs⟩ := tree.toList_freshText directory start ending number
  generalize tree.settled directory = settled at *
  obtain ⟨root, parts⟩ := settled
  dsimp only at *
  have text : Path.toText ⟨root, parts⟩ = root ++ "/".intercalate parts := by
    refine if_neg fun dot => rooted ?_
    rw [Bool.and_eq_true, String.isEmpty_iff] at dot
    exact dot.1
  rw [text, String.toList_append] at folderIs
  -- what follows the slashes starts with the first part, or with the name when there is none
  suffices inner : ∃ inner : List Char, inner.head? ≠ some '/' ∧
      (tree.freshText directory start ending number).toList = root.toList ++ inner by
    obtain ⟨inner, noSlash, split⟩ := inner
    have whole : tree.freshText directory start ending number = root ++ String.ofList inner := by
      rw [← String.toList_inj, split, String.toList_append, String.toList_ofList]
    rw [whole]
    exact Path.rootOf_append isNormal.root (by rwa [String.toList_ofList])
  rw [whole]
  cases letters : ("/".intercalate parts).toList with
  | nil =>
    rw [letters, List.append_nil] at folderIs
    rcases folderIs with ⟨-, unended⟩ | split
    · rw [String.toList_eq_nil_iff.mp letters] at unended
      rcases isNormal.root with rfl | rfl | rfl
      · exact absurd rfl rooted
      · exact absurd unended (by decide +kernel)
      · exact absurd unended (by decide +kernel)
    · refine ⟨(freshName start ending number).toList, fun slash => ?_, ?_⟩
      · rw [slash] at nameFront
        cases nameFront
      · rw [split, List.append_assoc]
        rfl
  | cons letter rest =>
    rw [letters] at noSlash folderIs
    rcases folderIs with ⟨rfl, -⟩ | split
    · exact ⟨letter :: rest ++ '/' :: (freshName start ending number).toList, noSlash,
        List.append_assoc _ _ _⟩
    · refine ⟨letter :: rest ++ (freshName start ending number).toList, noSlash, ?_⟩
      rw [← List.append_assoc, split, List.append_assoc]
      rfl

/-! ### Names without a slash -/

/-- What a name starts with tells that it is neither empty nor made of dots. -/
theorem freshName_ne (given : start.toList.head?.any (· != '.') = true) (ending : String)
    (number : Nat) : freshName start ending number ≠ "" ∧ freshName start ending number ≠ "." ∧
      freshName start ending number ≠ ".." := by
  have front := any_head?_freshName given ending number
  refine ⟨?_, ?_, ?_⟩
  all_goals
    intro same
    rw [same] at front
    cases front

/-- A numbered file is named by one part, when what stands around the number has no slash. -/
structure Names (start ending : String) : Prop where
  given : start.toList.head?.any (· != '.') = true
  start : '/' ∉ start.toList
  ending : '/' ∉ ending.toList

theorem Names.slash_not_mem (names : Names start ending) (number : Nat) :
    '/' ∉ (freshName start ending number).toList := by
  unfold freshName
  rw [String.toList_append, String.toList_append, List.mem_append, List.mem_append]
  rintro ((inStart | inNumber) | inEnding)
  · exact names.start inStart
  · exact slash_not_mem_numbered number inNumber
  · exact names.ending inEnding

theorem Names.partsIn (names : Names start ending) (number : Nat) :
    Path.partsIn (freshName start ending number).toList = [freshName start ending number] :=
  Path.partsIn_of_name (freshName_ne names.given ending number).1
    (freshName_ne names.given ending number).2.1 (names.slash_not_mem number)

theorem Names.front (names : Names start ending) : start.toList.head?.any (· != '/') = true := by
  refine any_head?_of_not_mem (fun empty => ?_) names.start
  have given := names.given
  rw [empty] at given
  cases given

/-- **The path of a numbered file** is the path of the directory, written out, with the name as one
more part. -/
theorem Names.ofText_freshText (names : Names start ending) (home : tree.HomeStands)
    (normal : directory.IsNormal) (number : Nat) :
    Path.ofText (tree.freshText directory start ending number) =
      tree.freshPath directory start ending number := by
  rw [Path.ofText_eq, rootOf_freshText names.front home normal, partsIn_freshText home normal,
    names.partsIn number]
  rfl

/-! ### Numbers that are free -/

theorem lastPiece_of_name {text name : String} {folder : List Char}
    (whole : text.toList = folder ++ '/' :: name.toList) (given : name ≠ "")
    (free : '/' ∉ name.toList) : lastPiece text = name := by
  unfold lastPiece
  have kept : [name].filter (fun piece => !piece.isEmpty) = [name] := by
    refine List.filter_eq_self.mpr (List.forall_mem_singleton.mpr ?_)
    rwa [Bool.not_eq_true', ← Bool.not_eq_true, String.isEmpty_iff]
  rw [whole, List.splitOn_append_cons_self, List.splitOn_eq_singleton free, List.map_append,
    List.map_singleton, String.ofList_toList]
  dsimp only
  rw [List.filter_append, kept, List.getLast?_concat]
  rfl

theorem endsWith_of_name {text name : String} {folder : List Char}
    (whole : text.toList = folder ++ '/' :: name.toList) (given : name ≠ "")
    (free : '/' ∉ name.toList) : text.endsWith "/" = false := by
  rw [← Bool.not_eq_true, endsWith_iff, whole]
  rintro ⟨before, same⟩
  have last := congrArg List.getLast? same
  rw [show "/".toList = ['/'] from rfl, List.getLast?_concat, List.getLast?_append] at last
  rcases name.toList.eq_nil_or_concat with empty | ⟨front, letter, letters⟩
  · exact given (String.toList_eq_nil_iff.mp empty)
  · rw [letters, List.concat_eq_append, ← List.cons_append, List.getLast?_concat] at last
    rw [letters, List.concat_eq_append] at free
    exact free (List.mem_append_right _ (List.mem_singleton.mpr (Option.some.inj last)))

/-- A file is created at the path of a number unless something stands there. -/
theorem Names.vacancy_freshText (names : Names start ending) (home : tree.HomeStands)
    (normal : directory.IsNormal) {place : Place}
    (leads : tree.locate (tree.freshPath directory start ending number) = .ok place) :
    tree.vacancy (tree.freshText directory start ending number) =
      if (tree.find? place).isSome then .error .alreadyThere else .ok place := by
  obtain ⟨folder, whole, _⟩ := tree.toList_freshText directory start ending number
  obtain ⟨given, other, _⟩ := freshName_ne names.given ending number
  have free := names.slash_not_mem number
  unfold vacancy
  rw [endsWith_of_name whole given free, lastPiece_of_name whole given free,
    names.ofText_freshText home normal]
  dsimp only
  rw [leads, beq_false_of_ne other]
  rfl

/-- A fresh file is created at the path of a number. -/
theorem path_of_createFresh (created : tree.createFresh directory start ending = .ok (path, last)) :
    ∃ number, path = Path.ofText (tree.freshText directory start ending number) := by
  unfold createFresh at created
  refine ⟨tree.freeNumber directory start ending, ?_⟩
  dsimp only at created
  generalize tree.freshText directory start ending
    (tree.freeNumber directory start ending) = chosen at created ⊢
  cases vacant : tree.vacancy chosen with
  | error refusal =>
    rw [vacant] at created
    cases created
  | ok place =>
    rw [vacant] at created
    cases created
    rfl

/-- There is room for numbered files in a directory: neither their names nor their paths are too
long, for as many numbers as there are entries. -/
def HasRoom (tree : FileTree) (directory : Path) (start ending : String) : Prop :=
  ∀ number ≤ tree.entries.length, (freshName start ending number).utf8ByteSize ≤ nameLimit ∧
    (tree.freshPath directory start ending number).toText.utf8ByteSize ≤ pathLimit

theorem locate_freshPath (names : Names start ending) (home : tree.HomeStands)
    (normal : directory.IsNormal) (stands : tree.isDirectory directory = true)
    (room : tree.HasRoom directory start ending) {number : Nat}
    (few : number ≤ tree.entries.length) :
    tree.locate (tree.freshPath directory start ending number) =
      .ok (tree.freshPath directory start ending number).parts := by
  obtain ⟨reached, mode, found⟩ := reached_settled home stands
  obtain ⟨_, rooted⟩ := isNormal_settled home normal
  obtain ⟨shortName, shortPath⟩ := room number few
  obtain ⟨_, _, plain⟩ := freshName_ne names.given ending number
  unfold freshPath at shortPath ⊢
  rw [tree.locate_of_rooted _ rooted, if_neg (Nat.not_lt.mpr shortPath)]
  exact (reached.down found plain shortName).leads

theorem mem_of_find? {place : Place} (given : place ≠ [])
    (found : (tree.find? place).isSome = true) : place ∈ tree.entries.map Prod.fst := by
  unfold find? at found
  rw [if_neg (by rwa [List.isEmpty_iff]), Option.isSome_map] at found
  obtain ⟨item, isItem⟩ := Option.isSome_iff_exists.mp found
  have same : item.1 = place := by simpa using List.find?_some isItem
  exact List.mem_map.mpr ⟨item, List.mem_of_find?_eq_some isItem, same⟩

/-- Among more numbers than there are entries one is free. -/
theorem exists_vacant (tree : FileTree) (directory : Path) (start ending : String) :
    ∃ number ∈ List.range (tree.entries.length + 1),
      tree.find? (tree.freshPath directory start ending number).parts = none := by
  have injective : Function.Injective fun number =>
      (tree.freshPath directory start ending number).parts := fun first second same =>
    freshName_injective start ending (List.singleton_inj.mp (List.append_cancel_left same))
  obtain ⟨number, isNumber, free⟩ := exists_not_mem injective (tree.entries.map Prod.fst)
  rw [List.length_map] at isNumber
  refine ⟨number, isNumber, Option.not_isSome_iff_eq_none.mp fun taken => free ?_⟩
  exact mem_of_find? (List.append_ne_nil_of_right_ne_nil _ (List.cons_ne_nil _ _)) taken

/-- Nothing stands at the path of the first number that is free. -/
theorem vacancy_freeNumber (names : Names start ending) (home : tree.HomeStands)
    (normal : directory.IsNormal) (stands : tree.isDirectory directory = true)
    (room : tree.HasRoom directory start ending) :
    let number := tree.freeNumber directory start ending
    tree.vacancy (tree.freshText directory start ending number) =
      .ok (tree.freshPath directory start ending number).parts := by
  have vacancies (number : Nat) (few : number ∈ List.range (tree.entries.length + 1)) :=
    names.vacancy_freshText home normal (locate_freshPath names home normal stands room
      (Nat.lt_succ_iff.mp (List.mem_range.mp few)))
  unfold freeNumber
  generalize found : List.find? _ _ = chosen
  cases chosen with
  | none =>
    obtain ⟨number, few, free⟩ := tree.exists_vacant directory start ending
    have refused := List.find?_eq_none.mp found number few
    rw [vacancies number few, free] at refused
    exact absurd rfl refused
  | some number =>
    have few := List.mem_of_find?_eq_some found
    have free := List.find?_some found
    dsimp only
    rw [vacancies number few] at free
    rw [Option.getD_some, vacancies number few]
    by_cases taken : (tree.find? (tree.freshPath directory start ending number).parts).isSome = true
    · rw [if_pos taken] at free
      cases free
    · rw [if_neg taken]

/-- **In a directory that stands a fresh file is created**, if there is room for it. -/
theorem createFresh_of_stands (names : Names start ending) (home : tree.HomeStands)
    (normal : directory.IsNormal) (stands : tree.isDirectory directory = true)
    (room : tree.HasRoom directory start ending) :
    ∃ number, tree.createFresh directory start ending =
      .ok (tree.freshPath directory start ending number,
        tree.insert (tree.freshPath directory start ending number).parts (.file freshMode [])) := by
  refine ⟨tree.freeNumber directory start ending, ?_⟩
  unfold createFresh
  dsimp only
  rw [vacancy_freeNumber names home normal stands room, names.ofText_freshText home normal]

/-- **A fresh file whose name has a slash is not in the directory itself.** It is further below, in a
directory that stands there. -/
theorem below_of_createFresh {outer inner : String} {letter : Char}
    (given : outer ≠ "" ∧ outer ≠ "." ∧ outer ≠ "..") (free : '/' ∉ outer.toList)
    (member : letter ∈ inner.toList) (other : letter ≠ '/' ∧ letter ≠ '.')
    (home : tree.HomeStands) (normal : directory.IsNormal)
    (created : tree.createFresh directory (outer ++ "/" ++ inner) ending = .ok (path, last)) :
    ∃ below mode, below ≠ [] ∧ path.parts = (tree.settled directory).parts ++ outer :: below ∧
      tree.find? ((tree.settled directory).parts ++ [outer]) = some (.directory mode) := by
  obtain ⟨place, _, leads, _⟩ := createFresh_eq_ok created
  obtain ⟨number, rfl⟩ := path_of_createFresh created
  have front := any_head?_append (any_head?_append (any_head?_of_not_mem given.1 free) "/") inner
  have root := rootOf_freshText front home normal ending number
  have parts := partsIn_freshText home normal (outer ++ "/" ++ inner) ending number
  have name : (freshName (outer ++ "/" ++ inner) ending number).toList =
      outer.toList ++ '/' :: (inner ++ numbered number ++ ending).toList := by
    unfold freshName
    simp only [String.toList_append, List.append_assoc]
    rfl
  have inside : letter ∈ (inner ++ numbered number ++ ending).toList := by
    rw [String.toList_append, String.toList_append]
    exact List.mem_append_left _ (List.mem_append_left _ member)
  rw [name, Path.partsIn_append_slash, Path.partsIn_of_name given.1 given.2.1 free,
    List.singleton_append] at parts
  have goesOn := Path.partsIn_ne_nil inside other.1 other.2
  rw [Path.ofText_eq, root, parts] at leads ⊢
  generalize Path.partsIn (inner ++ numbered number ++ ending).toList = below at *
  obtain ⟨_, rooted⟩ := isNormal_settled home normal
  have plain : ".." ∉ (tree.settled directory).parts ++ [outer] := by
    rw [List.mem_append, List.mem_singleton, not_or]
    exact ⟨up_not_mem_settleNames _, Ne.symm given.2.2⟩
  rw [tree.locate_of_rooted _ rooted] at leads
  split at leads
  · cases leads
  obtain ⟨mode, stands⟩ := leads_through plain goesOn leads
  exact ⟨below, mode, goesOn, rfl, stands⟩

end FleetSchema.FileTree
