/-
**Writing and reading a path.**

* `IsNormal`: one of three roots, and parts that are neither empty nor a dot nor hold a slash;
* `isNormal_ofText`: what is read is in normal form;
* `ofText_toText`: a path in normal form is read back as it was written.
-/

import FleetSchema.Path

namespace FleetSchema.Path

/-! ### Normal form -/

/-- A path is in normal form. -/
structure IsNormal (path : Path) : Prop where
  root : path.root = "" ∨ path.root = "/" ∨ path.root = "//"
  parts : ∀ part ∈ path.parts, part ≠ "" ∧ part ≠ "." ∧ '/' ∉ part.toList

theorem not_mem_of_mem_splitOn {letters part : List Char} {separator : Char}
    (member : part ∈ letters.splitOn separator) : separator ∉ part := by
  induction letters generalizing part with
  | nil =>
    rw [List.splitOn_nil, List.mem_singleton] at member
    rw [member]
    exact List.not_mem_nil
  | cons letter rest ih =>
    rw [List.splitOn_cons_eq_if_modifyHead] at member
    split at member
    · obtain rfl | behind := List.mem_cons.mp member
      · exact List.not_mem_nil
      · exact ih behind
    · rename_i other
      cases pieces : rest.splitOn separator with
      | nil => exact absurd pieces (List.splitOn_ne_nil _ _)
      | cons piece others =>
        rw [pieces] at member ih
        obtain rfl | behind := List.mem_cons.mp member
        · rw [List.mem_cons, not_or]
          refine ⟨fun same => other ?_, ih List.mem_cons_self⟩
          rw [same, beq_self_eq_true]
        · exact ih (List.mem_cons_of_mem _ behind)

/-- A character that does not separate stands in one of the pieces. -/
theorem exists_mem_splitOn {letters : List Char} {letter separator : Char}
    (member : letter ∈ letters) (other : letter ≠ separator) :
    ∃ part ∈ letters.splitOn separator, letter ∈ part := by
  induction letters with
  | nil => cases member
  | cons first rest ih =>
    rw [List.splitOn_cons_eq_if_modifyHead]
    by_cases separates : (first == separator) = true
    · rw [if_pos separates]
      rcases List.mem_cons.mp member with rfl | behind
      · exact absurd (beq_iff_eq.mp separates) other
      · obtain ⟨part, isPart, inside⟩ := ih behind
        exact ⟨part, List.mem_cons_of_mem _ isPart, inside⟩
    · rw [if_neg separates]
      cases pieces : rest.splitOn separator with
      | nil => exact absurd pieces (List.splitOn_ne_nil _ _)
      | cons piece others =>
        rw [pieces] at ih
        rcases List.mem_cons.mp member with rfl | behind
        · exact ⟨letter :: piece, List.mem_cons_self, List.mem_cons_self⟩
        · obtain ⟨part, isPart, inside⟩ := ih behind
          rcases List.mem_cons.mp isPart with rfl | later
          · exact ⟨first :: part, List.mem_cons_self, List.mem_cons_of_mem _ inside⟩
          · exact ⟨part, List.mem_cons_of_mem _ later, inside⟩

theorem rootOf_cases (text : String) :
    rootOf text = "" ∨ rootOf text = "/" ∨ rootOf text = "//" := by
  unfold rootOf
  split
  · exact Or.inr (Or.inl rfl)
  · exact Or.inr (Or.inr rfl)
  · exact Or.inr (Or.inl rfl)
  · exact Or.inl rfl

theorem isNormal_ofText (text : String) : (ofText text).IsNormal where
  root := rootOf_cases text
  parts part member := by
    obtain ⟨inSplit, kept⟩ := List.mem_filter.mp member
    obtain ⟨letters, isPart, rfl⟩ := List.mem_map.mp inSplit
    rw [Bool.and_eq_true, Bool.not_eq_true', bne_iff_ne] at kept
    refine ⟨?_, kept.2, ?_⟩
    · intro empty
      rw [empty] at kept
      cases kept.1
    · rw [String.toList_ofList]
      exact not_mem_of_mem_splitOn isPart

/-! ### Reading what was written -/

/-- The parts that the characters of a path hold. -/
def partsIn (letters : List Char) : List String :=
  ((letters.splitOn '/').map String.ofList).filter fun part => !part.isEmpty && part != "."

theorem ofText_eq (text : String) : ofText text = ⟨rootOf text, partsIn text.toList⟩ := rfl

theorem partsIn_slash (letters : List Char) : partsIn ('/' :: letters) = partsIn letters := by
  unfold partsIn
  rw [List.splitOn_cons_eq_if_modifyHead]
  rfl

/-- The parts on both sides of a slash. -/
theorem partsIn_append_slash (letters others : List Char) :
    partsIn (letters ++ '/' :: others) = partsIn letters ++ partsIn others := by
  unfold partsIn
  rw [List.splitOn_append_cons_self, List.map_append, List.filter_append]

theorem partsIn_intercalate {parts : List String}
    (normal : ∀ part ∈ parts, part ≠ "" ∧ part ≠ "." ∧ '/' ∉ part.toList) :
    partsIn ("/".intercalate parts).toList = parts := by
  unfold partsIn
  rw [String.toList_intercalate]
  cases parts with
  | nil => rfl
  | cons first rest =>
    have split : (['/'].intercalate ((first :: rest).map String.toList)).splitOn '/' =
        (first :: rest).map String.toList := by
      refine List.splitOn_intercalate '/' ?_ (List.cons_ne_nil _ _)
      intro letters member
      obtain ⟨part, isPart, rfl⟩ := List.mem_map.mp member
      exact (normal part isPart).2.2
    have back : ((first :: rest).map String.toList).map String.ofList = first :: rest := by
      rw [List.map_map]
      exact (List.map_congr_left fun part _ => String.ofList_toList).trans (List.map_id _)
    refine (congrArg (fun pieces => List.filter _ (List.map String.ofList pieces)) split).trans ?_
    rw [back, List.filter_eq_self]
    intro part member
    rw [Bool.and_eq_true, Bool.not_eq_true', bne_iff_ne]
    refine ⟨?_, (normal part member).2.1⟩
    rw [← Bool.not_eq_true, String.isEmpty_iff]
    exact (normal part member).1

/-- Characters without a slash are one part. -/
theorem partsIn_of_name {name : String} (given : name ≠ "") (other : name ≠ ".")
    (free : '/' ∉ name.toList) : partsIn name.toList = [name] :=
  partsIn_intercalate (List.forall_mem_singleton.mpr ⟨given, other, free⟩)

/-- There is a part if there is a character that is neither a slash nor a dot. -/
theorem partsIn_ne_nil {letters : List Char} {letter : Char} (member : letter ∈ letters)
    (noSlash : letter ≠ '/') (noDot : letter ≠ '.') : partsIn letters ≠ [] := by
  obtain ⟨part, isPart, inside⟩ := exists_mem_splitOn member noSlash
  refine List.ne_nil_of_mem (a := String.ofList part) (List.mem_filter.mpr
    ⟨List.mem_map.mpr ⟨part, isPart, rfl⟩, ?_⟩)
  rw [Bool.and_eq_true, Bool.not_eq_true', ← Bool.not_eq_true, String.isEmpty_iff, bne_iff_ne]
  constructor
  · intro empty
    have letters := congrArg String.toList empty
    rw [String.toList_ofList] at letters
    rw [letters] at inside
    cases inside
  · intro dot
    have letters := congrArg String.toList dot
    rw [String.toList_ofList] at letters
    rw [letters] at inside
    exact noDot (List.mem_singleton.mp inside)

/-- The first character of parts in normal form is no slash. -/
theorem head_intercalate {parts : List String}
    (normal : ∀ part ∈ parts, part ≠ "" ∧ part ≠ "." ∧ '/' ∉ part.toList) :
    ("/".intercalate parts).toList.head? ≠ some '/' := by
  cases parts with
  | nil => rintro ⟨⟩
  | cons first rest =>
    obtain ⟨given, _, free⟩ := normal first List.mem_cons_self
    rw [String.toList_intercalate]
    cases letters : first.toList with
    | nil => exact absurd (String.toList_eq_nil_iff.mp letters) given
    | cons letter others =>
      rw [letters, List.mem_cons, not_or] at free
      have head : (['/'].intercalate ((first :: rest).map String.toList)).head? = some letter := by
        cases rest with
        | nil => simp [letters]
        | cons second rest => simp [letters]
      intro slash
      exact free.1 (Option.some.inj (slash.symm.trans head))

/-- The root of a text is the root in front of characters that start with no slash. -/
theorem rootOf_append {root inner : String} (isRoot : root = "" ∨ root = "/" ∨ root = "//")
    (noSlash : inner.toList.head? ≠ some '/') : rootOf (root ++ inner) = root := by
  unfold rootOf
  rw [String.toList_append]
  cases letters : inner.toList with
  | nil =>
    obtain rfl | rfl | rfl := isRoot
    · rfl
    · rfl
    · rfl
  | cons letter rest =>
    have other : letter ≠ '/' := by
      rintro rfl
      rw [letters] at noSlash
      exact noSlash rfl
    obtain rfl | rfl | rfl := isRoot
    · simp [other]
    · simp [other]
    · simp [other]

variable {path : Path}

/-- **A path in normal form is read back as it was written.** -/
theorem ofText_toText (normal : path.IsNormal) : ofText path.toText = path := by
  obtain ⟨root, parts⟩ := path
  by_cases dot : root.isEmpty && parts.isEmpty
  · rw [Bool.and_eq_true, String.isEmpty_iff, List.isEmpty_iff] at dot
    obtain ⟨rfl, rfl⟩ := dot
    rfl
  · have text : toText ⟨root, parts⟩ = root ++ "/".intercalate parts := if_neg dot
    have isParts : partsIn (root ++ "/".intercalate parts).toList = parts := by
      rw [String.toList_append]
      obtain rfl | rfl | rfl := normal.root
      · exact partsIn_intercalate normal.parts
      · exact (partsIn_slash _).trans (partsIn_intercalate normal.parts)
      · exact (partsIn_slash _).trans
          ((partsIn_slash _).trans (partsIn_intercalate normal.parts))
    have isRoot := rootOf_append normal.root (head_intercalate normal.parts)
    rw [text]
    change Path.mk (rootOf _) (partsIn _) = _
    rw [isParts, isRoot]

end FleetSchema.Path
