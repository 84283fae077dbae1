/-
**Directories that stand.**

A directory that is made stands. Its path can be written out from the root, with the parts that lead
upwards resolved without looking at the tree. As there are no links, the path that is written out
leads to the same directory.

* `isDirectory_of_makeDirectories`: a directory that is made stands;
* `Reached`: a place is reached from the root by its own names;
* `Reached.follow_settled`, `reached_settled`: names and paths lead where they lead when they are
  written out;
* `isNormal_settled`: a path that is written out is in normal form.
-/

import FleetSchema.Proofs.Files.Growth
import Mathlib.Data.List.Induction

namespace FleetSchema.FileTree

variable {tree last : FileTree} {path directory : Path}

/-! ### Directories that are made -/

theorem isDirectory_iff : tree.isDirectory path = true ↔
    ∃ place mode, tree.locate path = .ok place ∧ tree.find? place = some (.directory mode) := by
  unfold isDirectory FileTree.entryAt?
  cases leads : tree.locate path with
  | error refusal => simp
  | ok place =>
    dsimp only
    cases found : tree.find? place with
    | none => simp [found]
    | some entry => cases entry <;> simp [found]

theorem isDirectory_of_makeDirectory {mode : Nat}
    (made : tree.makeDirectory path mode = .ok last) : last.isDirectory path = true := by
  have gains := gains_makeDirectory made
  unfold makeDirectory at made
  cases leads : tree.locate path with
  | error refusal =>
    rw [leads] at made
    cases made
  | ok place =>
    rw [leads] at made
    dsimp only at made
    by_cases taken : (tree.find? place).isSome = true
    · rw [if_pos taken] at made
      cases made
    · rw [if_neg taken] at made
      cases made
      refine isDirectory_iff.mpr ⟨place, mode, gains.locate leads, ?_⟩
      rw [find?_insert, Option.not_isSome_iff_eq_none.mp taken, beq_self_eq_true, if_pos rfl]
      rfl

theorem isDirectory_of_ensureDirectory {mode : Nat}
    (made : tree.ensureDirectory path mode = .ok last) : last.isDirectory path = true := by
  unfold ensureDirectory at made
  cases one : tree.makeDirectory path mode with
  | ok grown =>
    rw [one] at made
    cases made
    exact isDirectory_of_makeDirectory one
  | error refusal =>
    rw [one] at made
    dsimp only at made
    by_cases stands : tree.isDirectory path = true
    · rw [if_pos stands] at made
      cases made
      exact stands
    · rw [if_neg stands] at made
      cases made

theorem isDirectory_of_makeDirectoriesWith {root : String} {mode : Nat} {reversed : List String}
    (made : tree.makeDirectoriesWith root mode reversed = .ok last) :
    last.isDirectory ⟨root, reversed.reverse⟩ = true := by
  cases reversed with
  | nil => exact isDirectory_of_ensureDirectory made
  | cons name above =>
    unfold makeDirectoriesWith at made
    dsimp only at made
    split at made
    · rename_i grown one
      cases made
      exact isDirectory_of_makeDirectory one
    · split at made
      · cases made
      · exact isDirectory_of_ensureDirectory made
    · split at made
      · rename_i stands
        cases made
        exact stands
      · cases made

/-- **A directory that is made stands.** -/
theorem isDirectory_of_makeDirectories {mode : Nat}
    (made : tree.makeDirectories path mode = .ok last) : last.isDirectory path = true := by
  have stands := isDirectory_of_makeDirectoriesWith made
  rwa [List.reverse_reverse] at stands

/-! ### Paths that are written out -/

theorem follow_append (tree : FileTree) (place : Place) (names others : List String) :
    tree.follow place (names ++ others) =
      (tree.follow place names).bind fun reached => tree.follow reached others := by
  induction names generalizing place with
  | nil => rfl
  | cons name rest ih =>
    rw [List.cons_append, follow, follow]
    cases tree.find? place with
    | none => rfl
    | some entry =>
      cases entry with
      | file mode bytes => rfl
      | directory mode =>
        dsimp only
        split
        · exact ih _
        · split
          · rfl
          · exact ih _

/-- Names that do not lead upwards lead to the place that they spell. -/
theorem follow_plain {place reached : Place} {names : List String} (plain : ".." ∉ names)
    (leads : tree.follow place names = .ok reached) : reached = place ++ names := by
  induction names generalizing place with
  | nil =>
    cases leads
    exact (List.append_nil _).symm
  | cons name rest ih =>
    rw [List.mem_cons, not_or] at plain
    unfold follow at leads
    split at leads
    · cases leads
    · cases leads
    · rw [if_neg fun up => plain.1 (beq_iff_eq.mp up).symm] at leads
      split at leads
      · cases leads
      · rw [ih plain.2 leads, List.append_assoc]
        rfl

/-- One more name is followed from a directory, if it is not too long. -/
theorem follow_name {place : Place} {mode : Nat} {name : String}
    (stands : tree.find? place = some (.directory mode)) (plain : name ≠ "..")
    (short : name.utf8ByteSize ≤ nameLimit) : tree.follow place [name] = .ok (place ++ [name]) := by
  unfold follow
  rw [stands]
  dsimp only
  rw [if_neg fun up => plain (beq_iff_eq.mp up), if_neg (Nat.not_lt.mpr short)]
  rfl

/-- A path with a slash in front is followed from the root. -/
theorem locate_of_rooted (tree : FileTree) {root : String} (parts : List String)
    (rooted : root ≠ "") : tree.locate ⟨root, parts⟩ =
      if pathLimit < (Path.toText ⟨root, parts⟩).utf8ByteSize then .error .nameTooLong
      else tree.follow [] parts := by
  have absolute : Path.isAbsolute ⟨root, parts⟩ = true := by
    unfold Path.isAbsolute
    rwa [Bool.not_eq_true', ← Bool.not_eq_true, String.isEmpty_iff]
  unfold FileTree.locate
  rw [if_pos absolute]

/-- Names that lead on behind a name lead through a directory. -/
theorem leads_through {above below : List String} {name : String} {place : Place}
    (plain : ".." ∉ above ++ [name]) (goesOn : below ≠ [])
    (leads : tree.follow [] (above ++ name :: below) = .ok place) :
    ∃ mode, tree.find? (above ++ [name]) = some (.directory mode) := by
  rw [List.append_cons, follow_append] at leads
  cases way : tree.follow [] (above ++ [name]) with
  | error refusal =>
    rw [way] at leads
    cases leads
  | ok middle =>
    rw [way, follow_plain plain way] at leads
    cases below with
    | nil => exact absurd rfl goesOn
    | cons next rest =>
      change tree.follow (above ++ [name]) (next :: rest) = .ok place at leads
      unfold follow at leads
      split at leads
      · cases leads
      · cases leads
      · rename_i mode stands
        exact ⟨mode, stands⟩

/-- A place is reached from the root by its own names. -/
structure Reached (tree : FileTree) (place : Place) : Prop where
  plain : ".." ∉ place
  leads : tree.follow [] place = .ok place

theorem Reached.dropLast {place : Place} (reached : tree.Reached place) :
    tree.Reached place.dropLast := by
  rcases place.eq_nil_or_concat with rfl | ⟨above, name, rfl⟩
  · exact reached
  rw [List.concat_eq_append] at reached
  rw [List.concat_eq_append, List.dropLast_concat]
  have plain : ".." ∉ above := fun up => reached.plain (List.mem_append_left _ up)
  have leads := reached.leads
  rw [follow_append] at leads
  cases way : tree.follow [] above with
  | error refusal =>
    rw [way] at leads
    cases leads
  | ok middle => exact ⟨plain, way.trans (congrArg Except.ok (follow_plain plain way))⟩

theorem Reached.down {place : Place} {mode : Nat} {name : String} (reached : tree.Reached place)
    (stands : tree.find? place = some (.directory mode)) (plain : name ≠ "..")
    (short : name.utf8ByteSize ≤ nameLimit) : tree.Reached (place ++ [name]) where
  plain up := by
    rcases List.mem_append.mp up with above | here
    · exact reached.plain above
    · exact plain (List.mem_singleton.mp here).symm
  leads := by
    rw [follow_append, reached.leads]
    exact follow_name stands plain short

theorem settleNames_append (names others : List String) :
    settleNames (names ++ others) = others.foldl
      (fun settled name => if name == ".." then settled.dropLast else settled ++ [name])
      (settleNames names) := List.foldl_append

theorem settleNames_plain {names : List String} (plain : ".." ∉ names) :
    settleNames names = names := by
  induction names using List.reverseRecOn with
  | nil => rfl
  | append_singleton above name ih =>
    rw [List.mem_append, List.mem_singleton, not_or] at plain
    rw [settleNames_append, ih plain.1, List.foldl_cons, List.foldl_nil,
      if_neg fun up => plain.2 (beq_iff_eq.mp up).symm]

/-- Names lead where they lead when the parts that lead upwards are resolved. -/
theorem Reached.follow_settled {place reached : Place} {names : List String}
    (entered : tree.Reached place) (leads : tree.follow place names = .ok reached) :
    settleNames (place ++ names) = reached ∧ tree.Reached reached := by
  -- every place on the way is reached from the root by its own names, so a step upwards leads to
  -- the place with one name less
  induction names generalizing place with
  | nil =>
    cases leads
    rw [List.append_nil]
    exact ⟨settleNames_plain entered.plain, entered⟩
  | cons name rest ih =>
    unfold follow at leads
    cases found : tree.find? place with
    | none =>
      rw [found] at leads
      cases leads
    | some entry =>
      rw [found] at leads
      cases entry with
      | file mode bytes => cases leads
      | directory mode =>
        dsimp only at leads
        by_cases up : (name == "..") = true
        · rw [if_pos up] at leads
          obtain ⟨settles, ends⟩ := ih entered.dropLast leads
          refine ⟨?_, ends⟩
          rw [settleNames_append, settleNames_plain entered.dropLast.plain] at settles
          rw [settleNames_append, settleNames_plain entered.plain, List.foldl_cons, if_pos up]
          exact settles
        · rw [if_neg up] at leads
          split at leads
          · cases leads
          · rename_i short
            have down := entered.down found (fun same => up (beq_iff_eq.mpr same))
              (Nat.not_lt.mp short)
            obtain ⟨settles, ends⟩ := ih down leads
            refine ⟨?_, ends⟩
            rw [List.append_assoc] at settles
            exact settles

/-- The working directory stands, and its own names lead to it. -/
structure HomeStands (tree : FileTree) : Prop where
  normal : (⟨"/", tree.home⟩ : Path).IsNormal
  reached : tree.Reached tree.home

theorem Gains.homeStands {paths : List Path} (gains : Gains paths tree last)
    (home : tree.HomeStands) : last.HomeStands := by
  obtain ⟨normal, plain, leads⟩ := home
  rw [← gains.home] at normal plain leads
  exact ⟨normal, plain, follow_of_kept gains.kept leads⟩

theorem reached_root (tree : FileTree) : tree.Reached [] := ⟨List.not_mem_nil, rfl⟩

/-- **A directory that stands is the one at its path when that is written out.** -/
theorem reached_settled (home : tree.HomeStands) (stands : tree.isDirectory path = true) :
    tree.Reached (tree.settled path).parts ∧
      ∃ mode, tree.find? (tree.settled path).parts = some (.directory mode) := by
  obtain ⟨place, mode, leads, found⟩ := isDirectory_iff.mp stands
  unfold FileTree.locate at leads
  split at leads
  · cases leads
  have settles : (tree.settled path).parts = place ∧ tree.Reached place := by
    unfold settled
    by_cases absolute : path.isAbsolute = true
    · rw [if_pos absolute] at leads
      dsimp only
      rw [if_pos absolute]
      exact (reached_root tree).follow_settled leads
    · rw [if_neg absolute] at leads
      dsimp only
      rw [if_neg absolute]
      exact home.reached.follow_settled leads
  rw [settles.1]
  exact ⟨settles.2, mode, found⟩

theorem settleNames_subset (names : List String) : settleNames names ⊆ names := by
  induction names using List.reverseRecOn with
  | nil => exact List.Subset.refl _
  | append_singleton above name ih =>
    intro member inside
    rw [settleNames_append, List.foldl_cons, List.foldl_nil] at inside
    rw [List.mem_append]
    split at inside
    · exact Or.inl (ih (List.dropLast_subset _ inside))
    · rcases List.mem_append.mp inside with earlier | here
      · exact Or.inl (ih earlier)
      · exact Or.inr here

/-- Names that are settled do not lead upwards. -/
theorem up_not_mem_settleNames (names : List String) : ".." ∉ settleNames names := by
  induction names using List.reverseRecOn with
  | nil => exact List.not_mem_nil
  | append_singleton above name ih =>
    rw [settleNames_append, List.foldl_cons, List.foldl_nil]
    split
    · exact fun up => ih (List.dropLast_subset _ up)
    · rename_i other
      rw [List.mem_append, not_or]
      exact ⟨ih, fun up => other (beq_iff_eq.mpr (List.mem_singleton.mp up).symm)⟩

/-- A path that is written out is in normal form and starts at the root. -/
theorem isNormal_settled (home : tree.HomeStands) (normal : directory.IsNormal) :
    (tree.settled directory).IsNormal ∧ (tree.settled directory).root ≠ "" := by
  unfold settled
  by_cases absolute : directory.isAbsolute = true
  · have given : directory.root ≠ "" := by
      intro empty
      unfold Path.isAbsolute at absolute
      rw [empty] at absolute
      cases absolute
    dsimp only
    rw [if_pos absolute, if_pos absolute]
    exact ⟨⟨normal.root, fun part member => normal.parts part (settleNames_subset _ member)⟩, given⟩
  · dsimp only
    rw [if_neg absolute, if_neg absolute]
    refine ⟨⟨Or.inr (Or.inl rfl), fun part member => ?_⟩, by decide⟩
    rcases List.mem_append.mp (settleNames_subset _ member) with above | below
    · exact home.normal.parts part above
    · exact normal.parts part below

theorem Gains.settled {paths : List Path} (gains : Gains paths tree last) (path : Path) :
    last.settled path = tree.settled path := by
  unfold FileTree.settled
  rw [gains.home]

end FleetSchema.FileTree
