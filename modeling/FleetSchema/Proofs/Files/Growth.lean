/-
**Growing file trees.**

Nothing that a run does to files takes anything away: it makes directories where there are none, and
it writes new files.

* `FileTree.Gains`: a tree comes out of another one by new directories and by files at given paths;
* `Gains.locate`, `Gains.read`: paths still lead where they led;
* `gains_makeDirectories`: what making directories comes to;
* `fresh_createFresh`, `fresh_fill`: what creating a fresh file and giving it bytes come to.
-/

import FleetSchema.FileTree
import FleetSchema.Proofs.Files.NormalPath

namespace FleetSchema.FileTree

variable {first middle last tree : FileTree} {paths others : List Path} {path : Path}
  {place : Place}

/-- A tree comes out of another one by new directories, and by files at new places to which these
paths lead. -/
structure Gains (paths : List Path) (first last : FileTree) : Prop where
  home : last.home = first.home
  kept : ∀ place entry, first.find? place = some entry → last.find? place = some entry
  files : ∀ place mode bytes, last.find? place = some (.file mode bytes) →
    first.find? place = some (.file mode bytes) ∨ ∃ path ∈ paths, last.locate path = .ok place

/-! ### What stays -/

theorem follow_of_kept
    (kept : ∀ place entry, first.find? place = some entry → last.find? place = some entry)
    {start : Place} {names : List String} (leads : first.follow start names = .ok place) :
    last.follow start names = .ok place := by
  induction names generalizing start with
  | nil => exact leads
  | cons name rest ih =>
    unfold follow at leads ⊢
    cases found : first.find? start with
    | none =>
      rw [found] at leads
      cases leads
    | some entry =>
      rw [found] at leads
      rw [kept start entry found]
      cases entry with
      | file mode bytes => cases leads
      | directory mode =>
        dsimp only at leads ⊢
        split at leads
        · rename_i upwards
          rw [if_pos upwards]
          exact ih leads
        · rename_i downwards
          rw [if_neg downwards]
          split at leads
          · cases leads
          · rename_i short
            rw [if_neg short]
            exact ih leads

theorem locate_of_kept (leads : first.locate path = .ok place) (home : last.home = first.home)
    (kept : ∀ place entry, first.find? place = some entry → last.find? place = some entry) :
    last.locate path = .ok place := by
  unfold FileTree.locate at leads ⊢
  split at leads
  · cases leads
  · rename_i short
    rw [if_neg short, home]
    exact follow_of_kept kept leads

/-- Paths still lead where they led. -/
theorem Gains.locate (gains : Gains paths first last) (leads : first.locate path = .ok place) :
    last.locate path = .ok place := locate_of_kept leads gains.home gains.kept

/-- Files still hold what they held. -/
theorem Gains.read {bytes : List UInt8} (gains : Gains paths first last)
    (held : first.read path = .ok bytes) : last.read path = .ok bytes := by
  unfold FileTree.read at held ⊢
  cases leads : first.locate path with
  | error refusal =>
    rw [leads] at held
    cases held
  | ok place =>
    rw [leads] at held
    rw [gains.locate leads]
    dsimp only at held ⊢
    cases found : first.find? place with
    | none =>
      rw [found] at held
      cases held
    | some entry =>
      rw [found] at held
      rw [gains.kept place entry found]
      exact held

theorem Gains.refl (tree : FileTree) : Gains [] tree tree :=
  ⟨rfl, fun _ _ found => found, fun _ _ _ found => Or.inl found⟩

theorem Gains.trans (before : Gains paths first middle) (after : Gains others middle last) :
    Gains (paths ++ others) first last where
  home := after.home.trans before.home
  kept place entry found := after.kept place entry (before.kept place entry found)
  files place mode bytes found := by
    obtain earlier | ⟨path, member, leads⟩ := after.files place mode bytes found
    · obtain first | ⟨path, member, leads⟩ := before.files place mode bytes earlier
      · exact Or.inl first
      · exact Or.inr ⟨path, List.mem_append_left _ member, after.locate leads⟩
    · exact Or.inr ⟨path, List.mem_append_right _ member, leads⟩

/-! ### Single changes -/

theorem find?_insert (tree : FileTree) (place other : Place) (entry : Entry) :
    (tree.insert place entry).find? other =
      (tree.find? other).or (if place == other then some entry else none) := by
  unfold find? insert
  dsimp only
  split
  · rfl
  · rw [List.find?_append, Option.map_or, List.find?_singleton]
    by_cases here : (place == other) = true
    · rw [if_pos here, if_pos here]
      rfl
    · rw [if_neg here, if_neg here]
      rfl

theorem find?_write (tree : FileTree) (place other : Place) (bytes : List UInt8) :
    (tree.write place bytes).find? other =
      (tree.find? other).map fun entry =>
        if other == place then entry.holding bytes else entry := by
  unfold find? write
  dsimp only
  split
  · rw [Option.map_some]
    split
    · rfl
    · rfl
  · rw [List.find?_map, Option.map_map]
    change ((tree.entries.find? fun item => item.1 == other).map _) = _
    cases found : tree.entries.find? fun item => item.1 == other with
    | none => rfl
    | some item =>
      have same : item.1 = other := by simpa using List.find?_some found
      rw [Option.map_some, Option.map_some, Option.map_some, ← same]
      rfl

/-! ### Directories -/

theorem gains_insert_directory (tree : FileTree) (place : Place) (mode : Nat) :
    Gains [] tree (tree.insert place (.directory mode)) where
  home := rfl
  kept other entry found := by
    rw [find?_insert, found]
    rfl
  files other fileMode bytes found := by
    rw [find?_insert] at found
    cases known : tree.find? other with
    | some entry =>
      rw [known] at found
      exact Or.inl found
    | none =>
      rw [known] at found
      dsimp only [Option.or] at found
      split at found
      · cases found
      · cases found

theorem gains_makeDirectory {mode : Nat} (made : tree.makeDirectory path mode = .ok last) :
    Gains [] tree last := by
  unfold makeDirectory at made
  cases leads : tree.locate path with
  | error refusal =>
    rw [leads] at made
    cases made
  | ok place =>
    rw [leads] at made
    dsimp only at made
    split at made
    · cases made
    · cases made
      exact gains_insert_directory tree place mode

theorem gains_ensureDirectory {mode : Nat} (made : tree.ensureDirectory path mode = .ok last) :
    Gains [] tree last := by
  unfold ensureDirectory at made
  cases one : tree.makeDirectory path mode with
  | ok grown =>
    rw [one] at made
    cases made
    exact gains_makeDirectory one
  | error refusal =>
    rw [one] at made
    dsimp only at made
    split at made
    · cases made
      exact .refl _
    · cases made

/-- Making directories adds directories. -/
theorem gains_makeDirectoriesWith {root : String} {mode : Nat} {reversed : List String}
    (made : tree.makeDirectoriesWith root mode reversed = .ok last) : Gains [] tree last := by
  induction reversed generalizing mode last with
  | nil => exact gains_ensureDirectory made
  | cons name above ih =>
    unfold makeDirectoriesWith at made
    dsimp only at made
    split at made
    · rename_i grown one
      cases made
      exact gains_makeDirectory one
    · split at made
      · cases made
      · rename_i grown aboveMade
        exact (ih aboveMade).trans (gains_ensureDirectory made)
    · split at made
      · cases made
        exact .refl _
      · cases made

theorem gains_makeDirectories {mode : Nat} (made : tree.makeDirectories path mode = .ok last) :
    Gains [] tree last := gains_makeDirectoriesWith made

/-! ### Fresh files -/

/-- What comes of writing a fresh file: the file is at a path that led to nothing before, and only
its owner may read and write it. -/
structure Fresh (path : Path) (bytes : List UInt8) (first last : FileTree) : Prop where
  gains : Gains [path] first last
  normal : path.IsNormal
  absent : first.isThere path = false
  stands : ∃ place, last.locate path = .ok place ∧ first.find? place = none ∧
    last.find? place = some (.file freshMode bytes)

/-- A path that leads to a file leads to what the file holds. -/
theorem read_of_entryAt? {mode : Nat} {bytes : List UInt8}
    (entry : tree.entryAt? path = some (.file mode bytes)) : tree.read path = .ok bytes := by
  unfold entryAt? at entry
  unfold FileTree.read
  cases leads : tree.locate path with
  | error refusal =>
    rw [leads] at entry
    cases entry
  | ok place =>
    rw [leads] at entry
    dsimp only at entry ⊢
    rw [entry]

theorem Fresh.entry {bytes : List UInt8} (fresh : Fresh path bytes first last) :
    last.entryAt? path = some (.file freshMode bytes) := by
  obtain ⟨place, leads, _, found⟩ := fresh.stands
  unfold entryAt?
  rw [leads]
  exact found

theorem Fresh.held {bytes : List UInt8} (fresh : Fresh path bytes first last) :
    last.read path = .ok bytes := read_of_entryAt? fresh.entry

/-- Where nothing stands later nothing stood before. -/
theorem Gains.find?_eq_none (gains : Gains paths first last) (vacant : last.find? place = none) :
    first.find? place = none := by
  cases found : first.find? place with
  | none => rfl
  | some entry =>
    rw [gains.kept place entry found] at vacant
    cases vacant

/-- Paths still lead to what they led to. -/
theorem Gains.entryAt? {entry : Entry} (gains : Gains paths first last)
    (known : first.entryAt? path = some entry) : last.entryAt? path = some entry := by
  unfold FileTree.entryAt? at known ⊢
  cases leads : first.locate path with
  | error refusal =>
    rw [leads] at known
    cases known
  | ok place =>
    rw [leads] at known
    rw [gains.locate leads]
    exact gains.kept place entry known

/-- What a file is read from is there. -/
theorem isThere_of_read {bytes : List UInt8} (read : tree.read path = .ok bytes) :
    tree.isThere path = true := by
  unfold FileTree.read at read
  unfold isThere entryAt?
  cases leads : tree.locate path with
  | error refusal =>
    rw [leads] at read
    cases read
  | ok place =>
    rw [leads] at read
    dsimp only at read ⊢
    cases found : tree.find? place with
    | none =>
      rw [found] at read
      cases read
    | some entry => rfl

/-- What led to nothing later led to nothing before. -/
theorem Gains.isThere (gains : Gains paths first last) (absent : last.isThere path = false) :
    first.isThere path = false := by
  unfold FileTree.isThere FileTree.entryAt? at *
  cases leads : first.locate path with
  | error refusal => rfl
  | ok place =>
    rw [gains.locate leads] at absent
    dsimp only at absent ⊢
    rw [gains.find?_eq_none (Option.not_isSome_iff_eq_none.mp (by simp [absent]))]
    rfl

/-- A file that is put where none stands. -/
theorem find?_insert_fresh (place other : Place) (absent : tree.find? place = none) :
    (tree.insert place (.file freshMode [])).find? other =
      if other = place then some (.file freshMode []) else tree.find? other := by
  rw [find?_insert]
  by_cases here : other = place
  · subst here
    rw [absent, beq_self_eq_true, if_pos rfl, if_pos rfl]
    rfl
  · rw [if_neg here, if_neg (fun same => here (beq_iff_eq.mp same).symm), Option.or_none]

/-- A file that is put where none stands, with the bytes that it is given. -/
theorem find?_write_insert (place other : Place) (bytes : List UInt8)
    (absent : tree.find? place = none) :
    ((tree.insert place (.file freshMode [])).write place bytes).find? other =
      if other = place then some (.file freshMode bytes) else tree.find? other := by
  rw [find?_write, find?_insert_fresh place other absent]
  by_cases here : other = place
  · subst here
    rw [beq_self_eq_true, if_pos rfl, if_pos rfl]
    rfl
  · rw [if_neg here, if_neg here, beq_false_of_ne here]
    cases tree.find? other with
    | none => rfl
    | some entry => rfl

/-- A file is fresh if it is the one thing that is new, where nothing stood. -/
theorem fresh_of_find? {bytes : List UInt8} (normal : path.IsNormal)
    (leads : first.locate path = .ok place) (absent : first.find? place = none)
    (home : last.home = first.home)
    (found : ∀ other, last.find? other =
      if other = place then some (.file freshMode bytes) else first.find? other) :
    Fresh path bytes first last := by
  have kept (other : Place) (entry : Entry) (known : first.find? other = some entry) :
      last.find? other = some entry := by
    have elsewhere : other ≠ place := by
      rintro rfl
      rw [absent] at known
      cases known
    rw [found, if_neg elsewhere]
    exact known
  have still : last.locate path = .ok place := locate_of_kept leads home kept
  refine ⟨⟨home, kept, fun other mode others isFile => ?_⟩, normal, ?_, place, still, absent, ?_⟩
  · by_cases here : other = place
    · subst here
      exact Or.inr ⟨_, List.mem_cons_self, still⟩
    · rw [found, if_neg here] at isFile
      exact Or.inl isFile
  · unfold isThere FileTree.entryAt?
    rw [leads]
    dsimp only
    rw [absent]
    rfl
  · rw [found, if_pos rfl]

/-- Nothing stands at a place where a file can be created. -/
theorem vacancy_eq_ok {text : String} (vacant : tree.vacancy text = .ok place) :
    tree.locate (.ofText text) = .ok place ∧ tree.find? place = none := by
  unfold vacancy at vacant
  dsimp only at vacant
  split at vacant
  · split at vacant
    · cases vacant
    · cases vacant
  · cases leads : tree.locate (.ofText text) with
    | error refusal =>
      rw [leads] at vacant
      cases vacant
    | ok found =>
      rw [leads] at vacant
      dsimp only at vacant
      split at vacant
      · cases vacant
      · by_cases taken : (tree.find? found).isSome = true
        · rw [if_pos taken] at vacant
          cases vacant
        · rw [if_neg taken] at vacant
          cases vacant
          exact ⟨rfl, Option.not_isSome_iff_eq_none.mp taken⟩

/-- A file is created fresh at a path that leads to a place without an entry. -/
theorem createFresh_eq_ok {directory : Path} {start ending : String}
    (created : tree.createFresh directory start ending = .ok (path, last)) :
    ∃ place, path.IsNormal ∧ tree.locate path = .ok place ∧ tree.find? place = none ∧
      last = tree.insert place (.file freshMode []) := by
  unfold createFresh at created
  dsimp only at created
  generalize tree.freshText directory start ending
    (tree.freeNumber directory start ending) = chosen at created
  cases vacant : tree.vacancy chosen with
  | error refusal =>
    rw [vacant] at created
    cases created
  | ok place =>
    rw [vacant] at created
    cases created
    obtain ⟨leads, absent⟩ := vacancy_eq_ok vacant
    exact ⟨place, Path.isNormal_ofText chosen, leads, absent, rfl⟩

/-- A file that is created fresh is empty. -/
theorem fresh_createFresh {directory : Path} {start ending : String}
    (created : tree.createFresh directory start ending = .ok (path, last)) :
    Fresh path [] tree last := by
  obtain ⟨place, normal, leads, absent, rfl⟩ := createFresh_eq_ok created
  exact fresh_of_find? normal leads absent rfl fun other => find?_insert_fresh place other absent

/-- **A file that is created fresh and given bytes holds them**, and it is the only new one. -/
theorem fresh_fill {directory : Path} {start ending : String} (bytes : List UInt8)
    (created : tree.createFresh directory start ending = .ok (path, last)) :
    Fresh path bytes tree (last.fill path bytes) := by
  obtain ⟨place, normal, leads, absent, rfl⟩ := createFresh_eq_ok created
  have inserted : (tree.insert place (.file freshMode [])).locate path = .ok place := by
    refine locate_of_kept leads rfl fun other entry found => ?_
    rw [find?_insert, found]
    rfl
  have filled : (tree.insert place (.file freshMode [])).fill path bytes =
      (tree.insert place (.file freshMode [])).write place bytes := by
    unfold fill
    rw [inserted]
  rw [filled]
  exact fresh_of_find? normal leads absent rfl fun other =>
    find?_write_insert place other bytes absent

end FleetSchema.FileTree
