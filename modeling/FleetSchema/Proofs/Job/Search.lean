/-
**The search for a key.**

The key of a database is searched among the plain key and the numbered ones behind it, and every
search ends: it tries as many keys in vain as there are keys taken, at most. What it ends in depends
on the databases before alone.

* `isLeast_rejections`: a search tries in vain the keys before the first one that is free;
* `Found`: what a search comes to, said by the keys that it tries;
* `keys_append`: the keys of databases stay what they are when others stand behind them;
* `searches_end`: the searches for the keys of a list of databases.
-/

import FleetSchema.Proofs.Job.Document
import Mathlib.Order.Bounds.Basic

namespace FleetSchema.Job

/-! ### One search -/

section Search

variable {taken others : List String} {base : String}

theorem isLeast_rejections (taken : List String) (base : String) :
    IsLeast {tried | candidate base tried ∉ taken} (rejections taken base 0) := by
  refine ⟨candidate_rejections_not_mem taken base 0, fun tried free => ?_⟩
  by_contra before
  exact free (candidate_mem_of_lt (Nat.zero_le tried) (Nat.lt_of_not_le before))

/-- How the keys that are taken are ordered does not count. -/
theorem rejections_congr (same : ∀ key, key ∈ taken ↔ key ∈ others) :
    rejections taken base 0 = rejections others base 0 := by
  have sameFree : {tried | candidate base tried ∉ taken} =
      {tried | candidate base tried ∉ others} := by
    ext tried
    exact not_congr (same _)
  exact (isLeast_rejections taken base).unique (sameFree ▸ isLeast_rejections others base)

theorem freshKey_reverse (taken : List String) (base : String) :
    freshKey taken.reverse base = freshKey taken base :=
  congrArg (candidate base) (rejections_congr fun _ => List.mem_reverse)

theorem rejections_le_length (taken : List String) (base : String) :
    rejections taken base 0 ≤ taken.length := by
  have bounded := rejections_le taken base 0
  rw [Nat.zero_add] at bounded
  exact bounded.trans List.countP_le_length

/-- What the search for a key comes to, among keys that are taken: the keys that it has tried in
vain are taken, the next one is not and is the key. It is the plain key if that one is free, and
else the one with the least number from two on that makes a free key. -/
structure Found (taken : List String) (base : String) (rejected : Nat) (key : String) : Prop where
  rejects : ∀ tried < rejected, candidate base tried ∈ taken
  stops : candidate base rejected = key ∧ key ∉ taken
  plain : base ∉ taken → key = base
  numbered : base ∈ taken → ∃ number,
    IsLeast {number | 2 ≤ number ∧ numberedKey base number ∉ taken} number ∧
      key = numberedKey base number

/-- A search that tries a key in vain ends in the least number that makes a free key. -/
theorem isLeast_of_rejections {tried : Nat} (rejected : rejections taken base 0 = tried + 1) :
    IsLeast {number | 2 ≤ number ∧ numberedKey base number ∉ taken} (tried + 2) := by
  obtain ⟨free, least⟩ := isLeast_rejections taken base
  rw [rejected] at free least
  refine ⟨⟨Nat.le_add_left _ _, free⟩, ?_⟩
  rintro number ⟨fromTwo, otherFree⟩
  obtain ⟨other, rfl⟩ := Nat.exists_eq_add_of_le' fromTwo
  exact Nat.succ_le_succ (least (show candidate base (other + 1) ∉ taken from otherFree))

theorem found_freshKey (taken : List String) (base : String) :
    Found taken base (rejections taken base 0) (freshKey taken base) where
  rejects _ before := candidate_mem_of_lt (Nat.zero_le _) before
  stops := ⟨rfl, freshKey_not_mem taken base⟩
  plain free := by
    have none : rejections taken base 0 = 0 := by
      unfold rejections
      exact if_neg free
    unfold freshKey
    rw [none]
    rfl
  numbered held := by
    unfold freshKey
    cases rejected : rejections taken base 0 with
    | zero =>
      have free := candidate_rejections_not_mem taken base 0
      rw [rejected] at free
      exact absurd held free
    | succ tried => exact ⟨tried + 2, isLeast_of_rejections rejected, rfl⟩

end Search

/-! ### One search after the other -/

/-- Databases behind others get their keys behind those of the others. -/
theorem keysAfter_append (taken first second : List String) :
    keysAfter taken (first ++ second) = keysAfter taken first ++
      keysAfter ((keysAfter taken first).reverse ++ taken) second := by
  induction first generalizing taken with
  | nil => rfl
  | cons database rest ih =>
    rw [List.cons_append, keysAfter, keysAfter, ih, List.reverse_cons, List.append_assoc]
    rfl

/-- **The keys of databases stay what they are** when others stand behind them. -/
theorem keys_append (first second : List String) :
    keys (first ++ second) = keys first ++ keysAfter (keys first).reverse second := by
  have split := keysAfter_append [] first second
  rw [List.append_nil] at split
  exact split

theorem keys_prefix (first second : List String) : keys first <+: keys (first ++ second) :=
  ⟨_, (keys_append first second).symm⟩

theorem take_keys (databases : List String) {place : Nat} (inside : place ≤ databases.length) :
    (keys databases).take place = keys (databases.take place) := by
  have start := keys_prefix (databases.take place) (databases.drop place)
  rw [List.take_append_drop, List.prefix_iff_eq_take, length_keys, List.length_take,
    Nat.min_eq_left inside] at start
  exact start.symm

/-- The key of a database is the fresh one behind the keys of the databases before it. -/
theorem getElem?_keys_append (front : List String) (database : String) (back : List String) :
    (keys (front ++ database :: back))[front.length]? =
      some (freshKey (keys front) (baseKey database)) := by
  rw [keys_append, List.getElem?_append_right (length_keys front).le, length_keys, Nat.sub_self]
  exact congrArg some (freshKey_reverse _ _)

theorem getElem?_keys (databases : List String) (place : Fin databases.length) :
    (keys databases)[(place : Nat)]? =
      some (freshKey ((keys databases).take place) (baseKey databases[place])) := by
  have found := getElem?_keys_append (databases.take place) databases[place]
    (databases.drop (place + 1))
  rw [Fin.getElem_fin, ← List.drop_eq_getElem_cons place.isLt, List.take_append_drop,
    List.length_take_of_le place.isLt.le, ← take_keys databases place.isLt.le] at found
  exact found

/-- **Every search for a key ends, in the first key that is free.** The search for the key at a
place tries at most as many keys in vain as there are places before it. It ends in the plain key of
the database if that is none of the keys before it, and else in the one with the least number from
two on that makes none of them. Further databases change none of these keys. -/
theorem searches_end (databases further : List String) :
    (∀ place : Fin databases.length,
      let earlier := (keys databases).take place
      let base := baseKey databases[place]
      rejections earlier base 0 ≤ place ∧
        ∃ key, (keys databases)[(place : Nat)]? = some key ∧
          Found earlier base (rejections earlier base 0) key) ∧
    (keys databases).length = databases.length ∧
    keys databases <+: keys (databases ++ further) := by
  refine ⟨fun place => ?_, length_keys databases, keys_prefix databases further⟩
  have bounded := rejections_le_length ((keys databases).take place) (baseKey databases[place])
  exact ⟨bounded.trans (List.length_take_le _ _), _, getElem?_keys databases place,
    found_freshKey _ _⟩

/-- Names that make the same key, and one whose key is a numbered one of theirs. -/
example : keys ["sales db", "sales_db", "sales_db-2", "sales db"] =
    ["push-sales_db", "push-sales_db-2", "push-sales_db-2-2", "push-sales_db-3"] := by
  decide +kernel

end FleetSchema.Job
