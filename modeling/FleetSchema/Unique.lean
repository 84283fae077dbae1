/-
**Lists without repetition.**

* `unique`: the items of a list, each at its first place;
* `FirstAppearances`: what that means, and `firstAppearances_unique`: that it is so.
-/

namespace FleetSchema

variable {α : Type}

/-- The items of a list without those that are the same as an earlier one. -/
def uniqueBy (same : α → α → Bool) : List α → List α
  | [] => []
  | item :: rest => item :: (uniqueBy same rest).filter fun other => !same item other

/-- The items of a list without repetition, each at its first place. -/
def unique [BEq α] (items : List α) : List α := uniqueBy (· == ·) items

theorem mem_unique [BEq α] [LawfulBEq α] {item : α} {items : List α} :
    item ∈ unique items ↔ item ∈ items := by
  unfold unique
  induction items with
  | nil => simp [uniqueBy]
  | cons first rest ih =>
    by_cases equal : item = first
    · simp [uniqueBy, equal]
    · have different : first ≠ item := fun same => equal same.symm
      simp [uniqueBy, ih, equal, different]

theorem nodup_unique [BEq α] [LawfulBEq α] (items : List α) : (unique items).Nodup := by
  unfold unique
  induction items with
  | nil => simp [uniqueBy]
  | cons first rest ih =>
    rw [uniqueBy, List.nodup_cons]
    exact ⟨by simp, ih.filter _⟩

/-- Items without repetition are their own. -/
theorem unique_of_nodup [BEq α] [LawfulBEq α] {items : List α} (distinct : items.Nodup) :
    unique items = items := by
  unfold unique
  induction items with
  | nil => rfl
  | cons first rest ih =>
    obtain ⟨fresh, others⟩ := List.nodup_cons.mp distinct
    rw [uniqueBy, ih others]
    congr 1
    refine List.filter_eq_self.mpr fun other member => ?_
    rw [Bool.not_eq_true', beq_eq_false_iff_ne]
    exact fun same => fresh (same ▸ member)

/-- An item behind others is new unless it is one of them. -/
theorem unique_snoc [BEq α] [LawfulBEq α] (items : List α) (item : α) :
    unique (items ++ [item]) =
      if items.contains item then unique items else unique items ++ [item] := by
  unfold unique
  induction items with
  | nil => rfl
  | cons first rest ih =>
    have split : uniqueBy (· == ·) (first :: rest ++ [item]) =
        first :: (uniqueBy (· == ·) (rest ++ [item])).filter fun other => !first == other := rfl
    rw [split, ih, uniqueBy, List.contains_cons]
    by_cases isFirst : item = first
    · subst isFirst
      rw [beq_self_eq_true, Bool.true_or, if_pos rfl]
      split
      · rfl
      · simp
    · have different : (item == first) = false := beq_eq_false_iff_ne.mpr isFirst
      have unlike : first ≠ item := fun same => isFirst same.symm
      rw [different, Bool.false_or]
      split
      · rfl
      · simp [unlike]

/-- Repetitions are told apart as before when items are put in another form. -/
theorem uniqueBy_map {β : Type} {same : α → α → Bool} {alike : β → β → Bool} {form : α → β}
    (asBefore : ∀ first second, alike (form first) (form second) = same first second)
    (items : List α) : uniqueBy alike (items.map form) = (uniqueBy same items).map form := by
  induction items with
  | nil => rfl
  | cons item rest ih =>
    rw [List.map_cons, uniqueBy, uniqueBy, ih, List.filter_map, List.map_cons]
    congr 3
    funext other
    exact congrArg _ (asBefore item other)

/-! ### First appearances -/

/-- A list has the items of another one, each once, in the order in which they appear there first.
-/
structure FirstAppearances [BEq α] (items firsts : List α) : Prop where
  mem_iff : ∀ item, item ∈ firsts ↔ item ∈ items
  nodup : firsts.Nodup
  inOrder : firsts.Pairwise fun first later => items.idxOf first < items.idxOf later

theorem firstAppearances_unique [BEq α] [LawfulBEq α] (items : List α) :
    FirstAppearances items (unique items) := by
  refine ⟨fun _ => mem_unique, nodup_unique items, ?_⟩
  induction items with
  | nil => exact .nil
  | cons first rest ih =>
    have behind : ∀ other ∈ (unique rest).filter fun other => !first == other,
        (first :: rest).idxOf other = rest.idxOf other + 1 := by
      intro other member
      have different : (!first == other) = true := (List.mem_filter.mp member).2
      rw [List.idxOf_cons, (Bool.not_eq_true' _).mp different, cond_false]
    refine List.pairwise_cons.mpr ⟨fun other member => ?_, ?_⟩
    · rw [List.idxOf_cons_self, behind other member]
      exact Nat.succ_pos _
    · refine (ih.filter _).imp_of_mem fun isFirst isLater before => ?_
      rw [behind _ isFirst, behind _ isLater]
      exact Nat.succ_lt_succ before

end FleetSchema
