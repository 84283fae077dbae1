/-
**Sets of code points as boundary lists.**

A set of code points is stored as the increasing list of the points at which membership changes:
a point belongs to the set when an odd number of boundaries lie at or below it.

* `Ranges.contains`: membership by halving;
* `Ranges.rank_le`: the number of boundaries found never exceeds the number stored;
* `Ranges.exists_pair_of_contains`: a member lies between the two boundaries of a pair.
-/

namespace FleetSchema.Text

/-- The points at which membership of a set changes, in increasing order. -/
structure Ranges where
  bounds : Array Nat

namespace Ranges

/-- The number of boundaries at or below a point, sought between two indices by halving. -/
def rankBetween (bounds : Array Nat) (point low high : Nat) : Nat :=
  if low < high then
    let middle := (low + high) / 2
    if bounds.getD middle 0 ≤ point then rankBetween bounds point (middle + 1) high
    else rankBetween bounds point low middle
  else low
termination_by high - low

/-- The number of boundaries at or below a point. -/
def rank (set : Ranges) (point : Nat) : Nat := rankBetween set.bounds point 0 set.bounds.size

/-- A point is a member when an odd number of boundaries lie at or below it. -/
def contains (set : Ranges) (point : Nat) : Bool := set.rank point % 2 == 1

theorem rankBetween_le (bounds : Array Nat) (point low high : Nat) (ordered : low ≤ high) :
    rankBetween bounds point low high ≤ high := by
  fun_induction rankBetween bounds point low high with
  | case1 low high below middle reached ih => exact ih (by omega)
  | case2 low high below middle missed ih => exact Nat.le_trans (ih (by omega)) (by omega)
  | case3 low high stopped => omega

theorem le_rankBetween (bounds : Array Nat) (point low high : Nat) :
    low ≤ rankBetween bounds point low high := by
  fun_induction rankBetween bounds point low high with
  | case1 low high below middle reached ih => omega
  | case2 low high below middle missed ih => exact ih
  | case3 low high stopped => exact Nat.le_refl low

/-- The boundary before the number that is found lies at or below the point, and the one behind it
lies above the point. -/
theorem rankBetween_spec (bounds : Array Nat) (point low high : Nat) (ordered : low ≤ high) :
    let rank := rankBetween bounds point low high
    (low < rank → bounds.getD (rank - 1) 0 ≤ point) ∧
      (rank < high → point < bounds.getD rank 0) := by
  fun_induction rankBetween bounds point low high with
  | case1 low high below middle reached ih =>
    obtain ⟨before, behind⟩ := ih (by omega)
    refine ⟨fun _ => ?_, behind⟩
    rcases Nat.eq_or_lt_of_le (le_rankBetween bounds point (middle + 1) high) with still | moved
    · rw [← still]
      exact reached
    · exact before moved
  | case2 low high below middle missed ih =>
    obtain ⟨before, behind⟩ := ih (by omega)
    refine ⟨before, fun _ => ?_⟩
    rcases Nat.eq_or_lt_of_le (rankBetween_le bounds point low middle (by omega)) with still | moved
    · rw [still]
      exact Nat.lt_of_not_le missed
    · exact behind moved
  | case3 low high stopped =>
    exact ⟨fun moved => absurd moved (Nat.lt_irrefl low), fun found => absurd found stopped⟩

theorem rank_le (set : Ranges) (point : Nat) : set.rank point ≤ set.bounds.size :=
  rankBetween_le _ _ _ _ (Nat.zero_le _)

/-- A member lies between the two boundaries of a pair. -/
theorem exists_pair_of_contains {set : Ranges} {point : Nat} (even : set.bounds.size % 2 = 0)
    (inside : set.contains point = true) : ∃ pair, 2 * pair + 1 < set.bounds.size ∧
      set.bounds.getD (2 * pair) 0 ≤ point ∧ point < set.bounds.getD (2 * pair + 1) 0 := by
  have odd : set.rank point % 2 = 1 := by simpa [contains] using inside
  obtain ⟨before, behind⟩ :=
    rankBetween_spec set.bounds point 0 set.bounds.size (Nat.zero_le _)
  have least := set.rank_le point
  change 0 < set.rank point → set.bounds.getD (set.rank point - 1) 0 ≤ point at before
  change set.rank point < set.bounds.size → point < set.bounds.getD (set.rank point) 0 at behind
  obtain ⟨pair, isRank⟩ : ∃ pair, set.rank point = 2 * pair + 1 := ⟨set.rank point / 2, by omega⟩
  rw [isRank] at before behind least
  refine ⟨pair, by omega, before (by omega), behind (by omega)⟩

end Ranges

end FleetSchema.Text
