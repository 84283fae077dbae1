/-
**What trimming takes off the end.**

* `dropTail_eq_rdropWhile`: it is what the library drops on the right;
* `dropTail_append_cons`: it ends behind the last character outside the class;
* `exists_dropTail_append`: all that it takes away is in the class;
* `dropTail_eq_self_iff`: when it takes nothing away.
-/

import FleetSchema.Text.Blank
import Mathlib.Data.List.DropRight

namespace FleetSchema.Text

theorem dropTail_eq_rdropWhile (member : Char → Bool) (letters : List Char) :
    dropTail member letters = letters.rdropWhile member := by
  induction letters using List.reverseRecOn with
  | nil => rfl
  | append_singleton start last ih =>
    by_cases inside : member last = true
    · rw [List.rdropWhile_concat_pos _ _ _ inside, ← ih]
      refine dropTail_append_of_all member start [last] ?_
      rw [List.all_cons, inside]
      rfl
    · rw [List.rdropWhile_concat_neg _ _ _ inside]
      exact dropTail_append_of_not member start (Bool.not_eq_true _ ▸ inside)

theorem dropTail_isPrefixOf (member : Char → Bool) (letters : List Char) :
    dropTail member letters <+: letters := by
  rw [dropTail_eq_rdropWhile]
  exact List.rdropWhile_prefix _ _

theorem dropTail_eq_nil_iff {member : Char → Bool} {letters : List Char} :
    dropTail member letters = [] ↔ ∀ letter ∈ letters, member letter = true := by
  rw [dropTail_eq_rdropWhile]
  exact List.rdropWhile_eq_nil_iff

/-- Nothing is dropped when the last character is outside the class. -/
theorem dropTail_eq_self_iff (member : Char → Bool) (letters : List Char) :
    dropTail member letters = letters ↔ letters.getLast?.any member = false := by
  rw [dropTail_eq_rdropWhile, List.rdropWhile_eq_self_iff]
  rcases letters.eq_nil_or_concat with rfl | ⟨start, last, rfl⟩
  · simp
  · simp

/-- Nothing is left to be dropped behind dropping. -/
theorem any_getLast?_dropTail (member : Char → Bool) (letters : List Char) :
    (dropTail member letters).getLast?.any member = false := by
  rw [← dropTail_eq_self_iff, dropTail_eq_rdropWhile, dropTail_eq_rdropWhile,
    List.rdropWhile_idempotent]

/-- Dropping from the end what all of a part is, in front of which something else stands. -/
theorem dropTail_append_cons (member : Char → Bool) (start : List Char) {last : Char}
    {tail : List Char} (outside : member last = false) (inside : tail.all member = true) :
    dropTail member (start ++ last :: tail) = start ++ [last] := by
  rw [← List.singleton_append, ← List.append_assoc, dropTail_append_of_all _ _ _ inside,
    dropTail_append_of_not _ _ outside]

/-- What is dropped from the end stands behind what is kept. -/
theorem exists_dropTail_append (member : Char → Bool) (letters : List Char) :
    ∃ tail, letters = dropTail member letters ++ tail ∧ tail.all member = true := by
  refine ⟨letters.rtakeWhile member, ?_, ?_⟩
  · rw [dropTail_eq_rdropWhile, List.rdropWhile_append_rtakeWhile]
  · exact List.all_eq_true.mpr fun letter behind => List.mem_rtakeWhile_imp behind

end FleetSchema.Text
