/-
**Numbers that tell names apart.**

A name that has to be new gets a number. Different numbers make different names, so among more
numbers than there are names taken one makes a name that is not.

* `exists_not_mem`: such a number;
* `numbered_injective`: the numbers of files are written in different ways.
-/

import FleetSchema.FileTree
import Mathlib.Data.List.Nodup

namespace FleetSchema

/-- Among more numbers than there are items taken, one stands for an item that is not. -/
theorem exists_not_mem {α : Type} {named : Nat → α} (injective : Function.Injective named)
    (taken : List α) : ∃ number ∈ List.range (taken.length + 1), named number ∉ taken := by
  by_contra none
  have all : (List.range (taken.length + 1)).map named ⊆ taken := by
    intro item member
    obtain ⟨number, isNumber, rfl⟩ := List.mem_map.mp member
    by_contra free
    exact none ⟨number, isNumber, free⟩
  have few := List.Nodup.length_le_of_subset (List.nodup_range.map injective) all
  rw [List.length_map, List.length_range] at few
  omega

namespace FileTree

theorem toList_numbered (number : Nat) : (numbered number).toList =
    List.replicate (8 - (toString number).length) '0' ++ Nat.toDigits 10 number := by
  unfold numbered
  rw [String.toList_append, String.toList_ofList, Nat.toString_eq_repr, Nat.toList_repr]

/-- Different numbers are written in different ways. -/
theorem numbered_injective : Function.Injective numbered := by
  have value (number : Nat) : Nat.ofDigitChars 10 (numbered number).toList 0 = number := by
    rw [toList_numbered, Nat.ofDigitChars_append, Nat.ofDigitChars_replicate_zero, Nat.mul_zero,
      Nat.ofDigitChars_ten_toDigits]
  intro first second same
  rw [← value first, same, value second]

theorem slash_not_mem_numbered (number : Nat) : '/' ∉ (numbered number).toList := by
  rw [toList_numbered]
  intro member
  rcases List.mem_append.mp member with zero | digit
  · cases List.eq_of_mem_replicate zero
  · cases Nat.isDigit_of_mem_toDigits (by decide) (by decide) digit

end FileTree

end FleetSchema
