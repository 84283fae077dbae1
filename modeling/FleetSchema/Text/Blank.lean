/-
**Blank characters and trimming.**

A character is blank when it separates words: the ASCII blanks, the four separators of files,
groups, records and units, the next-line control, and every space separator, line separator and
paragraph separator of Unicode 14.

* `isBlank`, `trim`: blank characters, and a text without those around it;
* `dropTail_append_of_all`: characters of a class are dropped from the end.
-/

import FleetSchema.Text.Ranges

namespace FleetSchema.Text

/-- The boundaries of the blank characters. -/
def blankRanges : Ranges := ⟨#[
  0x9, 0xe, 0x1c, 0x21, 0x85, 0x86, 0xa0, 0xa1, 0x1680, 0x1681, 0x2000, 0x200b, 0x2028, 0x202a,
  0x202f, 0x2030, 0x205f, 0x2060, 0x3000, 0x3001]⟩

/-- A character that separates words. -/
def isBlank (letter : Char) : Bool := blankRanges.contains letter.toNat

/-- Drop the characters of a class from the end. -/
def dropTail (member : Char → Bool) : List Char → List Char
  | [] => []
  | letter :: rest =>
    match dropTail member rest with
    | [] => if member letter then [] else [letter]
    | kept => letter :: kept

/-- Drop the blanks at both ends. -/
def trimChars (letters : List Char) : List Char := dropTail isBlank (letters.dropWhile isBlank)

/-- Drop the blanks at both ends of a text. -/
def trim (text : String) : String := String.ofList (trimChars text.toList)

/-! ### What trimming keeps -/

theorem dropTail_append_of_not (member : Char → Bool) (start : List Char) {last : Char}
    (outside : member last = false) : dropTail member (start ++ [last]) = start ++ [last] := by
  induction start with
  | nil => simp [dropTail, outside]
  | cons first rest ih =>
    rw [List.cons_append, dropTail, ih]
    cases rest <;> rfl

theorem dropTail_append_of_all (member : Char → Bool) (start tail : List Char)
    (inside : tail.all member = true) :
    dropTail member (start ++ tail) = dropTail member start := by
  induction start with
  | nil =>
    induction tail with
    | nil => rfl
    | cons first rest ih =>
      simp only [List.all_cons, Bool.and_eq_true] at inside
      have smaller := ih inside.2
      simp only [List.nil_append, dropTail] at smaller ⊢
      simp [smaller, inside.1]
  | cons first rest ih => simp [dropTail, ih]

end FleetSchema.Text
