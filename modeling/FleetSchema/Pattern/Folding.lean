/-
**Letter case in patterns.**

Without regard to case, a character is compared by its lower form. A few lower forms share their
upper form with others and stand for them too, as the long s does for the short one.

* `lowered`: a code point as it is compared;
* `companions`: the lower forms that stand for one another.
-/

import FleetSchema.Text.LetterCase

namespace FleetSchema.Pattern

/-- How characters are compared: as they are, or by the lower forms of one of two alphabets. -/
inductive Folding where
  | exact
  | ascii
  | unicode
  deriving DecidableEq, Repr

/-- A code point moved by a map of characters; a point that is no character stays. -/
def mapPoint (map : Char → Char) (point : Nat) : Nat :=
  if point.isValidChar then (map (Char.ofNat point)).toNat else point

/-- A code point as it is compared. -/
def lowered (folding : Folding) (point : Nat) : Nat :=
  match folding with
  | .exact => point
  | .ascii => if 65 ≤ point && point ≤ 90 then point + 32 else point
  | .unicode => mapPoint Text.lowerChar point

/-- The first character of the upper form of a code point. -/
def raised (point : Nat) : Nat := mapPoint Text.upperChar point

/-- Whether a code point has letter case. -/
def cased (folding : Folding) (point : Nat) : Bool :=
  match folding with
  | .exact => false
  | .ascii => (65 ≤ point && point ≤ 90) || (97 ≤ point && point ≤ 122)
  | .unicode => lowered .unicode point != point || raised point != point

/-- The lower forms that share their upper form with another one. -/
def companionTable : List (Nat × List Nat) := [
  (0x69, [0x131]), (0x73, [0x17f]), (0xb5, [0x3bc]), (0x131, [0x69]), (0x17f, [0x73]),
  (0x345, [0x3b9, 0x1fbe]), (0x390, [0x1fd3]), (0x3b0, [0x1fe3]), (0x3b2, [0x3d0]),
  (0x3b5, [0x3f5]), (0x3b8, [0x3d1]), (0x3b9, [0x345, 0x1fbe]), (0x3ba, [0x3f0]),
  (0x3bc, [0xb5]), (0x3c0, [0x3d6]), (0x3c1, [0x3f1]), (0x3c2, [0x3c3]), (0x3c3, [0x3c2]),
  (0x3c6, [0x3d5]), (0x3d0, [0x3b2]), (0x3d1, [0x3b8]), (0x3d5, [0x3c6]), (0x3d6, [0x3c0]),
  (0x3f0, [0x3ba]), (0x3f1, [0x3c1]), (0x3f5, [0x3b5]), (0x432, [0x1c80]), (0x434, [0x1c81]),
  (0x43e, [0x1c82]), (0x441, [0x1c83]), (0x442, [0x1c84, 0x1c85]), (0x44a, [0x1c86]),
  (0x463, [0x1c87]), (0x1c80, [0x432]), (0x1c81, [0x434]), (0x1c82, [0x43e]),
  (0x1c83, [0x441]), (0x1c84, [0x442, 0x1c85]), (0x1c85, [0x442, 0x1c84]), (0x1c86, [0x44a]),
  (0x1c87, [0x463]), (0x1c88, [0xa64b]), (0x1e61, [0x1e9b]), (0x1e9b, [0x1e61]),
  (0x1fbe, [0x345, 0x3b9]), (0x1fd3, [0x390]), (0x1fe3, [0x3b0]), (0xa64b, [0x1c88]),
  (0xfb05, [0xfb06]), (0xfb06, [0xfb05])]

/-- The lower forms that stand for a lower form, besides itself. -/
def companions (folding : Folding) (point : Nat) : List Nat :=
  match folding with
  | .unicode => ((companionTable.find? (·.1 == point)).map (·.2)).getD []
  | _ => []

end FleetSchema.Pattern
