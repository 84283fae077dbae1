/-
**Decimal digits of all scripts.**

Unicode 14 holds its decimal digits in rows of ten, from the digit zero to the digit nine, and the
value of a digit is its place in the row.

* `digitValue?_lt`: the value of a digit is below ten.
-/

namespace FleetSchema.Text

/-- The digits zero, one for each row of ten digits. -/
def digitZeros : Array Nat := #[
  0x30, 0x660, 0x6f0, 0x7c0, 0x966, 0x9e6, 0xa66, 0xae6, 0xb66, 0xbe6, 0xc66, 0xce6, 0xd66,
  0xde6, 0xe50, 0xed0, 0xf20, 0x1040, 0x1090, 0x17e0, 0x1810, 0x1946, 0x19d0, 0x1a80, 0x1a90,
  0x1b50, 0x1bb0, 0x1c40, 0x1c50, 0xa620, 0xa8d0, 0xa900, 0xa9d0, 0xa9f0, 0xaa50, 0xabf0,
  0xff10, 0x104a0, 0x10d30, 0x11066, 0x110f0, 0x11136, 0x111d0, 0x112f0, 0x11450, 0x114d0,
  0x11650, 0x116c0, 0x11730, 0x118e0, 0x11950, 0x11c50, 0x11d50, 0x11da0, 0x16a60, 0x16ac0,
  0x16b50, 0x1d7ce, 0x1d7d8, 0x1d7e2, 0x1d7ec, 0x1d7f6, 0x1e140, 0x1e2f0, 0x1e950, 0x1fbf0]

/-- The last row that starts at or below a point, sought between two indices by halving. -/
def digitRowBetween (point low high : Nat) : Nat :=
  if low < high then
    let middle := (low + high) / 2
    if digitZeros.getD middle 0 ≤ point then digitRowBetween point (middle + 1) high
    else digitRowBetween point low middle
  else low
termination_by high - low

/-- The value of a decimal digit of any script. -/
def digitValue? (letter : Char) : Option Nat :=
  match digitRowBetween letter.toNat 0 digitZeros.size with
  | 0 => none
  | row + 1 =>
    let value := letter.toNat - digitZeros.getD row 0
    if value < 10 then some value else none

/-- A decimal digit of any script. -/
def isDigit (letter : Char) : Bool := (digitValue? letter).isSome

theorem digitValue?_lt {letter : Char} {value : Nat} (digit : digitValue? letter = some value) :
    value < 10 := by
  unfold digitValue? at digit
  split at digit
  · cases digit
  · dsimp only at digit
    split at digit
    · rename_i below
      cases digit
      exact below
    · cases digit

end FleetSchema.Text
