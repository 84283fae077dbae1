/-
**Double-precision numbers.**

A number is not a number, an infinity of either sign, or a signed significand times a power of two.
A decimal is rounded to the nearest number, a tie to the even significand; a number is written with
the fewest digits that read back, and of those the nearest.

* `ofRatio`: the nearest number to a fraction;
* `shortest`: the fewest digits that read back;
* `toText`: positional below `10^16` and from `10^-4` on, scientific otherwise.
-/

namespace FleetSchema

/-- A double-precision number; a finite one is `significand * 2 ^ exponent` with its sign. -/
inductive Double where
  | nan
  | infinite (negative : Bool)
  | finite (negative : Bool) (significand : Nat) (exponent : Int)
  deriving DecidableEq, Repr

namespace Double

/-- A power of two. -/
def twoTo (exponent : Nat) : Nat := Nat.pow 2 exponent

/-- A power of ten. -/
def tenTo (exponent : Nat) : Nat := Nat.pow 10 exponent

/-- The exponent of the smallest numbers. -/
def leastExponent : Int := -1074

/-- The exponent of the largest numbers. -/
def greatestExponent : Int := 971

/-- Zero of either sign. -/
def zero (negative : Bool) : Double := .finite negative 0 leastExponent

/-! ### Rounding a fraction -/

/-- A quotient rounded to the nearest integer, a tie to the even one. -/
def roundDiv (numerator denominator : Nat) : Nat :=
  let floor := numerator / denominator
  let twice := 2 * (numerator % denominator)
  if twice < denominator || (twice == denominator && floor % 2 == 0) then floor else floor + 1

/-- A fraction divided by a power of two, as a fraction. -/
def scaled (numerator denominator : Nat) (exponent : Int) : Nat × Nat :=
  if 0 ≤ exponent then (numerator, denominator * twoTo exponent.toNat)
  else (numerator * twoTo (-exponent).toNat, denominator)

/-- The exponent with which the significand of a fraction has 53 bits, or the least one. -/
def fittingExponent (numerator denominator : Nat) : Int :=
  let guess := max ((numerator.log2 : Int) - denominator.log2 - 53) leastExponent
  let (top, bottom) := scaled numerator denominator guess
  if twoTo 53 ≤ top / bottom then guess + 1 else guess

/-- The number nearest to a fraction. -/
def ofRatio (negative : Bool) (numerator denominator : Nat) : Double :=
  if numerator == 0 then zero negative
  else
    let exponent := fittingExponent numerator denominator
    let (top, bottom) := scaled numerator denominator exponent
    let rounded := roundDiv top bottom
    let (significand, exponent) :=
      if rounded == twoTo 53 then (twoTo 52, exponent + 1) else (rounded, exponent)
    if greatestExponent < exponent then .infinite negative
    else if significand == 0 then zero negative
    else .finite negative significand exponent

/-- The number nearest to `digits * 10 ^ power`. Powers far out of range are settled by the number
of digits alone. -/
def ofDecimal (negative : Bool) (digits : Nat) (power : Int) : Double :=
  let places : Int := (Nat.toDigits 10 digits).length + power
  if digits == 0 || places < -330 then zero negative
  else if 330 < places then .infinite negative
  else if 0 ≤ power then ofRatio negative (digits * tenTo power.toNat) 1
  else ofRatio negative digits (tenTo (-power).toNat)

/-- The number nearest to an integer. -/
def ofInt (value : Int) : Double := ofRatio (value < 0) value.natAbs 1

/-! ### Comparison -/

/-- The value of a finite number, in units of the least power of two. -/
def units (negative : Bool) (significand : Nat) (exponent : Int) : Int :=
  let size : Int := (significand * twoTo (exponent - leastExponent).toNat : Nat)
  if negative then -size else size

/-- Whether the first number lies below the second; nothing lies below or above what is not a
number. -/
def lt : Double → Double → Bool
  | .nan, _ | _, .nan => false
  | .infinite first, .infinite second => first && !second
  | .infinite first, .finite .. => first
  | .finite .., .infinite second => !second
  | .finite n s e, .finite n' s' e' => units n s e < units n' s' e'

/-- The larger of two numbers; the first one when neither lies above the other. -/
def larger (first second : Double) : Double := if first.lt second then second else first

/-- The integer that a finite number equals, if there is one. -/
def toInt? : Double → Option Int
  | .finite negative significand exponent =>
    let size := units negative significand exponent
    let unit : Int := (twoTo (-leastExponent).toNat : Nat)
    if size % unit == 0 then some (size / unit) else none
  | _ => none

/-- Equal values; zero has one value, and what is not a number equals nothing. -/
def same : Double → Double → Bool
  | .infinite first, .infinite second => first == second
  | .finite n s e, .finite n' s' e' => units n s e == units n' s' e'
  | _, _ => false

/-! ### The fewest digits -/

/-- The decimal digits of a number without its sign and the place of its point: the number is
`0.d₁d₂… * 10 ^ point`. -/
structure Digits where
  digits : List Char
  point : Int

/-- The grid of decimals with a power of ten, as the two neighbours of a fraction on it: the lower
neighbour and whether it is exact. -/
def gridFloor (numerator denominator : Nat) (power : Int) : Nat :=
  if 0 ≤ power then numerator / (denominator * tenTo power.toNat)
  else numerator * tenTo (-power).toNat / denominator

/-- Compare `step * 10 ^ power` with a fraction. -/
def compareGrid (step : Nat) (power : Int) (numerator denominator : Nat) : Ordering :=
  if 0 ≤ power then compare (step * tenTo power.toNat * denominator) numerator
  else compare (step * denominator) (numerator * tenTo (-power).toNat)

/-- The interval of fractions, over a common denominator, that round to a number. -/
structure RoundingInterval where
  low : Nat
  middle : Nat
  high : Nat
  denominator : Nat
  closed : Bool

/-- The fractions that round to a finite number: half way to either neighbour, ends included when
the significand is even. -/
def interval (significand : Nat) (exponent : Int) : RoundingInterval :=
  let narrow := significand == twoTo 52 && leastExponent < exponent
  let shape := fun (low middle high : Nat) =>
    let closed := significand % 2 == 0
    if 2 ≤ exponent then
      let unit := twoTo (exponent - 2).toNat
      (⟨low * unit, middle * unit, high * unit, 1, closed⟩ : RoundingInterval)
    else ⟨low, middle, high, twoTo (2 - exponent).toNat, closed⟩
  shape (4 * significand - (if narrow then 1 else 2)) (4 * significand) (4 * significand + 2)

/-- Whether a point of a decimal grid rounds to the number of an interval. -/
def readsBack (range : RoundingInterval) (step : Nat) (power : Int) : Bool :=
  let above := compareGrid step power range.low range.denominator
  let below := compareGrid step power range.high range.denominator
  (above == .gt || (range.closed && above == .eq)) &&
    (below == .lt || (range.closed && below == .eq))

/-- The nearest of the two neighbours on a decimal grid that reads back, a tie to the even one. -/
def nearestOnGrid (range : RoundingInterval) (power : Int) : Option Nat :=
  let floor := gridFloor range.middle range.denominator power
  let lower := readsBack range floor power
  let upper := readsBack range (floor + 1) power
  match lower, upper with
  | false, false => none
  | true, false => some floor
  | false, true => some (floor + 1)
  | true, true =>
    match compareGrid (2 * floor + 1) power (2 * range.middle) range.denominator with
    | .lt => some (floor + 1)
    | .gt => some floor
    | .eq => some (if floor % 2 == 0 then floor else floor + 1)

/-- The least power of ten above a fraction, sought upwards from a guess. -/
def decimalPoint (numerator denominator : Nat) (guess : Int) : Nat → Int
  | 0 => guess
  | more + 1 =>
    if compareGrid 1 guess numerator denominator == .gt then guess
    else decimalPoint numerator denominator (guess + 1) more

/-- Drop the zeros at the end. -/
def dropZeros (digits : List Char) : List Char := (digits.reverse.dropWhile (· == '0')).reverse

/-- The fewest digits that read back, tried from one digit to seventeen. -/
def shortest (significand : Nat) (exponent : Int) : Digits :=
  let range := interval significand exponent
  let guess : Int :=
    ((range.middle.log2 : Int) - range.denominator.log2 - 1) * 30103 / 100000 - 1
  let point := decimalPoint range.middle range.denominator guess 5
  let found := (List.range 17).findSome? fun count =>
    let power := point - (count + 1 : Nat)
    (nearestOnGrid range power).map fun step =>
      let digits := Nat.toDigits 10 step
      (⟨dropZeros digits, digits.length + power⟩ : Digits)
  found.getD ⟨['0'], 1⟩

/-! ### Text -/

/-- Digits as text: positional when the point lies from three places before the first digit to
sixteen places after it, otherwise one digit, a fraction and an exponent of at least two digits. -/
def Digits.toText (decimal : Digits) : String :=
  let digits := decimal.digits
  let point := decimal.point
  if -3 ≤ point && point ≤ 16 then
    if point ≤ 0 then
      "0." ++ String.ofList (List.replicate (-point).toNat '0' ++ digits)
    else
      let whole := digits.take point.toNat
      let part := digits.drop point.toNat
      String.ofList (whole ++ List.replicate (point.toNat - whole.length) '0') ++ "." ++
        (if part.isEmpty then "0" else String.ofList part)
  else
    let power := point - 1
    let size := toString power.natAbs
    String.ofList (digits.take 1) ++
      (if digits.length == 1 then "" else "." ++ String.ofList (digits.drop 1)) ++
      "e" ++ (if power < 0 then "-" else "+") ++ (if size.length < 2 then "0" ++ size else size)

/-- The text of a number. -/
def toText : Double → String
  | .nan => "nan"
  | .infinite negative => if negative then "-inf" else "inf"
  | .finite negative significand exponent =>
    (if negative then "-" else "") ++
      (if significand == 0 then "0.0" else (shortest significand exponent).toText)

end Double

end FleetSchema
