/-
**Numerals in settings and documents.**

A numeral may stand between blanks, other than the four separators of files, groups, records and
units, and may use the decimal digits of any script. Single low lines may separate digits. A whole
numeral has at most 4300 digits.

* `integer?`: a whole numeral;
* `decimal?`: a decimal numeral, an infinity or not-a-number.
-/

import FleetSchema.Number.Double
import FleetSchema.Text.Blank
import FleetSchema.Text.Digit

namespace FleetSchema.Numeral

open FleetSchema.Text

/-- The most digits that a whole numeral may have. -/
def digitLimit : Nat := 4300

/-- The wording for a whole numeral with too many digits. -/
def tooLongMessage (digits : Nat) : String :=
  "Exceeds the limit (" ++ toString digitLimit ++
    " digits) for integer string conversion: value has " ++ toString digits ++
    " digits; use sys.set_int_max_str_digits() to increase the limit"

/-- Replace the decimal digits of all scripts by those of ASCII. -/
def plainDigits (letters : List Char) : List Char :=
  letters.map fun letter =>
    match digitValue? letter with
    | some value => Char.ofNat (48 + value)
    | none => letter

/-- A character that may stand beside a numeral. -/
def isMargin (letter : Char) : Bool :=
  isBlank letter && !(0x1c ≤ letter.toNat && letter.toNat ≤ 0x1f)

/-- Drop what may stand beside a numeral at both ends. -/
def trimMargins (letters : List Char) : List Char :=
  dropTail isMargin (letters.dropWhile isMargin)

/-- Take a sign off the front. -/
def takeSign : List Char → Bool × List Char
  | '-' :: rest => (true, rest)
  | '+' :: rest => (false, rest)
  | letters => (false, letters)

/-- Digits with single low lines between them, and what follows the longest such run. A low line
that no digit follows ends the run. -/
def takeDigits : List Char → List Char × List Char
  | letter :: '_' :: next :: after =>
    if letter.isDigit && next.isDigit then
      let (digits, left) := takeDigits (next :: after)
      (letter :: digits, left)
    else if letter.isDigit then ([letter], '_' :: next :: after)
    else ([], letter :: '_' :: next :: after)
  | letter :: rest =>
    if letter.isDigit then
      let (digits, left) := takeDigits rest
      (letter :: digits, left)
    else ([], letter :: rest)
  | [] => ([], [])

/-- The value of ASCII digits. -/
def digitsValue (digits : List Char) : Nat :=
  digits.foldl (fun value digit => value * 10 + (digit.toNat - 48)) 0

/-- The integer that a text is a numeral of. -/
def integer? (text : String) : Option Int :=
  let (negative, letters) := takeSign (plainDigits (trimMargins text.toList))
  let (digits, rest) := takeDigits letters
  if digits.isEmpty || !rest.isEmpty || digitLimit < digits.length then none
  else
    let size : Int := digitsValue digits
    some (if negative then -size else size)

/-- The exponent of a numeral, when one is written. -/
def takeExponent (letters : List Char) : Int × List Char :=
  match letters with
  | mark :: rest =>
    if mark == 'e' || mark == 'E' then
      let (negative, after) := takeSign rest
      let (digits, left) := takeDigits after
      if digits.isEmpty then (0, letters)
      else
        let size : Int := digitsValue digits
        (if negative then -size else size, left)
    else (0, letters)
  | [] => (0, [])

/-- The number written without its sign. -/
def unsignedDecimal? (negative : Bool) (letters : List Char) : Option Double :=
  let word := letters.map Char.toLower
  if word == "inf".toList || word == "infinity".toList then some (.infinite negative)
  else if word == "nan".toList then some .nan
  else
    let (whole, rest) := takeDigits letters
    let (part, rest) :=
      match rest with
      | '.' :: after => takeDigits after
      | _ => ([], rest)
    if whole.isEmpty && part.isEmpty then none
    else
      let (power, rest) := takeExponent rest
      if rest.isEmpty then
        some (Double.ofDecimal negative (digitsValue (whole ++ part)) (power - part.length))
      else none

/-- The number that a text is a numeral of. -/
def decimal? (text : String) : Option Double :=
  let (negative, letters) := takeSign (plainDigits (trimMargins text.toList))
  unsignedDecimal? negative letters

/-- The number that a text in plain notation shows; not-a-number when it shows none. -/
def ofNotation (text : String) : Double := (decimal? text).getD .nan

end FleetSchema.Numeral
