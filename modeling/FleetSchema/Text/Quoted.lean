/-
**Quoted text.**

A text is shown between quotation marks, with single marks unless it holds a single mark and no
double one. The backslash and the mark itself are escaped, tab, line feed and carriage return have
short escapes, and every character that is not printable is written by its code point in two, four
or eight hexadecimal digits.

* `quote`: a text between its marks.
-/

import FleetSchema.Text.Printable

namespace FleetSchema.Text

/-- The hexadecimal digits of a number, in lower case, with zeros in front up to a width. -/
def hexPadded (width value : Nat) : String :=
  let digits := Nat.toDigits 16 value
  String.ofList (List.replicate (width - digits.length) '0' ++ digits)

/-- The hexadecimal digits of a number, in upper case, with zeros in front up to a width. -/
def hexPaddedUpper (width value : Nat) : String := (hexPadded width value).map Char.toUpper

/-- The mark that encloses a text. -/
def quoteMark (text : String) : Char :=
  if text.toList.contains '\'' && !text.toList.contains '"' then '"' else '\''

/-- A character as it stands between two marks. -/
def quoteChar (mark letter : Char) : String :=
  if letter == mark || letter == '\\' then "\\" ++ letter.toString
  else if letter == '\t' then "\\t"
  else if letter == '\n' then "\\n"
  else if letter == '\r' then "\\r"
  else if isPrintable letter then letter.toString
  else if letter.toNat < 0x100 then "\\x" ++ hexPadded 2 letter.toNat
  else if letter.toNat < 0x10000 then "\\u" ++ hexPadded 4 letter.toNat
  else "\\U" ++ hexPadded 8 letter.toNat

/-- A text between quotation marks. -/
def quote (text : String) : String :=
  let mark := quoteMark text
  mark.toString ++ String.join (text.toList.map (quoteChar mark)) ++ mark.toString

end FleetSchema.Text
