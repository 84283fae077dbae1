/-
**Rows of character names.**

The names of consecutive code points often begin alike. A row keeps the common beginning once, and
then the rest of each name, several to a line and divided by commas; an empty rest stands for a code
point without a name.

* `NameRow.find?`: the code point of a name in a row.
-/

namespace FleetSchema.Pattern

/-- The names of consecutive code points, from a first one on. -/
structure NameRow where
  first : Nat
  lead : String
  lines : List String

/-- What follows the common beginning in the names of a row. -/
def NameRow.endings (row : NameRow) : List String := row.lines.flatMap (·.splitOn ",")

/-- The code point of a name in a row. -/
def NameRow.find? (row : NameRow) (name : List Char) : Option Nat :=
  match row.lead.toList.isPrefixOf? name with
  | none | some [] => none
  | some ending => (row.endings.findIdx? (· == String.ofList ending)).map (row.first + ·)

end FleetSchema.Pattern
