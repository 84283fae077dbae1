/-
**A page of text that is being written.**

A page knows the column where it goes on, whether what comes next is set off by a blank already, and
whether nothing but indentation stands on its line.

* `put`, `mark`: write text, and write a mark of structure;
* `newLine`, `toIndent`: end the line, and go to an indentation.
-/

namespace FleetSchema.Yaml

/-- A page of text that is being written. -/
structure Page where
  text : String
  column : Nat
  spaced : Bool
  indented : Bool
  deriving DecidableEq, Repr

namespace Page

/-- The empty page. -/
def blank : Page := ⟨"", 0, true, true⟩

/-- The column beyond which a text is broken at its next blank. -/
def width : Nat := 80

/-- Write text. -/
def put (page : Page) (text : String) : Page :=
  { page with text := page.text ++ text, column := page.column + text.length }

/-- Write a mark of structure, set off by a blank where that is needed. A mark of a block keeps the
indentation open. -/
def mark (page : Page) (text : String) (setOff spaced block : Bool) : Page :=
  { page.put (if page.spaced || !setOff then text else " " ++ text) with
    spaced := spaced
    indented := page.indented && block }

/-- End the line. -/
def newLine (page : Page) : Page := ⟨page.text ++ "\n", 0, true, true⟩

/-- Fill the line with blanks up to a column. -/
def fill (page : Page) (column : Nat) : Page :=
  if page.column < column then
    { page.put (String.ofList (List.replicate (column - page.column) ' ')) with spaced := true }
  else page

/-- Go to an indentation, on the same line if nothing but a shorter indentation stands on it. -/
def toIndent (page : Page) (column : Nat) : Page :=
  if !page.indented || column < page.column || (page.column == column && !page.spaced) then
    page.newLine.fill column
  else page.fill column

/-- Whether the page is written beyond its width. -/
def isFull (page : Page) : Bool := decide (width < page.column)

end Page

end FleetSchema.Yaml
