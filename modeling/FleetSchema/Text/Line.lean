/-
**Lines.**

A text is cut into lines at every line boundary of Unicode and at the separators of files, groups
and records; a carriage return with the line feed behind it is one boundary. A text read from a
file keeps one kind of line end only: a carriage return, with or without a line feed, is read as a
line feed.

* `lines`: the lines of a text;
* `unifyLineEnds`: a text as it is read from a file.
-/

namespace FleetSchema.Text

/-- A character that ends a line. -/
def isLineEnd (letter : Char) : Bool :=
  letter == '\n' || letter == '\r' || letter == '\x0b' || letter == '\x0c' ||
  letter == '\x1c' || letter == '\x1d' || letter == '\x1e' || letter == '\u0085' ||
  letter == '\u2028' || letter == '\u2029'

/-- The lines of a text whose current line holds `open`, latest character first. -/
def linesFrom (current : List Char) : List Char → List (List Char)
  | [] => if current.isEmpty then [] else [current.reverse]
  | '\r' :: '\n' :: rest => current.reverse :: linesFrom [] rest
  | letter :: rest =>
    if isLineEnd letter then current.reverse :: linesFrom [] rest
    else linesFrom (letter :: current) rest

/-- The lines of a text, without their ends; a last line that is empty is not counted. -/
def lines (text : String) : List String := (linesFrom [] text.toList).map String.ofList

/-- Read every carriage return, with or without a line feed behind it, as a line feed. -/
def unifyLineEndChars : List Char → List Char
  | [] => []
  | '\r' :: '\n' :: rest => '\n' :: unifyLineEndChars rest
  | letter :: rest => (if letter = '\r' then '\n' else letter) :: unifyLineEndChars rest

/-- Read every line end of a text as a line feed. -/
def unifyLineEnds (text : String) : String := String.ofList (unifyLineEndChars text.toList)

end FleetSchema.Text
