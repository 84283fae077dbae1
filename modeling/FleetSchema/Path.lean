/-
**Paths in normal form.**

A path is written with one slash between its parts, without parts that are empty or a single dot,
and without a slash at the end. Two leading slashes are kept, three or more count as one, and the
path with no parts is a dot.

* `ofText`, `toText`: reading and writing a path;
* `join`, `parent`: paths below and above a path;
* `suffix`: the ending of the last part.
-/

namespace FleetSchema

/-- A path: the slashes it starts with, and its parts. -/
structure Path where
  root : String
  parts : List String
  deriving DecidableEq, Repr, Inhabited

namespace Path

/-- The slashes that a path starts with. -/
def rootOf (text : String) : String :=
  match text.toList with
  | '/' :: '/' :: '/' :: _ => "/"
  | '/' :: '/' :: _ => "//"
  | '/' :: _ => "/"
  | _ => ""

/-- The path that a text writes. -/
def ofText (text : String) : Path :=
  ⟨rootOf text,
    ((text.toList.splitOn '/').map String.ofList).filter fun part => !part.isEmpty && part != "."⟩

/-- The text of a path. -/
def toText (path : Path) : String :=
  if path.root.isEmpty && path.parts.isEmpty then "."
  else path.root ++ "/".intercalate path.parts

/-- A path below another one; a path from the root stands for itself. -/
def join (path other : Path) : Path :=
  if other.root.isEmpty then ⟨path.root, path.parts ++ other.parts⟩ else other

/-- The path that holds the last part, or the path itself when it has no part. -/
def parent (path : Path) : Path := { path with parts := path.parts.dropLast }

/-- The last part. -/
def name (path : Path) : String := path.parts.getLast?.getD ""

/-- The ending of the last part, from its last dot on; a dot at either end of the part starts
none. -/
def suffix (path : Path) : String :=
  let letters := path.name.toList
  let ending := (letters.reverse.takeWhile (· != '.')).reverse
  let start := letters.length - ending.length - 1
  if ending.length < letters.length && !ending.isEmpty && 0 < start then
    "." ++ String.ofList ending
  else ""

/-- Whether a path starts at the root. -/
def isAbsolute (path : Path) : Bool := !path.root.isEmpty

end Path

end FleetSchema
