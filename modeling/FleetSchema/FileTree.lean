/-
**A tree of files.**

A file tree holds directories and files, each under its place: the names on the way from the root.
A path is followed name by name from the root or the working directory; every name but the last
must lead to a directory.

* `locate`: the place that a path leads to;
* `makeDirectories`: a directory with the directories above it;
* `vacancy`: the place where a text lets a file be created;
* `createFresh`: a new file under the first number that is free.
-/

import FleetSchema.Path
import FleetSchema.Text.Utf8

namespace FleetSchema

/-- The names on the way from the root to a directory or file. -/
abbrev Place := List String

/-- What stands at a place, with its permissions. -/
inductive Entry where
  | directory (mode : Nat)
  | file (mode : Nat) (bytes : List UInt8)
  deriving DecidableEq, Repr

/-- What stands at a place when the file there is given bytes. -/
def Entry.holding (bytes : List UInt8) : Entry → Entry
  | .file mode _ => .file mode bytes
  | .directory mode => .directory mode

/-- A tree of files with a working directory. -/
structure FileTree where
  home : Place
  entries : List (Place × Entry)
  deriving Repr, Inhabited

/-- Why the system refuses a path. -/
inductive SystemRefusal where
  | noEntry
  | alreadyThere
  | notDirectory
  | isDirectory
  | nameTooLong
  deriving DecidableEq, Repr

/-- The number of a refusal. -/
def SystemRefusal.number : SystemRefusal → Nat
  | .noEntry => 2
  | .alreadyThere => 17
  | .notDirectory => 20
  | .isDirectory => 21
  | .nameTooLong => 36

/-- The wording of a refusal. -/
def SystemRefusal.wording : SystemRefusal → String
  | .noEntry => "No such file or directory"
  | .alreadyThere => "File exists"
  | .notDirectory => "Not a directory"
  | .isDirectory => "Is a directory"
  | .nameTooLong => "File name too long"

namespace FileTree

/-- The longest name in bytes. -/
def nameLimit : Nat := 255

/-- The longest path in bytes. -/
def pathLimit : Nat := 4095

/-- The permissions of a directory that is made without any of its own. -/
def openMode : Nat := 0o755

/-- The permissions of a directory for its owner alone. -/
def ownerMode : Nat := 0o700

/-- The permissions of a fresh file. -/
def freshMode : Nat := 0o600

/-- What stands at a place; the root is a directory. -/
def find? (tree : FileTree) (place : Place) : Option Entry :=
  if place.isEmpty then some (.directory openMode)
  else (tree.entries.find? (·.1 == place)).map (·.2)

/-- Put an entry at a place that holds none. -/
def insert (tree : FileTree) (place : Place) (entry : Entry) : FileTree :=
  { tree with entries := tree.entries ++ [(place, entry)] }

/-- Give the file at a place its bytes. -/
def write (tree : FileTree) (place : Place) (bytes : List UInt8) : FileTree :=
  { tree with
    entries := tree.entries.map fun item =>
      (item.1, if item.1 == place then item.2.holding bytes else item.2) }

/-- Follow names from a place. Every name but the last must lead to a directory. -/
def follow (tree : FileTree) (place : Place) : List String → Except SystemRefusal Place
  | [] => .ok place
  | name :: rest =>
    match tree.find? place with
    | none => .error .noEntry
    | some (.file ..) => .error .notDirectory
    | some (.directory _) =>
      if name == ".." then follow tree place.dropLast rest
      else if nameLimit < name.utf8ByteSize then .error .nameTooLong
      else follow tree (place ++ [name]) rest

/-- The place that a path leads to; nothing need stand there. -/
def locate (tree : FileTree) (path : Path) : Except SystemRefusal Place :=
  if pathLimit < path.toText.utf8ByteSize then .error .nameTooLong
  else follow tree (if path.isAbsolute then [] else tree.home) path.parts

/-- What a path leads to, if anything. -/
def entryAt? (tree : FileTree) (path : Path) : Option Entry :=
  match tree.locate path with
  | .ok place => tree.find? place
  | .error _ => none

/-- Whether a path leads to a directory. -/
def isDirectory (tree : FileTree) (path : Path) : Bool :=
  match tree.entryAt? path with
  | some (.directory _) => true
  | _ => false

/-- Whether a path leads to anything. -/
def isThere (tree : FileTree) (path : Path) : Bool := (tree.entryAt? path).isSome

/-- The bytes of the file that a path leads to. -/
def read (tree : FileTree) (path : Path) : Except SystemRefusal (List UInt8) :=
  match tree.locate path with
  | .error refusal => .error refusal
  | .ok place =>
    match tree.find? place with
    | none => .error .noEntry
    | some (.directory _) => .error .isDirectory
    | some (.file _ bytes) => .ok bytes

/-! ### Directories -/

/-- Make one directory. -/
def makeDirectory (tree : FileTree) (path : Path) (mode : Nat) :
    Except SystemRefusal FileTree :=
  match tree.locate path with
  | .error refusal => .error refusal
  | .ok place =>
    if (tree.find? place).isSome then .error .alreadyThere
    else .ok (tree.insert place (.directory mode))

/-- Make one directory unless it is there. -/
def ensureDirectory (tree : FileTree) (path : Path) (mode : Nat) :
    Except (SystemRefusal × Path) FileTree :=
  match tree.makeDirectory path mode with
  | .ok made => .ok made
  | .error refusal => if tree.isDirectory path then .ok tree else .error (refusal, path)

/-- Make a directory and, where they are missing, the directories above it; those above it are open
to all readers. The answer names the path that was refused. -/
def makeDirectoriesWith (tree : FileTree) (root : String) (mode : Nat) :
    List String → Except (SystemRefusal × Path) FileTree
  | [] => tree.ensureDirectory ⟨root, []⟩ mode
  | last :: above =>
    let path : Path := ⟨root, (last :: above).reverse⟩
    match tree.makeDirectory path mode with
    | .ok made => .ok made
    | .error .noEntry =>
      match makeDirectoriesWith tree root openMode above with
      | .error refused => .error refused
      | .ok grown => grown.ensureDirectory path mode
    | .error refusal => if tree.isDirectory path then .ok tree else .error (refusal, path)

/-- Make a directory and the directories above it. -/
def makeDirectories (tree : FileTree) (path : Path) (mode : Nat) :
    Except (SystemRefusal × Path) FileTree :=
  makeDirectoriesWith tree path.root mode path.parts.reverse

/-! ### Fresh files -/

/-- Resolve the parts that lead upwards in a list of names, without looking at the tree. -/
def settleNames (names : List String) : List String :=
  names.foldl (fun settled name => if name == ".." then settled.dropLast else settled ++ [name]) []

/-- The place that a path names from the root, without looking at the tree. -/
def settled (tree : FileTree) (path : Path) : Path :=
  let root := if path.isAbsolute then path.root else "/"
  ⟨root, settleNames (if path.isAbsolute then path.parts else tree.home ++ path.parts)⟩

/-- A number with at least eight digits. -/
def numbered (number : Nat) : String :=
  let digits := toString number
  String.ofList (List.replicate (8 - digits.length) '0') ++ digits

/-- The text of the path of a numbered file in a directory. -/
def freshText (tree : FileTree) (directory : Path) (start ending : String) (number : Nat) :
    String :=
  let folder := (tree.settled directory).toText
  (if folder.endsWith "/" then folder else folder ++ "/") ++ start ++ numbered number ++ ending

/-- The last piece of a text between slashes that is not empty. -/
def lastPiece (text : String) : String :=
  let pieces := (text.toList.splitOn '/').map String.ofList
  ((pieces.filter fun piece => !piece.isEmpty).getLast?).getD ""

/-- Why no file is created at a path that is written as the path of a directory, given what stands
there. -/
def directoryRefusal (present : SystemRefusal) : Option Entry → SystemRefusal
  | none => .noEntry
  | some (.file ..) => .notDirectory
  | some (.directory _) => present

/-- The place where a text lets a file be created: nothing stands there, and the text is not written
as the path of a directory, with a slash or a dot at its end. -/
def vacancy (tree : FileTree) (text : String) : Except SystemRefusal Place :=
  let path := Path.ofText text
  let piece := lastPiece text
  if text.endsWith "/" && piece != "." && piece != ".." then
    match tree.locate path.parent with
    | .error refusal => .error refusal
    | .ok above => .error (directoryRefusal .isDirectory (tree.find? above))
  else
    match tree.locate path with
    | .error refusal => .error refusal
    | .ok place =>
      if piece == "." then .error (directoryRefusal .alreadyThere (tree.find? place))
      else if (tree.find? place).isSome then .error .alreadyThere
      else .ok place

/-- The first number whose text is not refused because something is there already. -/
def freeNumber (tree : FileTree) (directory : Path) (start ending : String) : Nat :=
  ((List.range (tree.entries.length + 1)).find? fun number =>
    match tree.vacancy (tree.freshText directory start ending number) with
    | .error refusal => refusal != .alreadyThere
    | .ok _ => true).getD 0

/-- Create an empty file under the first number that is free. The answer is its path, or the refusal
and the text of the path that was refused. -/
def createFresh (tree : FileTree) (directory : Path) (start ending : String) :
    Except (SystemRefusal × String) (Path × FileTree) :=
  let text := tree.freshText directory start ending (tree.freeNumber directory start ending)
  match tree.vacancy text with
  | .error refusal => .error (refusal, text)
  | .ok place => .ok (Path.ofText text, tree.insert place (.file freshMode []))

/-- Give the file that a path leads to its bytes. -/
def fill (tree : FileTree) (path : Path) (bytes : List UInt8) : FileTree :=
  match tree.locate path with
  | .ok place => tree.write place bytes
  | .error _ => tree

end FileTree

end FleetSchema
