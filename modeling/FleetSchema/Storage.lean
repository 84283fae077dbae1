/-
**Files of a session.**

The file tree of a session is read and changed by actions. What the system refuses is a defect that
names the path. A file that the disk refuses to take keeps what was written before.

* `makeDirectories`, `createFresh`, `write`: change the tree;
* `writeFresh`: a new file with some content;
* `read`: the bytes of a file.
-/

import FleetSchema.Session

namespace FleetSchema.Storage

/-- Refuse a path with a NUL character. -/
def checkPath (text : String) : Action Fault Unit :=
  if text.toList.contains '\x00' then throw (.defect .embeddedNull) else return ()

/-- Make a directory and the directories above it, where they are missing. -/
def makeDirectories (path : Path) (mode : Nat) : Action Fault Unit := do
  checkPath path.toText
  let session ← get
  match session.tree.makeDirectories path mode with
  | .ok tree => set { session with tree := tree }
  | .error (refusal, place) => throw (.defect (.refused refusal place.toText))

/-- Create an empty file under the first unused number. -/
def createFresh (directory : Path) (start ending : String) : Action Fault Path := do
  checkPath (directory.toText ++ start ++ ending)
  let session ← get
  match session.tree.createFresh directory start ending with
  | .ok (path, tree) =>
    set { session with tree := tree }
    return path
  | .error (refusal, place) => throw (.defect (.refused refusal place))

/-- Give the file at a path a text. When the disk refuses the file, the first bytes of the text are
in it. -/
def write (path : Path) (text : String) : Action Fault Unit := do
  let session ← get
  match session.devices.disk path with
  | none => set { session with tree := session.tree.fill path (Text.Utf8.encode text) }
  | some fault =>
    set { session with
      tree := session.tree.fill path ((Text.Utf8.encode text).take fault.written) }
    throw (.defect (.unwritten fault.number fault.wording))

theorem perform_write (path : Path) (text : String) (session : Session) :
    (write path text).perform session =
      match session.devices.disk path with
      | none =>
        (.ok (), { session with tree := session.tree.fill path (Text.Utf8.encode text) })
      | some fault => (.error (.defect (.unwritten fault.number fault.wording)),
        { session with
          tree := session.tree.fill path ((Text.Utf8.encode text).take fault.written) }) := by
  unfold write
  rw [Action.perform_bind, Action.perform_get]
  dsimp only
  cases session.devices.disk path with
  | none => rfl
  | some fault => rfl

/-- Write some content into a new file of a directory, which is made where it is missing. -/
def writeFresh (directory : Path) (mode : Nat) (start ending : String)
    (content : Except Defect String) : Action Fault Path := do
  makeDirectories directory mode
  let path ← createFresh directory start ending
  let text ← Action.ofDefect content
  write path text
  return path

/-- The bytes of the file at a path. -/
def read (path : Path) : Action Fault (List UInt8) := do
  checkPath path.toText
  match (← get).tree.read path with
  | .ok bytes => return bytes
  | .error refusal => throw (.defect (.refused refusal path.toText))

end FleetSchema.Storage
