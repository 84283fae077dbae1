/-
**Reading a pattern by tokens.**

A token is one character, or a backslash with the character behind it. The reader holds the token
that comes next, so that a backslash at the very end is refused as soon as it comes next, whatever
stands before it.

* `next`, `take`, `accept`: look at a token, read it, read it if it is the expected one;
* `position`: the place of the token that comes next.
-/

import FleetSchema.Pattern.Syntax
import FleetSchema.Text.Word

namespace FleetSchema.Pattern

/-- What is known while a pattern is read. -/
structure Reading where
  text : Array Char
  index : Nat := 0
  upcoming : Option String := none
  flags : Flags := {}
  names : List (String × Nat) := []
  widths : List (Option Width) := [none]
  lookbehind : Option Nat := none
  conditions : List (Nat × Nat) := []

/-- A step of reading a pattern. -/
abbrev Read := StateT Reading (Except Refusal)

namespace Read

/-- The token that comes next. -/
def next : Read (Option String) := return (← get).upcoming

/-- The place of the token that comes next. -/
def position : Read Nat := return (← get).index - ((← get).upcoming.map String.length).getD 0

/-- Refuse the pattern at the place of the next token, less an offset. -/
def refuse {α : Type} (complaint : Complaint) (offset : Nat) : Read α := do
  throw (.malformed complaint (some ((← position) - offset)))

/-- Refuse the pattern at the place of the next token. -/
def refuseHere {α : Type} (complaint : Complaint) : Read α := refuse complaint 0

/-- Fetch the token at the index. -/
def fetch : Read Unit := do
  let reading ← get
  match reading.text[reading.index]? with
  | none => set { reading with upcoming := none }
  | some '\\' =>
    match reading.text[reading.index + 1]? with
    | none => throw (.malformed .badEscapeAtEnd (some (reading.text.size - 1)))
    | some letter =>
      set { reading with
        upcoming := some (String.ofList ['\\', letter]), index := reading.index + 2 }
  | some letter =>
    set { reading with upcoming := some letter.toString, index := reading.index + 1 }

/-- Read the next token. -/
def take : Read (Option String) := do
  let token ← next
  fetch
  return token

/-- Read the next token if it is the expected one. -/
def accept (token : String) : Read Bool := do
  if (← next) == some token then
    fetch
    return true
  else return false

/-- Go back to a place. -/
def goTo (place : Nat) : Read Unit := do
  modify fun reading => { reading with index := place }
  fetch

/-- Read up to a number of tokens of a class. -/
def takeWhile (member : Char → Bool) : Nat → Read String
  | 0 => return ""
  | count + 1 => do
    match (← next).map String.toList with
    | some [letter] =>
      if member letter then
        fetch
        return letter.toString ++ (← takeWhile member count)
      else return ""
    | _ => return ""

/-- Read the tokens up to a closing one, with a bound on their number. -/
def takeUntil (close what : String) (read : String) : Nat → Read String
  | 0 => return read
  | count + 1 => do
    match ← take with
    | none =>
      if read.isEmpty then refuseHere (.missingName what)
      else refuse (.unterminatedName close) read.length
    | some token =>
      if token == close then
        if read.isEmpty then refuse (.missingName what) 1 else return read
      else takeUntil close what (read ++ token) count

/-- Read a name up to its closing token. -/
def takeName (close what : String) : Read String := do
  takeUntil close what "" ((← get).text.size + 1)

/-! ### Groups -/

/-- The number of groups opened so far, counting the whole pattern as one. -/
def groupCount : Read Nat := return (← get).widths.length

/-- Whether a group has been opened and closed. -/
def isClosed (group : Nat) : Read Bool := return ((← get).widths[group]?).join.isSome

/-- Open a group, under a name when it has one. -/
def openGroup (name : Option String) : Read Nat := do
  let reading ← get
  let group := reading.widths.length
  match name with
  | none => set { reading with widths := reading.widths ++ [none] }
  | some name =>
    match reading.names.find? (·.1 == name) with
    | some (_, earlier) => refuse (.redefinition name group earlier) (name.length + 1)
    | none =>
      set { reading with
        widths := reading.widths ++ [none], names := reading.names ++ [(name, group)] }
  return group

/-- Close a group around its body. -/
def closeGroup (group : Nat) (body : List Node) : Read Unit :=
  modify fun reading =>
    { reading with widths := reading.widths.set group (some (widthOfAll reading.widths body)) }

/-- The group with a name. -/
def groupNamed? (name : String) : Read (Option Nat) :=
  return ((← get).names.find? (·.1 == name)).map (·.2)

/-- Inside a look to the left, only groups closed before it may be referred to. -/
def checkLookbehind (group : Nat) : Read Unit := do
  match (← get).lookbehind with
  | none => return
  | some first =>
    unless ← isClosed group do refuseHere .openGroup
    if first ≤ group then refuseHere .sameLookbehind

/-- Refuse a name that is none. -/
def checkName (name : String) (offset : Nat) : Read Unit := do
  unless Text.isName name do refuse (.badName name) (name.length + offset)

end Read

end FleetSchema.Pattern
