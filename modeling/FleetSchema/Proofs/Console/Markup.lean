/-
**Marks that close what they opened.**

In a text with markup a mark in brackets opens a tone and a mark with a slash closes one. A console
refuses a text that closes a tone which is not open. It shows every text whose marks close only the
tone that was opened last.

* `Markup.isClosed`: whether the marks of a text close only what was opened last;
* `isClosed_append`: a text behind another one that leaves nothing open;
* `Console.isClosed_errorLine`, `isClosed_groupsTable`: what that is for the lines of a console;
* `Devices.ShowsClosed`: what can be relied on about a console, with `Devices.strict` as one that
  shows nothing else.
-/

import FleetSchema.Console.Table

namespace FleetSchema

namespace Markup

/-! ### Reading marks -/

/-- What may become a mark: whether a backslash in front takes its meaning away, and its characters
so far. -/
structure Mark where
  escaped : Bool
  letters : List Char
  deriving DecidableEq, Repr

/-- How far the marks of a text are read: the tones that are open, the last one in front, whether
the last character is a backslash that takes the meaning of the next bracket away, and what may
become a mark. -/
structure Scan where
  opened : List (List Char)
  escapes : Bool
  mark : Option Mark
  deriving DecidableEq, Repr

/-- Nothing is read. -/
def Scan.start : Scan := ⟨[], false, none⟩

/-- Whether a character can be the first one of a mark. -/
def startsMark (letter : Char) : Bool :=
  ('a' ≤ letter && letter ≤ 'z') || letter == '#' || letter == '/' || letter == '@'

/-- The tones that are open behind a mark. A mark that closes another tone than the last one is not
followed, and neither are those that stand for an action or a computed colour. -/
def follow (opened : List (List Char)) (letters : List Char) : Option (List (List Char)) :=
  if letters.head? == some '@' || letters.contains '(' then none
  else
    match letters.takeWhile (· != '='), opened with
    | ['/'], _ :: rest => some rest
    | '/' :: name, last :: rest => if name == last then some rest else none
    | '/' :: _, [] => none
    | name, _ => some (name :: opened)

/-- Read one more character. -/
def Scan.step (scan : Scan) (letter : Char) : Option Scan :=
  let escapes := letter == '\\' && !scan.escapes
  if letter == '[' then some ⟨scan.opened, false, some ⟨scan.escapes, []⟩⟩
  else
    match scan.mark with
    | none => some ⟨scan.opened, escapes, none⟩
    | some ⟨escaped, []⟩ =>
      some ⟨scan.opened, escapes, if startsMark letter then some ⟨escaped, [letter]⟩ else none⟩
    | some ⟨escaped, letters⟩ =>
      if letter != ']' then some ⟨scan.opened, escapes, some ⟨escaped, letters ++ [letter]⟩⟩
      else if escaped then some ⟨scan.opened, false, none⟩
      else (follow scan.opened letters).map fun opened => ⟨opened, false, none⟩

/-- Read characters. -/
def Scan.read (scan : Scan) (letters : List Char) : Option Scan := letters.foldlM Scan.step scan

/-- Whether the marks of a text close only the tone that was opened last. -/
def isClosed (text : String) : Bool := (Scan.start.read text.toList).isSome

theorem Scan.read_append (scan : Scan) (front behind : List Char) :
    scan.read (front ++ behind) = (scan.read front).bind (·.read behind) :=
  List.foldlM_append

/-! ### Closed texts -/

/-- A text is closed behind another one that leaves nothing open. -/
theorem isClosed_append {front : String} (closes : Scan.start.read front.toList = some .start)
    (text : String) : isClosed (front ++ text) = isClosed text := by
  unfold isClosed
  rw [String.toList_append, Scan.read_append, closes]
  rfl

end Markup

/-! ### Lines -/

/-- The texts with markup in a line. -/
def ConsoleLine.texts : ConsoleLine → List String
  | .print markup => [markup]
  | .table shown => shown.title :: shown.columns.map Column.header ++ shown.rows.flatten
  | .statusBegin message => [message]
  | .statusEnd | .prompt .. | .rejected .. => []

/-- All texts of a line are closed. -/
def ConsoleLine.isClosed (line : ConsoleLine) : Bool := line.texts.all Markup.isClosed

namespace Console

theorem isClosed_errorLine (message : String) :
    (errorLine message).isClosed = Markup.isClosed message := by
  have closes : Markup.Scan.start.read (Tone.err.paint "✗" ++ " ").toList = some .start := by
    decide +kernel
  have one : (errorLine message).isClosed =
      Markup.isClosed (Tone.err.paint "✗" ++ " " ++ message) := Bool.and_true _
  rw [one, Markup.isClosed_append closes]

theorem isClosed_groupsTable (groups : List String) :
    (ConsoleLine.table (.ofGroups Table.groupsTitle groups)).isClosed =
      groups.all Markup.isClosed := by
  have texts : (ConsoleLine.table (.ofGroups Table.groupsTitle groups)).texts =
      [Table.groupsTitle, "Group"] ++ groups := by
    simp [ConsoleLine.texts, Table.ofGroups, Column.toned, ← List.flatMap_def]
  have titles : [Table.groupsTitle, "Group"].all Markup.isClosed = true := by decide +kernel
  unfold ConsoleLine.isClosed
  rw [texts, List.all_append, titles, Bool.true_and]

end Console

/-! ### Consoles -/

/-- The console shows every line whose texts are closed. -/
def Devices.ShowsClosed (devices : Devices) : Prop :=
  ∀ line : ConsoleLine, line.isClosed = true → devices.screen line = none

/-- Why a line is refused. -/
def Markup.unclosed : Defect :=
  .reported ⟨"MarkupError", {}, "closing tag doesn't match any open tag"⟩

/-- Devices with a console that shows a line only when all of its texts are closed. -/
def Devices.strict : Devices where
  screen line := if line.isClosed then none else some Markup.unclosed
  disk _ := none

theorem Devices.showsClosed_strict : Devices.strict.ShowsClosed :=
  fun _ closed => if_pos closed

end FleetSchema
