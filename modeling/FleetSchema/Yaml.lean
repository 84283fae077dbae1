/-
**Writing YAML.**

A value is written as a block: the fields of an object one below the other, the items of a list
behind dashes, and single values on one line where they fit. Fields keep their order. Paths have no
form in a document.

* `writeFields`: the text of an object, or the value in it that has no form.
-/

import FleetSchema.Fault.Defect
import FleetSchema.Yaml.Scalar

namespace FleetSchema.Yaml

/-- How far a block is indented below another one. -/
def step : Nat := 2

/-- The longest text, in characters, that is a key of one line. -/
def keyLimit : Nat := 122

/-- Whether a text is a key of one line. -/
def isShortKey (text : String) : Bool :=
  decide (text.length ≤ keyLimit) && !text.isEmpty && !text.toList.any isBreak

mutual

/-- The value inside a value that has no form in a document, if there is one. -/
def formless? : Value → Option Value
  | .path value => some (.path value)
  | .list items => formlessItem? items
  | .object fields => formlessField? fields
  | _ => none

/-- The first value among items that has no form. -/
def formlessItem? : List Value → Option Value
  | [] => none
  | item :: rest => formless? item <|> formlessItem? rest

/-- The first value among fields that has no form. -/
def formlessField? : List (String × Value) → Option Value
  | [] => none
  | (_, value) :: rest => formless? value <|> formlessField? rest

end

/-- Write a key, and the mark between it and its value. -/
def putKey (page : Page) (indent : Nat) (name : String) : Page :=
  if isShortKey name then (putText page indent true name).mark ":" false false false
  else
    ((putText (page.mark "?" true false true) (indent + step) false name).toIndent indent).mark ":"
      true false true

mutual

/-- Write a value below an indentation. A list inside an object is not indented further unless it
starts a line. -/
def putValue (page : Page) (indent : Nat) (inObject : Bool) : Value → Page
  | .null => putPlain page (indent + step) true "null"
  | .bool value => putPlain page (indent + step) true (if value then "true" else "false")
  | .int value => putPlain page (indent + step) true (toString value)
  | .float value => putPlain page (indent + step) true (numberText value)
  | .text text => putText page (indent + step) false text
  | .path text => putText page (indent + step) false text
  | .list [] => (page.mark "[" true true false).mark "]" false false false
  | .list (item :: rest) =>
    putItems page (if inObject && !page.indented then indent else indent + step) (item :: rest)
  | .object [] => (page.mark "\x7b" true true false).mark "\x7d" false false false
  | .object (field :: rest) => putFields page (indent + step) (field :: rest)

/-- Write items behind dashes. -/
def putItems (page : Page) (indent : Nat) : List Value → Page
  | [] => page
  | item :: rest =>
    putItems (putValue ((page.toIndent indent).mark "-" true false true) indent false item) indent
      rest

/-- Write fields one below the other. -/
def putFields (page : Page) (indent : Nat) : List (String × Value) → Page
  | [] => page
  | (name, value) :: rest =>
    putFields (putValue (putKey (page.toIndent indent) indent name) indent true value) indent rest

end

/-- The text of an object with its fields. -/
def writeFields (fields : List (String × Value)) : Except Defect String :=
  match formlessField? fields with
  | some value => .error (.unrepresentable value)
  | none => .ok ((putFields .blank 0 fields).toIndent 0).text

end FleetSchema.Yaml
