/-
**Picking target databases.**

The user narrows down the targets of a cluster in a prompt with a box for each database. Long names
are cut, and names are filled up to one width, so that what stands behind them is aligned.

* `cut`: a text of limited length;
* `choiceTitle`: the line for a database;
* `Targets.pick`: the targets that the user leaves;
* `keep_sublist`: narrowing adds nothing.
-/

import FleetSchema.Prompt
import FleetSchema.Targets

namespace FleetSchema

namespace Picker

/-- The most characters of a name that are shown. -/
def shownWidth : Nat := 64

/-- The sign for what was cut off. -/
def ellipsis : List Char := ['.', '.', '.']

/-- The first characters of a list; a number below zero counts from the end. -/
def firstChars (letters : List Char) (count : Int) : List Char :=
  if count < 0 then letters.take ((letters.length : Int) + count).toNat
  else letters.take count.toNat

/-- The characters of a text of limited length. A text that is cut ends in an ellipsis, unless the
limit leaves no room for one. -/
def cutChars (letters : List Char) (limit : Int) : List Char :=
  if limit ≤ ellipsis.length || (letters.length : Int) ≤ limit then firstChars letters limit
  else firstChars letters (limit - ellipsis.length) ++ ellipsis

/-- A text of limited length. -/
def cut (text : String) (limit : Int) : String := String.ofList (cutChars text.toList limit)

/-- A text filled up with spaces to a width. -/
def fillUp (text : String) (width : Nat) : String :=
  text ++ String.ofList (List.replicate (width - text.length) ' ')

/-- The line for a database of a cluster. -/
def choiceTitle (database cluster : String) (width : Nat) : String :=
  fillUp (cut database shownWidth) width ++ "  (cluster: " ++ cluster ++ ")"

/-- The greatest length among the shown names. -/
def width (databases : List String) : Nat :=
  (databases.map fun database => (cut database shownWidth).length).foldl max 0

/-- The choices for databases of a cluster; all of them are checked. -/
def choices (cluster : String) (databases : List String) : List Choice :=
  databases.map fun database =>
    ⟨choiceTitle database cluster (width databases), .text database, true⟩

end Picker

namespace Targets

/-- The targets whose databases are among values. -/
def keep (targets : Targets) (values : List Value) : Targets :=
  { targets with
    databases := targets.databases.filter fun database => values.any (Value.same (.text database)) }

/-- Narrowing down targets leaves some of their databases, in their order. -/
theorem keep_sublist (targets : Targets) (values : List Value) :
    (targets.keep values).databases.Sublist targets.databases :=
  List.filter_sublist

/-- Let the user narrow down targets. -/
def pick (targets : Targets) : Action Fault Targets := do
  let cluster ← Action.ofExcept (ClusterUri.name targets.clusterUri)
  let values ← Prompt.select ("Select databases on " ++ cluster ++ ":")
    (Picker.choices cluster targets.databases)
  return targets.keep values

end Targets

end FleetSchema
