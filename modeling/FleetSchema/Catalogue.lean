/-
**The databases of a cluster.**

The databases of a cluster are listed by a management statement whose first column holds their
names. Errors that concern a single row are written down and passed over; any other fault spoils
the whole listing.

* `listDatabases`: the names that a pattern finds, each once, in the order of the rows.
-/

import FleetSchema.Query
import FleetSchema.Unique

namespace FleetSchema

/-- The statement that lists databases. -/
def showDatabases : String := ".show databases | project DatabaseName"

variable [Interpreter]

/-- Compile a name pattern. A pattern with a flaw in its syntax is a fault of the filter. -/
def compileNamePattern (source : String) : Except Fault NamePattern :=
  match NamePattern.compile source with
  | .ok pattern => .ok pattern
  | .error (.malformed complaint position) =>
    .error (.badPattern source (.malformed complaint position))
  | .error refusal => .error (.defect (.unusablePattern source refusal))

/-- Whether a pattern is found in a name. -/
def isSelected (pattern : NamePattern) (name : String) : Action Fault Bool :=
  match pattern.find name with
  | .absent => return false
  | .found => return true
  | .crossed => throw (.defect .crossedGroup)

/-- The names that a pattern finds in the items of a stream; errors of single rows are written
down. -/
def readNames (uri logger : String) (pattern : NamePattern) :
    List RowItem → Action Fault (List String)
  | [] => return []
  | .inlineError message :: rest => do
    Action.log .error logger ("got inline error from " ++ uri ++ ": " ++ message) false
    readNames uri logger pattern rest
  | .row cells :: rest => do
    let first ← Action.ofDefect (firstColumn cells)
    let selected ← isSelected pattern first.toText
    let names ← readNames uri logger pattern rest
    return if selected then first.toText :: names else names

/-- Read a stream and take the names that a pattern finds. -/
def streamNames (stream : RowStream) (uri logger : String) (pattern : NamePattern) :
    Action Fault (List String) := do
  let reading ← stream.read
  let names ← readNames uri logger pattern reading.items
  match reading.failure with
  | none => return unique names
  | some fault => throw fault

/-- Issue the statement, take the names and close the stream. -/
def queryNames (client : QueryClient) (uri logger : String) (pattern : NamePattern) :
    Action Fault (List String) := do
  let stream ← client.issue "" showDatabases
  Action.closing (streamNames stream uri logger pattern) stream.close

/-- The fault of a listing: a fault of the query is passed on, any other one becomes its cause. -/
def listingFault {α : Type} (uri logger : String) (fault : Fault) : Action Fault α := do
  if fault.isKind .query then
    Action.log .error logger ("failed to list databases on " ++ uri) true
    throw fault
  else
    Action.log .error logger ("failed to iterate results from " ++ uri) true
    throw (.listing uri fault)

/-- The databases of a cluster whose names a pattern finds. -/
def listDatabases (client : QueryClient) (uri logger source : String) :
    Action Fault (List String) := do
  let pattern ← Action.ofExcept (compileNamePattern source)
  let names ← (queryNames client uri logger pattern).onFault (listingFault uri logger)
  Action.log .debug logger
    (toString names.length ++ " database(s) on " ++ uri ++ " matched " ++ Text.quote source) false
  return names

end FleetSchema
