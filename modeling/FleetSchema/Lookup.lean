/-
**Lookup services.**

A lookup service tells which databases belong to a cluster under a label. It is asked over the web
and answers with a JSON list of names.

* `LookupService.overWeb`: the service behind a web address;
* `LookupService.answering`: the service that answers as a function says.
-/

import FleetSchema.Filter
import FleetSchema.Web

namespace FleetSchema

/-- A service that gives the databases of a cluster under a label. -/
structure LookupService where
  lookup : (endpoint cluster label : String) → Action Fault Value

namespace LookupService

/-- The service that answers as a function says. -/
def answering (answer : (endpoint cluster label : String) → Except Fault Value) :
    LookupService where
  lookup endpoint cluster label := do
    Action.call (.lookedUp endpoint cluster label)
    Action.ofExcept (answer endpoint cluster label)

/-- The logger of a service that is given none. -/
def defaultLogger : String := "kschema.core.adapters.webhook"

/-- The request for the databases of a cluster. -/
def request (patience : Value) (endpoint cluster label : String) : WebRequest where
  address := endpoint
  parameters := some [("cluster", cluster), ("label", label)]
  headers := none
  patience := patience

/-- Ask over the web for a value. -/
def ask (patience : Value) (endpoint cluster label : String) : Action Fault Value := do
  let answer ← Web.fetch (request patience endpoint cluster label)
  Action.ofExcept (Web.checkStatus endpoint answer)
  Action.ofExcept (Web.readJson answer)

/-- A fault of the web is one of the lookup, and so is an answer that cannot be read. -/
def restate (endpoint cluster : String) (fault : Fault) : Fault :=
  if fault.families.transport then .lookupRequest endpoint cluster fault
  else if fault.families.value then .lookupAnswer endpoint fault
  else fault

/-- The names that a value lists. -/
def names? : Value → Option (List String)
  | .list items => TargetFilter.textsOf? items
  | _ => none

/-- The names that a service behind a web address gives. -/
def namesOverWeb (patience : Value) (logger endpoint cluster label : String) :
    Action Fault (List String) := do
  let answer ← (ask patience endpoint cluster label).onFault fun fault =>
    throw (restate endpoint cluster fault)
  match names? answer with
  | none => throw (.lookupNames endpoint)
  | some names =>
    Action.log .debug logger
      ("lookup " ++ endpoint ++ " (cluster=" ++ cluster ++ ", label=" ++ label ++ ") returned " ++
        toString names.length ++ " database(s)") false
    return names

/-- The service behind a web address. -/
def overWeb (patience : Value) (logger : String) : LookupService where
  lookup endpoint cluster label :=
    return .list ((← namesOverWeb patience logger endpoint cluster label).map .text)

end LookupService

end FleetSchema
