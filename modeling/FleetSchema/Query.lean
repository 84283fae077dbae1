/-
**Management statements and their rows.**

A query client runs management statements against a cluster. Its answer is a stream of rows that is
read and must be closed. Among the rows there may be notes of errors that concern a single row; an
error of the whole stream ends it.

* `QueryClient`: what is known of a client;
* `ClientScript.client`: the client that behaves as data say.
-/

import FleetSchema.Session

namespace FleetSchema

/-- An item of a row stream: a row, or an error that concerns a single row. -/
inductive RowItem where
  | row (cells : Value)
  | inlineError (message : String)
  deriving Repr

/-- What reading a stream to its end gives: its items, and the fault that ends it early. -/
structure Reading where
  items : List RowItem
  failure : Option Fault

/-- A stream of rows that must be closed. -/
structure RowStream where
  read : StateM Session Reading
  close : Action Fault Unit

/-- A client that runs management statements. -/
structure QueryClient where
  issue : (database statement : String) → Action Fault RowStream
  close : Action Fault Unit

/-- How a client behaves: the items of its stream, and the faults on its way. -/
structure ClientScript where
  items : List RowItem
  readFault : Option Fault
  issueFault : Option Fault
  streamCloseFault : Option Fault
  closeFault : Option Fault

namespace ClientScript

/-- A step that ends in a fault, if there is one. -/
def failing : Option Fault → Action Fault Unit
  | none => return ()
  | some fault => throw fault

/-- The stream of a script. -/
def stream (script : ClientScript) : RowStream where
  read := return ⟨script.items, script.readFault⟩
  close := do
    Action.call .streamClosed
    failing script.streamCloseFault

/-- The client that behaves as a script says. -/
def client (script : ClientScript) : QueryClient where
  issue database statement := do
    Action.call (.queried database statement)
    failing script.issueFault
    return script.stream
  close := do
    Action.call (.clientClosed none)
    failing script.closeFault

end ClientScript

/-! ### First columns -/

/-- The first column of a row. -/
def firstColumn : Value → Except Defect Value
  | .list (first :: _) => .ok first
  | .list [] => .error .listTooShort
  | .text text =>
    match text.toList with
    | letter :: _ => .ok (.text letter.toString)
    | [] => .error .textTooShort
  | .object _ => .error (.missingKey (.int 0))
  | value => .error (.notSubscriptable value.formName)

end FleetSchema
