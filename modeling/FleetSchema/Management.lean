/-
**The management service.**

Management statements are run by a service that answers with tables and with the errors that it met
on the way. Only the rows of the first table count; the errors follow them as errors of single
rows. A statement is run when its stream is read, and a closed stream cannot be read.

* `ManagementStream.read`: the rows of a stream;
* `ManagementService.client`: the service as a query client.
-/

import FleetSchema.Query

namespace FleetSchema

/-- The answer to a management statement. -/
structure ManagementAnswer where
  tables : List (List Value)
  errors : List String
  deriving Repr

/-- A service that runs management statements. A service behind a client for a cluster says which
client that is. What it answers and whether it can be closed may depend on all that happened
before. -/
structure ManagementService where
  identity : Option Client
  answer : (past : List Event) → (database : Option String) → (statement : String) →
    Except Fault ManagementAnswer
  ending : (past : List Event) → Except Fault Unit

namespace ManagementService

/-- The service that answers as data say, and that can be closed. -/
def answering (identity : Option Client) (answer : Except Fault ManagementAnswer) :
    ManagementService where
  identity := identity
  answer _ _ _ := answer
  ending _ := .ok ()

/-- Run a statement. -/
def execute (service : ManagementService) (database : Option String) (statement : String) :
    Action Fault ManagementAnswer := do
  let past := (← get).events
  Action.call (.executed service.identity database statement)
  Action.ofExcept (service.answer past database statement)

theorem perform_execute (service : ManagementService) (database : Option String)
    (statement : String) (session : Session) :
    (service.execute database statement).perform session =
      (service.answer session.events database statement,
        session.adding (.call (.executed service.identity database statement))) := by
  unfold execute
  rw [Action.perform_bind, Action.perform_get]
  dsimp only
  rw [Action.perform_bind, Action.perform_call]
  exact Action.perform_ofExcept _ _

/-- Close a service. -/
def close (service : ManagementService) : Action Fault Unit := do
  let past := (← get).events
  Action.call (.clientClosed service.identity)
  Action.ofExcept (service.ending past)

end ManagementService

/-- The rows of an answer: those of its first table. -/
def ManagementAnswer.rows (answer : ManagementAnswer) : List Value := answer.tables.head?.getD []

/-- The items of an answer: its rows, then its errors. -/
def ManagementAnswer.items (answer : ManagementAnswer) : List RowItem :=
  answer.rows.map .row ++ answer.errors.map .inlineError

/-- A stream of the rows of one statement. -/
structure ManagementStream where
  database : Option String
  statement : String
  closed : Bool
  deriving DecidableEq, Repr

namespace ManagementStream

/-- A stream that is not read yet; an empty database name stands for none. -/
def fresh (database statement : String) : ManagementStream :=
  ⟨if database.isEmpty then none else some database, statement, false⟩

/-- A fault of the service is one of the query. -/
def restate (fault : Fault) : Fault :=
  if fault.families.management then .management fault else fault

/-- Run the statement of a stream and take its items. -/
def read (stream : ManagementStream) (service : ManagementService) : StateM Session Reading := do
  if stream.closed then return ⟨[], some .streamClosed⟩
  match ← ExceptT.run (service.execute stream.database stream.statement) with
  | .ok answer => return ⟨answer.items, none⟩
  | .error fault => return ⟨[], some (restate fault)⟩

theorem perform_read {ε : Type} (stream : ManagementStream) (service : ManagementService)
    (session : Session) :
    Action.perform (stream.read service : Action ε Reading) session =
      if stream.closed then (.ok ⟨[], some .streamClosed⟩, session)
      else
        match (service.execute stream.database stream.statement).perform session with
        | (.ok answer, reached) => (.ok ⟨answer.items, none⟩, reached)
        | (.error fault, reached) => (.ok ⟨[], some (restate fault)⟩, reached) := by
  rw [Action.perform_lift]
  unfold read
  by_cases closed : stream.closed = true
  · rw [if_pos closed, if_pos closed]
    rfl
  · rw [if_neg closed, if_neg closed, StateT.run_bind]
    unfold Action.perform
    rcases StateT.run (ExceptT.run (service.execute _ _)) session with ⟨fault | answer, reached⟩
    · rfl
    · rfl

/-- A stream as one of rows. -/
def rows (stream : ManagementStream) (service : ManagementService) : RowStream where
  read := stream.read service
  close := return ()

end ManagementStream

/-- The service as a query client. -/
def ManagementService.client (service : ManagementService) : QueryClient where
  issue database statement := return (ManagementStream.fresh database statement).rows service
  close := service.close

end FleetSchema
