/-
**Iterations over a stream of the management service.**

A stream can be iterated over several times, also at the same time. An iteration runs the statement
of its stream when it is asked for its first item, and it gives one item whenever it is asked. All
iterations over a stream share the answer that the stream keeps: an iteration has its own rows, and
when they are over, it takes the errors of the answer that is kept then. A closed stream keeps none.

* `Iteration`, `Advance`: what an iteration has still to give, and what it comes to when asked;
* `IteratedStream.advance`: ask an iteration for its next item;
* `IteratedStream.use`: use a stream in one of the ways that there are.
-/

import FleetSchema.Management

namespace FleetSchema

/-- What an iteration over a stream has still to give. -/
inductive Iteration where
  /-- Nothing was asked for yet. -/
  | waiting
  /-- The other rows are to be given, and then errors. -/
  | inRows (rest : List Value)
  /-- The other errors are to be given. -/
  | inErrors (rest : List String)
  /-- Nothing is to be given any more. -/
  | spent
  deriving Repr

/-- What an iteration comes to when it is asked for its next item. -/
inductive Advance where
  | item (item : RowItem)
  | exhausted
  | failed (fault : Fault)
  deriving Repr

/-- A stream with the answer that it keeps and with the iterations over it. -/
structure IteratedStream where
  stream : ManagementStream
  answer : Option ManagementAnswer
  iterations : List Iteration

/-- A way to use a stream. -/
inductive StreamUse where
  /-- A new iteration is made. -/
  | iterate
  /-- The iteration at a place is asked for its next item. -/
  | advance (place : Nat)
  /-- The stream is closed. -/
  | close
  deriving DecidableEq, Repr

namespace Iteration

/-- Give the next one of several errors. -/
def nextError : List String → Advance × Iteration
  | [] => (.exhausted, .spent)
  | message :: rest => (.item (.inlineError message), .inErrors rest)

/-- Give the next one of several rows. Behind the last one come the errors of the answer that the
stream keeps by then. -/
def nextRow (kept : Option ManagementAnswer) : List Value → Advance × Iteration
  | row :: rest => (.item (.row row), .inRows rest)
  | [] =>
    match kept with
    | none => (.failed (.defect (.noProperty "NoneType" "errors_count")), .spent)
    | some answer => nextError answer.errors

end Iteration

namespace IteratedStream

/-- A stream over which there are no iterations yet. -/
def fresh (database statement : String) : IteratedStream :=
  ⟨.fresh database statement, none, []⟩

/-- Ask an iteration for its next item. The answer that the stream keeps is beside it. -/
def advance (stream : ManagementStream) (service : ManagementService)
    (kept : Option ManagementAnswer) :
    Iteration → StateM Session ((Advance × Iteration) × Option ManagementAnswer)
  | .waiting => do
    if stream.closed then return ((.failed .streamClosed, .spent), kept)
    match ← ExceptT.run (service.execute stream.database stream.statement) with
    | .ok answer => return (Iteration.nextRow (some answer) answer.rows, some answer)
    | .error fault => return ((.failed (ManagementStream.restate fault), .spent), kept)
  | .inRows rest => return (Iteration.nextRow kept rest, kept)
  | .inErrors rest => return (Iteration.nextError rest, kept)
  | .spent => return ((.exhausted, .spent), kept)

/-- Use a stream. Asking comes to something if there is an iteration at the place. -/
def use (iterated : IteratedStream) (service : ManagementService) :
    StreamUse → StateM Session (Option Advance × IteratedStream)
  | .iterate =>
    return (none, { iterated with iterations := iterated.iterations ++ [.waiting] })
  | .advance place => do
    match iterated.iterations[place]? with
    | none => return (none, iterated)
    | some iteration =>
      let (next, kept) ← advance iterated.stream service iterated.answer iteration
      return (some next.1, { iterated with
        answer := kept
        iterations := iterated.iterations.set place next.2 })
  | .close =>
    return (none, { iterated with
      stream := { iterated.stream with closed := true }
      answer := none })

end IteratedStream

end FleetSchema
