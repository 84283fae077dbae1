/-
**What a run does to the outside.**

A run calls on collaborators, writes diagnostics and writes to the console. Each of these is an
event; the events of a run stand in the order in which they happened.

* `Client`: a client for a cluster, told apart from every other one;
* `Call`: what is asked of a collaborator;
* `LogRecord`: a diagnostic;
* `ConsoleLine`: what the user gets to see.
-/

import FleetSchema.Fault

namespace FleetSchema

/-! ### Calls on collaborators -/

/-- How a client for a cluster proves who it is. -/
inductive Login where
  /-- The session of the command line tools is used. -/
  | userSession (uri : String)
  /-- An application signs in with its secret. -/
  | application (uri client secret tenant : String)
  deriving DecidableEq, Repr

/-- A client for a cluster. Several clients may be made for one address; the number, which counts
the clients that were tried to be made before, tells them apart. -/
structure Client where
  number : Nat
  uri : String
  deriving DecidableEq, Repr

/-- A web request. -/
structure WebRequest where
  address : String
  parameters : Option (List (String × String))
  headers : Option (List (String × String))
  patience : Value
  deriving Repr

/-- What is asked of a collaborator. -/
inductive Call where
  /-- A management statement is issued. -/
  | queried (database statement : String)
  /-- A row stream is closed. -/
  | streamClosed
  /-- A client is closed; a client for a cluster says which one it is. -/
  | clientClosed (client : Option Client)
  /-- The management service runs a statement for a client. -/
  | executed (client : Option Client) (database : Option String) (statement : String)
  /-- A client for a cluster is made. -/
  | connected (client : Client) (login : Login)
  /-- The lookup service is asked for names. -/
  | lookedUp (endpoint cluster label : String)
  /-- A web request is sent. -/
  | fetched (request : WebRequest)
  /-- A token is asked for. -/
  | tokenAsked (scopes : List String)
  /-- A job is generated. -/
  | generated (uri : String) (databases : List String) (schemaFile : String) (lossFlag : Value)
  /-- A job is applied. -/
  | applied (job : String)
  /-- A number of workers is set up. -/
  | pooled (workers : Value)
  /-- A program is started. -/
  | started (arguments : List String)
  deriving Repr

/-! ### Diagnostics -/

/-- The levels of diagnostics. -/
inductive LogLevel where
  | debug
  | info
  | warning
  | error
  | critical
  deriving DecidableEq, Repr

/-- The weight of a level. -/
def LogLevel.weight : LogLevel → Nat
  | .debug => 10
  | .info => 20
  | .warning => 30
  | .error => 40
  | .critical => 50

/-- The word of a level. -/
def LogLevel.word : LogLevel → String
  | .debug => "DEBUG"
  | .info => "INFO"
  | .warning => "WARNING"
  | .error => "ERROR"
  | .critical => "CRITICAL"

/-- A diagnostic. It may show the fault that it is about. -/
structure LogRecord where
  level : LogLevel
  logger : String
  message : String
  showsFault : Bool
  deriving DecidableEq, Repr

/-! ### Console -/

/-- A column of a table. -/
structure Column where
  header : String
  style : String
  toRight : Bool
  unbroken : Bool
  deriving DecidableEq, Repr

/-- A table; its rows may be ruled. -/
structure Table where
  title : String
  ruled : Bool
  columns : List Column
  rows : List (List String)
  deriving DecidableEq, Repr

/-- The kinds of prompts. -/
inductive PromptKind where
  | checkbox
  | confirm
  deriving DecidableEq, Repr

/-- The word of a kind of prompts. -/
def PromptKind.word : PromptKind → String
  | .checkbox => "checkbox"
  | .confirm => "confirm"

/-- What the user gets to see. -/
inductive ConsoleLine where
  /-- A line with markup. -/
  | print (markup : String)
  | table (table : Table)
  /-- Work starts that is reported while it goes on. -/
  | statusBegin (message : String)
  | statusEnd
  /-- A question, with the options that shape it. -/
  | prompt (kind : PromptKind) (message : String) (options : List (String × Value))
  /-- A prompt that refuses its options. -/
  | rejected (kind : PromptKind) (options : List String)
  deriving Repr

/-- One thing that a run does to the outside. -/
inductive Event where
  | call (call : Call)
  | log (record : LogRecord)
  | console (line : ConsoleLine)
  deriving Repr

end FleetSchema
