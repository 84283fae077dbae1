/-
**Generating jobs.**

A job generator writes a job file for the databases of a cluster and answers with a reference to
it. The generator of this library writes a job document, readable for its owner alone, since it may
hold a secret.

* `JobGenerator.answering`: the generator that answers as a function says;
* `JobWriter.generate`: the path of a new job file.
-/

import FleetSchema.Job.Document
import FleetSchema.Storage
import FleetSchema.Yaml

namespace FleetSchema

/-- What generates jobs. -/
structure JobGenerator where
  generate : (uri : String) → (databases : List String) → (schemaFile : Path) →
    (lossFlag : Value) → Action Fault Value

/-- The generator that answers as a function says. -/
def JobGenerator.answering
    (answer : String → List String → Path → Value → Except Fault Value) : JobGenerator where
  generate uri databases schemaFile lossFlag := do
    Action.call (.generated uri databases schemaFile.toText lossFlag)
    Action.ofExcept (answer uri databases schemaFile lossFlag)

/-- What writes job files: where they go, and how the engine is to sign in. -/
structure JobWriter where
  directory : Path
  tokenProvider : Option (List (String × Value))
  logger : String
  deriving Repr

namespace JobWriter

/-- The logger of a writer that is given none. -/
def defaultLogger : String := "kschema.core.adapters.deltakusto"

/-- The characters behind the first mark between a scheme and a host, or all of them. -/
def behindScheme (letters : List Char) : List Char :=
  let rec search : List Char → Option (List Char)
    | [] => none
    | ':' :: '/' :: '/' :: rest => some rest
    | _ :: rest => search rest
  (search letters).getD letters

/-- The label of a cluster in the name of its job file. -/
def hostLabel (uri : String) : String :=
  let label := (behindScheme uri.toList).takeWhile (· != '.')
  if label.isEmpty then "cluster" else String.ofList label

/-- The document for the databases of a cluster. -/
def document (writer : JobWriter) (uri : String) (databases : List String) (script : String)
    (lossFlag : Value) : JobDocument :=
  .make writer.tokenProvider uri databases script lossFlag

/-- Write a document into a new file. -/
def writeFresh (writer : JobWriter) (uri : String) (document : JobDocument) :
    Action Fault Path :=
  Storage.writeFresh writer.directory FileTree.ownerMode ("delta-" ++ hostLabel uri ++ "-") ".yaml"
    (Yaml.writeFields document.fields)

/-- A fault of writing: what the system refuses and what has no form in a document. -/
def restate (writer : JobWriter) (fault : Fault) : Fault :=
  if fault.families.system || fault.families.document then
    .jobUnwritten writer.directory.toText fault
  else fault

/-- Write a job file for the databases of a cluster. The answer is its path. -/
def generate (writer : JobWriter) (uri : String) (databases : List String) (schemaFile : String)
    (lossFlag : Value) : Action Fault Path := do
  let document := writer.document uri databases schemaFile lossFlag
  let path ← (writer.writeFresh uri document).onFault fun fault => throw (writer.restate fault)
  Action.log .debug writer.logger
    ("wrote delta-kusto job " ++ path.toText ++ " (" ++ toString document.jobs.length ++
      " job(s))") false
  return path

/-- A writer as a generator. -/
def generator (writer : JobWriter) : JobGenerator where
  generate uri databases schemaFile lossFlag :=
    return .path (← writer.generate uri databases schemaFile.toText lossFlag).toText

end JobWriter

end FleetSchema
