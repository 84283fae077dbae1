/-
**Job documents.**

A job document tells the apply engine to bring the databases of one cluster to the schema in a file.
It holds one job for each database.

* `JobDocument.make`: the document for a list of databases;
* `JobDocument.fields`: the document as an object.
-/

import FleetSchema.Job.Key
import FleetSchema.Value

namespace FleetSchema

/-- A job: a database of a cluster and the script that it is brought to. -/
structure Job where
  clusterUri : String
  database : String
  script : String
  deriving DecidableEq, Repr

/-- A job document. -/
structure JobDocument where
  lossFlag : Value
  tokenProvider : Option (List (String × Value))
  jobs : List (String × Job)
  deriving Repr

/-- A job as an object. -/
def Job.toValue (job : Job) : Value :=
  .object [
    ("current", .object [("adxDatabase", .object [
      ("clusterUri", .text job.clusterUri), ("database", .text job.database)])]),
    ("target", .object [("scripts", .list [.object [("filePath", .text job.script)]])]),
    ("action", .object [("pushToCurrent", .bool true)])]

namespace JobDocument

/-- Put a job under a key; a job that stands there already gives way. -/
def put (jobs : List (String × Job)) (entry : String × Job) : List (String × Job) :=
  if jobs.any (·.1 == entry.1) then
    jobs.map fun other => if other.1 == entry.1 then entry else other
  else jobs ++ [entry]

/-- The document for the databases of a cluster. -/
def make (tokenProvider : Option (List (String × Value))) (clusterUri : String)
    (databases : List String) (script : String) (lossFlag : Value) : JobDocument where
  lossFlag := lossFlag
  tokenProvider := tokenProvider
  jobs := ((Job.keys databases).zip
    (databases.map fun database => ⟨clusterUri, database, script⟩)).foldl put []

/-- The fields of a document, in the order in which they are written. -/
def fields (document : JobDocument) : List (String × Value) :=
  [("sendErrorOptIn", .bool false), ("failIfDataLoss", document.lossFlag)] ++
    (match document.tokenProvider with
      | some provider => [("tokenProvider", .object provider)]
      | none => []) ++
    [("jobs", .object (document.jobs.map fun (key, job) => (key, job.toValue)))]

end JobDocument

end FleetSchema
