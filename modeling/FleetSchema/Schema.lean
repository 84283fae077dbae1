/-
**Schema definitions.**

A schema definition is a text in some dialect. Its text is not looked into. Before it is applied it
is stored in a file of its own, and from then on only that file is spoken of.

* `SchemaDefinition.ofMapping`, `ofFile`: where a definition comes from;
* `SchemaStore.store`: a new file for a definition.
-/

import FleetSchema.Storage
import FleetSchema.Text.Line

namespace FleetSchema

/-- A schema in some dialect. -/
structure SchemaDefinition where
  text : String
  dialect : String
  deriving DecidableEq, Repr

namespace SchemaDefinition

/-- The dialect of a schema that names none. -/
def defaultDialect : String := "kql"

/-- The first text that is not empty, or the default dialect. -/
def dialectAmong (names : List String) : String :=
  (names.find? fun name => !name.isEmpty).getD defaultDialect

/-- The schema under a key of configuration data. -/
def ofMapping (data : List (String × Value)) (key : String) : Except Fault SchemaDefinition :=
  match Value.field data key with
  | .null => .error (.schemaMissing key)
  | text => .ok ⟨text.toText, key⟩

/-- The ending of a file name without the points in front of it. -/
def endingOf (path : Path) : String :=
  String.ofList (path.suffix.toList.dropWhile (· == '.'))

/-- The text of bytes, with one kind of line end. -/
def textOf (bytes : List UInt8) : Except Defect String :=
  match Text.Utf8.decode bytes with
  | .ok text => .ok (Text.unifyLineEnds text)
  | .error fault => .error (.undecodable fault)

/-- The schema in a file. Its dialect is the ending of the file name unless another one is given. -/
def ofFile (path : Path) (dialect : String) : Action Fault SchemaDefinition := do
  let bytes ← (Storage.read path).onFault fun fault =>
    throw (if fault.families.system then .schemaUnread path.toText fault else fault)
  let text ← Action.ofDefect (textOf bytes)
  return ⟨text, dialectAmong [dialect, endingOf path]⟩

end SchemaDefinition

/-! ### Storing -/

/-- A place for schema definitions. -/
structure SchemaStore where
  root : Path
  logger : String
  deriving DecidableEq, Repr

namespace SchemaStore

/-- The logger of a store that is given none. -/
def defaultLogger : String := "kschema.core.schema"

/-- Write a definition into a new file. -/
def writeFresh (store : SchemaStore) (schema : SchemaDefinition) : Action Fault Path :=
  Storage.writeFresh store.root FileTree.openMode "schema-" ("." ++ schema.dialect)
    (.ok schema.text)

/-- The fault of storing: what the system refuses is written down. -/
def storeFault {α : Type} (store : SchemaStore) (fault : Fault) : Action Fault α := do
  if fault.families.system then
    Action.log .error store.logger ("failed storing schema under " ++ store.root.toText) true
    throw (.schemaUnstored store.root.toText fault)
  else throw fault

/-- Store a definition. The answer is the path of its file. -/
def store (place : SchemaStore) (schema : SchemaDefinition) : Action Fault Path := do
  let path ← (place.writeFresh schema).onFault place.storeFault
  Action.log .debug place.logger
    ("stored " ++ schema.dialect ++ " schema at " ++ path.toText) false
  return path

end SchemaStore

end FleetSchema
