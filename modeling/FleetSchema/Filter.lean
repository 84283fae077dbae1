/-
**Filters.**

A filter says how the databases of a cluster are selected. Its fields stand for the ways to select;
when several are filled in, the first one in the order pattern, list, lookup counts, and when none
is, all databases are selected.

* `TargetFilter.mode`: the way that counts;
* `TargetFilter.ofMapping`: a filter from the fields of an object;
* `Selection.filter`: a filter from what a user asks for, if it makes sense.
-/

import FleetSchema.Catalogue
import FleetSchema.Cluster.Uri

namespace FleetSchema

/-- The ways to select databases. -/
inductive FilterMode where
  /-- A pattern is sought in the names of the cluster. -/
  | singleDb
  /-- The names are given. -/
  | explicitList
  /-- A lookup service gives the names. -/
  | webhook
  /-- All databases are selected. -/
  | all
  deriving DecidableEq, Repr

/-- The word of a way to select. -/
def FilterMode.word : FilterMode → String
  | .singleDb => "single_db"
  | .explicitList => "explicit_list"
  | .webhook => "webhook"
  | .all => "all"

/-- The way to select that a word names. -/
def FilterMode.ofWord? (word : String) : Option FilterMode :=
  [FilterMode.singleDb, .explicitList, .webhook, .all].find? (·.word == word)

/-- A filter. -/
structure TargetFilter where
  db : String
  dbs : List String
  webhook : String
  label : String
  deriving DecidableEq, Repr

namespace TargetFilter

/-- The filter that selects all databases. -/
def unfiltered : TargetFilter := ⟨"", [], "", ""⟩

/-- The ways to select that are filled in, in the order in which they count. -/
def populatedModes (filter : TargetFilter) : List FilterMode :=
  (if filter.db.isEmpty then [] else [.singleDb]) ++
    (if filter.dbs.isEmpty then [] else [.explicitList]) ++
      (if filter.webhook.isEmpty then [] else [.webhook])

/-- The way to select that counts. -/
def mode (filter : TargetFilter) : FilterMode := filter.populatedModes.head?.getD .all

/-! ### Filters from objects -/

/-- The text of a value, if all of a list of values are texts. -/
def textsOf? : List Value → Option (List String)
  | [] => some []
  | .text text :: rest => (textsOf? rest).map (text :: ·)
  | _ :: _ => none

/-- The names in a value; a value that does not count as given holds none. -/
def namesIn (value : Value) : Except Fault (List String) :=
  if !value.truthy then .ok []
  else
    match value with
    | .text _ => .error .notNames
    | value =>
      match value.items? with
      | none => .error (.defect (.notIterable value.formName))
      | some items =>
        match textsOf? items with
        | none => .error .notNames
        | some names => .ok names

/-- The text of a field; a value that does not count as given has none. -/
def textIn (value : Value) : String := if value.truthy then value.toText else ""

/-- The filter that the fields of an object write. -/
def ofMapping : Value → Except Fault TargetFilter
  | .object fields => do
    let names ← namesIn (Value.field fields "dbs")
    return ⟨textIn (Value.field fields "db"), names, textIn (Value.field fields "webhook"),
      textIn (Value.field fields "label")⟩
  | value => .error (.defect (.noProperty value.formName "get"))

end TargetFilter

/-! ### Filters from what a user asks for -/

/-- What a user asks for. -/
structure Selection where
  db : Option String
  names : List String
  webhook : Option String
  label : Option String
  selectAll : Bool
  deriving DecidableEq, Repr

namespace Selection

/-- The names that are not blank, without the blanks around them. -/
def givenNames (names : List String) : List String :=
  (names.map Text.trim).filter fun name => !name.isEmpty

/-- The names among values: values that do not count as given are passed over, the others must be
texts. -/
def namesAmong : List Value → Except Fault (List String)
  | [] => .ok []
  | .text name :: rest => (namesAmong rest).map (name :: ·)
  | value :: rest =>
    if value.truthy then .error (.defect (.noProperty value.formName "strip"))
    else namesAmong rest

/-- The names that a value of open form runs through. -/
def namesOf (value : Value) : Except Fault (List String) :=
  match value.items? with
  | none => .error (.defect (.notIterable value.formName))
  | some items => namesAmong items

/-- The filter for a selection, before it is checked. -/
def draft (selection : Selection) : TargetFilter :=
  ⟨selection.db.getD "", givenNames selection.names, selection.webhook.getD "",
    selection.label.getD ""⟩

/-- Whether an address is one of the web. -/
def isWebAddress (address : String) : Bool :=
  ClusterUri.startsAs "http://" address || ClusterUri.startsAs "https://" address

variable [Interpreter]

/-- Check that at most one way to select is given, that a label comes with a lookup service, that
the lookup service has a web address, that the pattern is one, and that nobody asks for all
databases through a filter. -/
def check (filter : TargetFilter) (selectAll : Bool) : Except Fault Unit := do
  if 1 < filter.populatedModes.length then
    throw (.severalModes (filter.populatedModes.map FilterMode.word))
  if !filter.label.isEmpty && filter.webhook.isEmpty then throw .labelAlone
  if !filter.webhook.isEmpty && !isWebAddress filter.webhook then
    throw (.lookupAddress filter.webhook)
  if !filter.db.isEmpty then
    let _ ← compileNamePattern filter.db
  if selectAll && filter.mode != .all then throw .allWithFilter

/-- The filter for a selection that makes sense. -/
def filter (selection : Selection) : Except Fault TargetFilter := do
  check selection.draft selection.selectAll
  return selection.draft

end Selection

end FleetSchema
