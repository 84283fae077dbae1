/-
**Schema registries.**

A schema registry lists its groups page by page. Each page may name the address of the next one; a
page without such an address is the last. A page that cannot be had spoils the whole listing.

* `Registry.groups`: the names of all groups, page after page.
-/

import FleetSchema.Cluster.Uri
import FleetSchema.Web

namespace FleetSchema

/-- A schema registry: its host, what gives tokens for it, and how long a request waits. Whether
there is a token, and which one, may depend on all that happened before. -/
structure Registry where
  endpoint : String
  credential : Option ((past : List Event) → Except Fault String)
  patience : Value

namespace Registry

/-- The version of the registry's interface. -/
def interfaceVersion : String := "2021-10"

/-- What a token is asked for. -/
def scope : String := "https://eventhubs.azure.net/.default"

/-- How many characters of an answer are shown. -/
def shownCharacters : Nat := 200

/-- A host without the scheme in front of it and the slashes behind it. -/
def hostOf (endpoint : String) : String :=
  let letters := endpoint.toList
  let host := if ClusterUri.startsAs ClusterUri.scheme endpoint then
    letters.drop ClusterUri.scheme.length else letters
  String.ofList (Text.dropTail (· == '/') host)

/-- A registry at a host, with a credential that always gives the same. -/
def make (endpoint : String) (credential : Option (Except Fault String)) (patience : Value) :
    Registry :=
  ⟨hostOf endpoint, credential.map fun given _ => given, patience⟩

/-- The headers of a request; a registry with a credential gets a fresh token. -/
def headers (registry : Registry) : Action Fault (List (String × String)) := do
  let accept := ("Accept", "application/json")
  match registry.credential with
  | none => return [accept]
  | some credential =>
    let past := (← get).events
    Action.call (.tokenAsked [scope])
    match credential past with
    | .ok token => return [accept, ("Authorization", "Bearer " ++ token)]
    | .error fault => throw (.registryToken registry.endpoint fault)

/-- Ask for a page. -/
def ask (registry : Registry) (address : String) (parameters : Option (List (String × String))) :
    Action Fault Value := do
  let headers ← registry.headers
  let answer ← Web.fetch ⟨address, parameters, some headers, registry.patience⟩
  if answer.status != 200 then
    throw (.registryStatus registry.endpoint answer.status
      (String.ofList (answer.body.toList.take shownCharacters)))
  Action.ofExcept (Web.readJson answer)

/-- A fault of the web is one of the registry, and so is an answer that cannot be read. -/
def restate (registry : Registry) (fault : Fault) : Fault :=
  if fault.families.transport then .registryRequest registry.endpoint fault
  else if fault.families.value then .registryAnswer registry.endpoint fault
  else fault

/-- The fields of a page. -/
def page (registry : Registry) (address : String)
    (parameters : Option (List (String × String))) : Action Fault (List (String × Value)) := do
  match ← (registry.ask address parameters).onFault fun fault => throw (registry.restate fault) with
  | .object fields => return fields
  | _ => throw (.registryPayload registry.endpoint)

/-- The names of the groups on a page. -/
def groupsOn (fields : List (String × Value)) : Except Defect (List String) :=
  let groups := Value.field fields "schemaGroups"
  if groups.truthy then
    match groups.items? with
    | some items => .ok (items.map Value.toText)
    | none => .error (.notIterable groups.formName)
  else .ok []

/-- The address of the page behind a page. An address within the registry gets its host. -/
def nextAddress (registry : Registry) (fields : List (String × Value)) :
    Except Defect (Option String) :=
  match Value.field fields "nextLink" with
  | .text "" => .ok none
  | .text address =>
    .ok (some (if ClusterUri.startsAs "/" address then
      ClusterUri.scheme ++ registry.endpoint ++ address else address))
  | value =>
    if value.truthy then .error (.noProperty value.formName "startswith") else .ok none

/-- The groups on a page and on the pages behind it; `fuel` bounds the answers left. -/
def groupsFrom (registry : Registry) (address : String)
    (parameters : Option (List (String × String))) : Nat → Action Fault (List String)
  | 0 => return []
  | fuel + 1 => do
    let fields ← registry.page address parameters
    let groups ← Action.ofDefect (groupsOn fields)
    match ← Action.ofDefect (registry.nextAddress fields) with
    | none => return groups
    | some next =>
      let others ← groupsFrom registry next none fuel
      return groups ++ others

/-- The address of the first page. -/
def firstAddress (registry : Registry) : String :=
  ClusterUri.scheme ++ registry.endpoint ++ "/$schemaGroups"

/-- The names of all groups, page after page. Every page uses up an answer of the web, and a request
without an answer fails, so that the listing ends. -/
def groups (registry : Registry) : Action Fault (List String) := do
  registry.groupsFrom registry.firstAddress (some [("api-version", interfaceVersion)])
    ((← get).web.length + 1)

end Registry

end FleetSchema
