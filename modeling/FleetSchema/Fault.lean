/-
**Faults.**

Whatever stops an operation is a fault: a defect, or a fault that this library states. A stated
fault has a kind, so that callers branch on the kind and not on the wording, and it keeps the fault
that it arose from.

* `Fault.kind?`: the kind of a stated fault; a defect has none;
* `Fault.message`: the wording;
* `Fault.cause?`: what a fault arose from.
-/

import FleetSchema.Fault.Defect

namespace FleetSchema

/-- The kinds of stated faults. -/
inductive FaultKind where
  | general
  | filter
  | query
  | lookup
  | storage
  | build
  | execution
  | clusterUri
  | auth
  | registry
  deriving DecidableEq, Repr, Inhabited

/-- Whatever stops an operation. -/
inductive Fault where
  /-- A fault that does not come from this library's own rules. -/
  | defect (defect : Defect)
  /-- A collaborator states a fault of one of the kinds in its own words. -/
  | stated (kind : FaultKind) (text : String)
  /-- A cluster address does not start as one. -/
  | uriStart (uri : String)
  /-- A cluster address names no host. -/
  | uriHost (uri : String)
  /-- A text is no name pattern. -/
  | badPattern (pattern : String) (refusal : Pattern.Refusal)
  /-- The names of a filter are no list of names. -/
  | notNames
  /-- Several ways to select are given at once. -/
  | severalModes (modes : List String)
  /-- A label is given without a lookup service. -/
  | labelAlone
  /-- The address of a lookup service is no web address. -/
  | lookupAddress (address : String)
  /-- All databases are asked for together with a filter. -/
  | allWithFilter
  /-- The databases of a cluster cannot be listed. -/
  | listing (uri : String) (cause : Fault)
  /-- A row stream is read after it was closed. -/
  | streamClosed
  /-- The management service fails. -/
  | management (cause : Fault)
  /-- The lookup service cannot be asked. -/
  | lookupRequest (endpoint cluster : String) (cause : Fault)
  /-- The answer of the lookup service is no JSON. -/
  | lookupAnswer (endpoint : String) (cause : Fault)
  /-- The answer of the lookup service is no list of names. -/
  | lookupNames (endpoint : String)
  /-- A lookup ends in a fault that is not stated. -/
  | lookupFault (cluster endpoint : String) (cause : Fault)
  /-- A schema file cannot be read. -/
  | schemaUnread (path : String) (cause : Fault)
  /-- A schema cannot be stored. -/
  | schemaUnstored (root : String) (cause : Fault)
  /-- Configuration data holds no schema under a key. -/
  | schemaMissing (key : String)
  /-- A job file cannot be written. -/
  | jobUnwritten (directory : String) (cause : Fault)
  /-- A job cannot be generated. -/
  | generation (uri : String) (cause : Fault)
  /-- A job generator answers with something that is no reference. -/
  | badReference (reference : Value)
  /-- The apply engine cannot be started. -/
  | notStarted (binary : String) (cause : Fault)
  /-- The apply engine ends with a code that stands for failure. -/
  | exited (binary : String) (code : Int) (job tail : String)
  /-- A schema cannot be applied. -/
  | applying (uri : String) (cause : Fault)
  /-- A client for a cluster cannot be made. -/
  | authentication (uri : String) (cause : Fault)
  /-- No token can be had for a registry. -/
  | registryToken (endpoint : String) (cause : Fault)
  /-- A registry answers with another status than success. -/
  | registryStatus (endpoint : String) (status : Int) (body : String)
  /-- A registry cannot be asked. -/
  | registryRequest (endpoint : String) (cause : Fault)
  /-- The answer of a registry is no JSON. -/
  | registryAnswer (endpoint : String) (cause : Fault)
  /-- The answer of a registry is no object. -/
  | registryPayload (endpoint : String)
  deriving Repr, Inhabited

namespace Fault

/-- The kind of a stated fault. -/
def kind? : Fault → Option FaultKind
  | .defect _ => none
  | .stated kind _ => some kind
  | .uriStart _ | .uriHost _ => some .clusterUri
  | .badPattern .. | .notNames | .severalModes _ | .labelAlone | .lookupAddress _
  | .allWithFilter => some .filter
  | .listing .. | .streamClosed | .management _ => some .query
  | .lookupRequest .. | .lookupAnswer .. | .lookupNames _ | .lookupFault .. => some .lookup
  | .schemaUnread .. | .schemaUnstored .. => some .storage
  | .schemaMissing _ | .jobUnwritten .. | .generation .. | .badReference _ => some .build
  | .notStarted .. | .exited .. | .applying .. => some .execution
  | .authentication .. => some .auth
  | .registryToken .. | .registryStatus .. | .registryRequest .. | .registryAnswer ..
  | .registryPayload _ => some .registry

/-- Whether a fault is stated. -/
def isStated (fault : Fault) : Bool := fault.kind?.isSome

/-- Whether a fault is stated and of a kind. -/
def isKind (fault : Fault) (kind : FaultKind) : Bool := fault.kind? == some kind

theorem isStated_of_isKind {fault : Fault} {kind : FaultKind} (known : fault.isKind kind = true) :
    fault.isStated = true := by
  simp only [isKind, beq_iff_eq] at known
  simp [isStated, known]

/-- The families of a fault. A fault about a cluster address is also one about a value. -/
def families : Fault → Families
  | .defect what => what.families
  | fault => { value := fault.isKind .clusterUri }

/-- What a fault arose from. -/
def cause? : Fault → Option Fault
  | .badPattern pattern refusal => some (.defect (.unusablePattern pattern refusal))
  | .listing _ cause | .management cause | .lookupRequest _ _ cause | .lookupAnswer _ cause
  | .lookupFault _ _ cause | .schemaUnread _ cause | .schemaUnstored _ cause
  | .jobUnwritten _ cause | .generation _ cause | .notStarted _ cause | .applying _ cause
  | .authentication _ cause | .registryToken _ cause | .registryRequest _ cause
  | .registryAnswer _ cause => some cause
  | _ => none

/-! ### Wording -/

/-- Whether a text holds another one. -/
def holds (text part : String) : Bool := (text.splitOn part).length != 1

/-- The wording of a failed login: a missing session gets advice. -/
def authenticationText (reason uri : String) : String :=
  if holds reason "az login" || holds reason "AzureCliCredential" then
    "Kusto authentication failed for " ++ uri ++ ". Your Azure CLI session is missing.\n" ++
      "Re-authenticate with:\n  $ az login"
  else "Kusto authentication failed for " ++ uri ++ ": " ++ reason

/-- The wording of an engine that ends with a code, followed by the end of what it said. -/
def exitText (binary : String) (code : Int) (job tail : String) : String :=
  binary ++ " exited with code " ++ toString code ++ " for " ++ job ++
    (if tail.isEmpty then "" else ":\n" ++ tail)

/-- The wording of a fault. -/
def message : Fault → String
  | .defect what => what.message
  | .stated _ text => text
  | .uriStart uri => "Cluster URI must start with https://: " ++ Text.quote uri
  | .uriHost uri => "Cluster URI has no host name: " ++ Text.quote uri
  | .badPattern pattern refusal =>
    "Invalid database name pattern " ++ Text.quote pattern ++ ": " ++ refusal.message pattern
  | .notNames => "`dbs` must be a list of database names."
  | .severalModes modes =>
    "Use only one of --db, --dbs or --webhook (got " ++ ", ".intercalate modes ++ ")."
  | .labelAlone => "--label can only be used together with --webhook."
  | .lookupAddress address => "--webhook must be an http(s) URL: " ++ Text.quote address
  | .allWithFilter => "--all cannot be combined with --db, --dbs or --webhook."
  | .listing uri cause => "Failed to list databases on " ++ uri ++ ": " ++ cause.message
  | .streamClosed => "Row stream is already closed."
  | .management cause => "Management command failed: " ++ cause.message
  | .lookupRequest endpoint cluster cause =>
    "Target lookup at " ++ endpoint ++ " failed for " ++ cluster ++ ": " ++ cause.message
  | .lookupAnswer endpoint cause =>
    "Target lookup at " ++ endpoint ++ " returned invalid JSON: " ++ cause.message
  | .lookupNames endpoint =>
    "Target lookup at " ++ endpoint ++ " must return a JSON list of database names."
  | .lookupFault cluster endpoint cause =>
    "Target lookup for " ++ cluster ++ " at " ++ endpoint ++ " failed: " ++ cause.message
  | .schemaUnread path cause => "Could not read schema file " ++ path ++ ": " ++ cause.message
  | .schemaUnstored root cause => "Could not store schema under " ++ root ++ ": " ++ cause.message
  | .schemaMissing key => "no " ++ key ++ " found in configuration data"
  | .jobUnwritten directory cause =>
    "Could not write delta-kusto job file under " ++ directory ++ ": " ++ cause.message
  | .generation uri cause => "Job generation failed for " ++ uri ++ ": " ++ cause.message
  | .badReference reference =>
    "Job generator returned an invalid reference: " ++ reference.written
  | .notStarted binary cause => "Could not start " ++ binary ++ ": " ++ cause.message
  | .exited binary code job tail => exitText binary code job tail
  | .applying uri cause => "Schema apply failed on " ++ uri ++ ": " ++ cause.message
  | .authentication uri cause => authenticationText cause.message uri
  | .registryToken endpoint cause =>
    "Could not obtain a token for " ++ endpoint ++ ": " ++ cause.message
  | .registryStatus endpoint status body =>
    "Listing schema groups on " ++ endpoint ++ " returned HTTP " ++ toString status ++ ": " ++ body
  | .registryRequest endpoint cause =>
    "Listing schema groups on " ++ endpoint ++ " failed: " ++ cause.message
  | .registryAnswer endpoint cause =>
    "Schema registry " ++ endpoint ++ " returned invalid JSON: " ++ cause.message
  | .registryPayload endpoint =>
    "Schema registry " ++ endpoint ++ " returned an unexpected payload."

end Fault

end FleetSchema
