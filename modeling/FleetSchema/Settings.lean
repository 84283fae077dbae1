/-
**Settings.**

Settings come from named variables of the surroundings. A number that cannot be read gives way to
its default, and one below zero counts as zero.

* `Settings.load`: the settings that variables give;
* `AppCredentials.load`: how an application signs in, when all of it is given.
-/

import FleetSchema.Number.Numeral
import FleetSchema.Path
import FleetSchema.Text.LetterCase
import FleetSchema.Value

namespace FleetSchema

/-- Variables with their values. -/
abbrev Variables := List (String × String)

/-- The value of a variable. -/
def Variables.find (named : Variables) (name : String) : Option String :=
  (List.find? (·.1 == name) named).map (·.2)

/-- The value of a variable, unless it is empty. -/
def Variables.given (named : Variables) (name : String) : Option String :=
  (named.find name).filter fun value => !value.isEmpty

/-- The settings of a run. -/
structure Settings where
  workDirectory : Path
  engine : String
  lookupPatience : Double
  registryRetries : Int
  logLevel : String
  deriving Repr

namespace Settings

/-- How long a lookup waits by default, in seconds. -/
def defaultPatience : Double := .ofInt 30

/-- How often a registry request is tried again by default. -/
def defaultRetries : Int := 3

/-- A number from a variable, not below zero, or its default. -/
def numberFrom (given : Option String) (otherwise : Double) : Double :=
  match given.bind Numeral.decimal? with
  | some number => number.larger (.zero false)
  | none => otherwise

/-- An integer from a variable, not below zero, or its default. -/
def integerFrom (given : Option String) (otherwise : Int) : Int :=
  match given.bind Numeral.integer? with
  | some number => max number 0
  | none => otherwise

/-- The settings that variables give. Without a work directory of its own a run works below the
directory for passing files. -/
def load (named : Variables) (passing : Path) : Settings where
  workDirectory :=
    match named.given "KSCHEMA_WORK_DIR" with
    | some directory => .ofText directory
    | none => passing.join (.ofText "kschema")
  engine := (named.given "KSCHEMA_DELTA_KUSTO_BIN").getD "delta-kusto"
  lookupPatience := numberFrom (named.find "KSCHEMA_WEBHOOK_TIMEOUT") defaultPatience
  registryRetries := integerFrom (named.find "KSCHEMA_REGISTRY_RETRIES") defaultRetries
  logLevel := Text.upper ((named.given "KSCHEMA_LOG_LEVEL").getD "WARNING")

end Settings

/-! ### Credentials -/

/-- How an application signs in. -/
structure AppCredentials where
  tenant : String
  client : String
  secret : String
  deriving DecidableEq, Repr

namespace AppCredentials

/-- The credentials that variables give, when none of them is missing or empty. -/
def load (named : Variables) : Option AppCredentials := do
  let tenant ← named.given "AZURE_TENANT_ID"
  let client ← named.given "AZURE_CLIENT_ID"
  let secret ← named.given "AZURE_CLIENT_SECRET"
  return ⟨tenant, client, secret⟩

/-- The credentials as a way for the engine to sign in. -/
def tokenProvider (credentials : AppCredentials) : List (String × Value) :=
  [("login", .object [("tenantId", .text credentials.tenant),
    ("clientId", .text credentials.client), ("secret", .text credentials.secret)])]

end AppCredentials

end FleetSchema
