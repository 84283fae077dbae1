/-
**Connecting to clusters.**

A client for a cluster is made for its address in normal form, once the address is found to be one.
An application signs in with its credentials when they are given; otherwise the session of the
command line tools is used.

* `Attempt.client`: the client that an attempt makes, with a number of its own;
* `Gateway.serviceOf`: the service behind a client, which says which client that is;
* `connect`: a cluster with a client made for it.
-/

import FleetSchema.Cluster
import FleetSchema.Management
import FleetSchema.Settings

namespace FleetSchema

/-- An attempt to make a client: the address that it is for, and all that happened before. -/
structure Attempt where
  uri : String
  past : List Event

namespace Attempt

/-- Whether an event is the making of a client. -/
def isMaking : Event → Bool
  | .call (.connected ..) => true
  | _ => false

/-- The client that an attempt makes. Its number is that of the attempts before which came to the
making of a client. -/
def client (attempt : Attempt) : Client := ⟨attempt.past.countP isMaking, attempt.uri⟩

end Attempt

/-- What makes clients for clusters: when preparing the login fails, when making the client fails,
and the service behind a client. -/
structure Gateway where
  loginFault : Attempt → Option Fault
  clientFault : Attempt → Option Fault
  service : Client → ManagementService

/-- The service behind a client. -/
def Gateway.serviceOf (gateway : Gateway) (client : Client) : ManagementService :=
  { gateway.service client with identity := some client }

namespace Connection

/-- How a client for an address signs in. -/
def loginFor (named : Variables) (uri : String) : Login :=
  match AppCredentials.load named with
  | some credentials =>
    .application uri credentials.client credentials.secret credentials.tenant
  | none => .userSession uri

/-- Make a client for an address in normal form. -/
def makeClient (gateway : Gateway) (named : Variables) (uri : String) :
    Action Fault QueryClient := do
  let attempt : Attempt := ⟨uri, (← get).events⟩
  ClientScript.failing (gateway.loginFault attempt)
  Action.call (.connected attempt.client (loginFor named uri))
  ClientScript.failing (gateway.clientFault attempt)
  return (gateway.serviceOf attempt.client).client

/-- A fault of the service or about a value is one of the login. -/
def restate (uri : String) (fault : Fault) : Fault :=
  if fault.families.management || fault.families.value then .authentication uri fault else fault

/-- A client for the cluster at an address. -/
def clientFor (gateway : Gateway) (named : Variables) (uri : String) :
    Action Fault QueryClient := do
  let uri := ClusterUri.normalize uri
  let _ ← Action.ofExcept (ClusterUri.name uri)
  (makeClient gateway named uri).onFault fun fault => throw (restate uri fault)

/-- The logger of the cluster with a name. -/
def loggerFor (name : String) : String := Cluster.defaultLogger ++ "." ++ name

end Connection

/-- The cluster at an address with a client made for it. -/
def connect (gateway : Gateway) (named : Variables) (uri : String) (logger : Option String) :
    Action Fault Cluster := do
  let client ← Connection.clientFor gateway named uri
  let name ← Action.ofExcept (ClusterUri.name (ClusterUri.normalize uri))
  Action.ofExcept (Cluster.make uri client (logger.getD (Connection.loggerFor name)))

end FleetSchema
