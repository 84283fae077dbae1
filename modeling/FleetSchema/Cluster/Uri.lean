/-
**Addresses of clusters.**

A cluster is addressed by a web address whose first host label is its short name. An address is
brought into normal form before it is used: without blanks around it, without a query and without
slashes at the end.

* `normalize`: the normal form of an address;
* `name`: the short name, or why a text is no address of a cluster.
-/

import FleetSchema.Fault
import FleetSchema.Text.Blank

namespace FleetSchema.ClusterUri

/-- What the address of a cluster starts with. -/
def scheme : String := "https://"

/-- The normal form of the characters of an address. -/
def normalizeChars (letters : List Char) : List Char :=
  Text.dropTail (· == '/') ((Text.trimChars letters).takeWhile (· != '?'))

/-- The normal form of an address. -/
def normalize (uri : String) : String := String.ofList (normalizeChars uri.toList)

/-- Whether a text starts with another one. -/
def startsAs (start text : String) : Bool := start.toList.isPrefixOf text.toList

/-- The first label of a host at the front of a text. -/
def firstLabel (letters : List Char) : List Char :=
  (letters.takeWhile (· != '/')).takeWhile (· != '.')

/-- The characters of the short name in an address that starts as one. -/
def labelOf (uri : String) : List Char := firstLabel (uri.toList.drop scheme.length)

/-- The short name of the cluster at an address. -/
def name (uri : String) : Except Fault String :=
  if startsAs scheme uri then
    if (labelOf uri).isEmpty then .error (.uriHost uri) else .ok (String.ofList (labelOf uri))
  else .error (.uriStart uri)

end FleetSchema.ClusterUri
