/-
**Defects.**

A defect is a fault that does not come from this library's own rules: the system refuses a path, a
value has the wrong form, a text cannot be read, or a collaborator reports a fault of its own. What
callers may tell apart about a defect is its families.

* `Defect.message`: the wording of a defect;
* `Defect.families`: the families it belongs to.
-/

import FleetSchema.FileTree
import FleetSchema.Json
import FleetSchema.Pattern

namespace FleetSchema

/-- The families of defects that callers tell apart. A defect may belong to several. -/
structure Families where
  /-- The operating system refused something. -/
  system : Bool := false
  /-- A web request failed. -/
  transport : Bool := false
  /-- A value of the right form cannot be accepted. -/
  value : Bool := false
  /-- A value has the wrong form. -/
  form : Bool := false
  /-- The management service failed. -/
  management : Bool := false
  /-- A document cannot be written. -/
  document : Bool := false
  deriving DecidableEq, Repr, Inhabited

/-- A fault as a collaborator reports it: the name it goes by, its families and its wording. -/
structure Report where
  label : String
  families : Families
  text : String
  deriving DecidableEq, Repr

/-- A fault that does not come from this library's own rules. -/
inductive Defect where
  /-- The system refuses a path. -/
  | refused (refusal : SystemRefusal) (path : String)
  /-- A collaborator reports a fault. -/
  | reported (report : Report)
  /-- A value of this form has no first item. -/
  | notSubscriptable (form : String)
  /-- A list has no item at a place. -/
  | listTooShort
  /-- A text has no character at a place. -/
  | textTooShort
  /-- An object has no field under a key. -/
  | missingKey (key : Value)
  /-- A value of this form does not run through items. -/
  | notIterable (form : String)
  /-- A value of this form cannot be a key. -/
  | notHashable (form : String)
  /-- A value of this form has no length. -/
  | noLength (form : String)
  /-- A value of this form lacks a property. -/
  | noProperty (form property : String)
  /-- An item of a list to be joined is no text. -/
  | notTextItem (index : Nat) (form : String)
  /-- A value of this form is no path. -/
  | notPath (form : String)
  /-- The system fails to write a file: its number and its wording for that. -/
  | unwritten (number : Nat) (wording : String)
  /-- A path holds a NUL character. -/
  | embeddedNull
  /-- Bytes are no text. -/
  | undecodable (fault : Text.Utf8.DecodeFault)
  /-- A text is no name pattern. -/
  | unusablePattern (pattern : String) (refusal : Pattern.Refusal)
  /-- A pattern matches with a group that ends before it starts. -/
  | crossedGroup
  /-- A text is no JSON. -/
  | notJson (fault : Json.Fault)
  /-- A web answer has a status that stands for failure. -/
  | badStatus (status : Int) (reason address : String)
  /-- No web answer is left. -/
  | noAnswerLeft
  /-- A word names no level of diagnostics. -/
  | unknownLevel (level : String)
  /-- A number of workers is below one. -/
  | noWorkers
  /-- Two plans of one rollout share a cluster. -/
  | sharedCluster
  /-- A value has no form in a document. -/
  | unrepresentable (value : Value)
  /-- A prompt does not know an option that it is given. -/
  | unknownOption (text : String)
  deriving Repr, Inhabited

namespace Defect

/-- Whether a pattern is refused for its size or its switches and not for its syntax. -/
def patternFamilies : Pattern.Refusal → Families
  | .bothAlphabets | .numeralTooLong _ => { value := true }
  | _ => {}

/-- The families of a defect. -/
def families : Defect → Families
  | .refused .. | .unwritten .. => { system := true }
  | .reported report => report.families
  | .notSubscriptable _ | .notIterable _ | .notHashable _ | .noLength _ | .notTextItem ..
  | .notPath _ | .unknownOption _ => { form := true }
  | .embeddedNull | .undecodable _ | .unknownLevel _ | .noWorkers | .sharedCluster =>
    { value := true }
  | .unusablePattern _ refusal => patternFamilies refusal
  | .notJson (.malformed ..) => { system := true, transport := true, value := true }
  | .notJson (.integerTooLong _) => { value := true }
  | .badStatus .. | .noAnswerLeft => { system := true, transport := true }
  | .unrepresentable _ => { document := true }
  | .listTooShort | .textTooShort | .missingKey _ | .noProperty .. | .crossedGroup => {}

/-- The two words for a status that stands for failure. -/
def statusWord (status : Int) : String := if status < 500 then "Client Error" else "Server Error"

/-- The wording of the system for what it counts under a number. -/
def systemText (number : Nat) (wording : String) : String :=
  "[Errno " ++ toString number ++ "] " ++ wording

/-- The wording of a refusal of the system. -/
def refusalText (refusal : SystemRefusal) (path : String) : String :=
  systemText refusal.number refusal.wording ++ ": " ++ Text.quote path

/-- The wording of a defect. -/
def message : Defect → String
  | .refused refusal path => refusalText refusal path
  | .unwritten number wording => systemText number wording
  | .reported report => report.text
  | .notSubscriptable form => "'" ++ form ++ "' object is not subscriptable"
  | .listTooShort => "list index out of range"
  | .textTooShort => "string index out of range"
  | .missingKey key => key.written
  | .notIterable form => "'" ++ form ++ "' object is not iterable"
  | .notHashable form => "unhashable type: '" ++ form ++ "'"
  | .noLength form => "object of type '" ++ form ++ "' has no len()"
  | .noProperty form property =>
    "'" ++ form ++ "' object has no attribute '" ++ property ++ "'"
  | .notTextItem index form =>
    "sequence item " ++ toString index ++ ": expected str instance, " ++ form ++ " found"
  | .notPath form => "expected str, bytes or os.PathLike object, not " ++ form
  | .embeddedNull => "embedded null byte"
  | .undecodable fault => fault.message
  | .unusablePattern pattern refusal => refusal.message pattern
  | .crossedGroup =>
    "The span of capturing group is wrong, please report a bug for the re module."
  | .notJson fault => fault.message
  | .badStatus status reason address =>
    toString status ++ " " ++ statusWord status ++ ": " ++ reason ++ " for url: " ++ address
  | .noAnswerLeft => "no scripted response left"
  | .unknownLevel level => "Unknown log level: " ++ level
  | .noWorkers => "max_parallel must be >= 1"
  | .sharedCluster => "each cluster may appear only once per rollout"
  | .unrepresentable value => "('cannot represent an object', " ++ value.written ++ ")"
  | .unknownOption text => text

end Defect

end FleetSchema
