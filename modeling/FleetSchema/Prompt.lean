/-
**Prompts.**

A prompt asks the user a question. Its look is set by options, of which some are unknown to prompts
of an older make; a prompt that refuses its options is asked once more without them.

* `Prompt.select`: which of several choices the user picks;
* `Prompt.confirm`: whether the user agrees.
-/

import FleetSchema.Console

namespace FleetSchema

/-- Something that the user may pick. -/
structure Choice where
  title : String
  value : Value
  checked : Bool
  deriving Repr

namespace Choice

/-- A choice; one that stands for nothing else stands for its title. -/
def make (title : String) (value : Value) (checked : Bool) : Choice :=
  match value with
  | .null => ⟨title, .text title, checked⟩
  | value => ⟨title, value, checked⟩

/-- A choice that stands for its title. -/
def ofText (text : String) (checked : Bool) : Choice := ⟨text, .text text, checked⟩

/-- A choice as the value of an option. -/
def toValue (choice : Choice) : Value :=
  .list [.text choice.title, choice.value, .bool choice.checked]

end Choice

namespace Prompt

/-- A message with the name of the tool in front of it. -/
def titled (message : String) : String := "[kschema] " ++ message

/-- The sign in front of a question. -/
def questionSign : Value := .text "✦"

/-- The options that prompts of an older make do not know. -/
def newerOptions : List String := ["pointer", "checked_icon", "unchecked_icon", "auto_enter"]

/-- Options without those that prompts of an older make do not know. -/
def plainOptions (options : List (String × Value)) : List (String × Value) :=
  options.filter fun (name, _) => !newerOptions.contains name

/-- Whether prompts understand options. -/
def understands (support : PromptSupport) (options : List (String × Value)) : Bool :=
  match support with
  | .full => true
  | .reduced => options.all fun (name, _) => !newerOptions.contains name
  | .none => false

/-- Put a question; it is refused when its options are not understood. -/
def put (kind : PromptKind) (message : String) (options : List (String × Value)) :
    Action Fault Unit := do
  if understands (← get).prompts.support options then
    Action.display (.prompt kind message options)
  else
    Action.display (.rejected kind (options.map (·.1)))
    throw (.defect (.unknownOption "unexpected keyword argument"))

/-- Put a question, and put it once more in plain form when it is refused. -/
def ask (kind : PromptKind) (message : String) (options : List (String × Value)) :
    Action Fault Unit :=
  (put kind (titled message) options).onFault fun _ =>
    put kind (titled message) (plainOptions options)

/-! ### Picking -/

/-- The options of a prompt with boxes, by name. -/
def selectOptions (choices : List Choice) : List (String × Value) := [
  ("checked_icon", .text "▣"),
  ("choices", .list (choices.map Choice.toValue)),
  ("instruction", .text "Use ↑/↓, space, a (all), i (invert), enter"),
  ("pointer", .text "❯"),
  ("qmark", questionSign),
  ("style", .text "select"),
  ("unchecked_icon", .text "▢")]

/-- The next answer to a prompt with boxes; without one the prompt was left. -/
def nextPicking : Action Fault Picking := do
  let session ← get
  match session.prompts.pickings with
  | [] => return .given .null
  | first :: rest =>
    set { session with prompts := { session.prompts with pickings := rest } }
    return first

/-- The values that an answer picks. -/
def picked (choices : List Choice) : Picking → Except Defect (List Value)
  | .asChecked => .ok ((choices.filter (·.checked)).map (·.value))
  | .given answer =>
    if answer.truthy then
      match answer.items? with
      | some items => .ok items
      | none => .error (.notIterable answer.formName)
    else .ok []

/-- Let the user pick among choices. Without choices nothing is asked. -/
def select (message : String) (choices : List Choice) : Action Fault (List Value) := do
  if choices.isEmpty then return []
  ask .checkbox message (selectOptions choices)
  let answer ← nextPicking
  Action.ofDefect (picked choices answer)

/-! ### Confirming -/

/-- The options of a question to be confirmed, by name. -/
def confirmOptions (agreed : Bool) : List (String × Value) := [
  ("auto_enter", .bool false),
  ("default", .bool agreed),
  ("qmark", questionSign),
  ("style", .text "confirm")]

/-- The next answer to a question to be confirmed. -/
def nextConfirmation : Action Fault Value := do
  let session ← get
  match session.prompts.confirmations with
  | [] => return .null
  | first :: rest =>
    set { session with prompts := { session.prompts with confirmations := rest } }
    return first

/-- Ask whether the user agrees; `agreed` is the answer of a user who just enters. -/
def confirm (message : String) (agreed : Bool) : Action Fault Bool := do
  Console.print (Tone.aside.paint "Use y/n then Enter")
  ask .confirm message (confirmOptions agreed)
  return (← nextConfirmation).truthy

end Prompt

end FleetSchema
