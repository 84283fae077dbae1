/-
**Messages on the console.**

What the user gets to see is text with markup: a part between a tone in brackets and a closing mark
is shown in that tone. A console may refuse a line, as when its markup closes a tone that is not
open. Work that takes a while is announced before it starts and the announcement ends with the work,
however the work ends.

* `info`, `success`, `warn`, `error`: one line behind a sign;
* `header`, `facts`: a title, and named values;
* `status`: work under an announcement.
-/

import FleetSchema.Session

namespace FleetSchema

/-- The tones that markup knows. -/
inductive Tone where
  | ok
  | warn
  | err
  | title
  | aside
  deriving DecidableEq, Repr

namespace Tone

/-- The word of a tone in markup. -/
def word : Tone → String
  | .ok => "ok"
  | .warn => "warn"
  | .err => "err"
  | .title => "title"
  | .aside => "meta"

/-- A text in a tone. -/
def paint (tone : Tone) (text : String) : String := "[" ++ tone.word ++ "]" ++ text ++ "[/]"

/-- A text in a tone whose closing mark names the tone. -/
def paintNamed (tone : Tone) (text : String) : String :=
  "[" ++ tone.word ++ "]" ++ text ++ "[/" ++ tone.word ++ "]"

end Tone

namespace Console

variable {α : Type}

/-- Print a line with markup. -/
def print (markup : String) : Action Fault Unit := Action.tell (.print markup)

/-- A line behind a sign in a tone. -/
def signed (tone : Tone) (sign text : String) : ConsoleLine :=
  .print (tone.paint sign ++ " " ++ text)

/-- The line that tells the user something. -/
def infoLine (text : String) : ConsoleLine := signed .title "›" text

/-- The line that reports a success. -/
def successLine (text : String) : ConsoleLine := signed .ok "✓" text

/-- The line that warns the user. -/
def warningLine (text : String) : ConsoleLine := signed .warn "⚠" text

/-- The line that reports a failure. -/
def errorLine (text : String) : ConsoleLine := signed .err "✗" text

/-- Tell the user something. -/
def info (text : String) : Action Fault Unit := Action.tell (infoLine text)

/-- Report a success. -/
def success (text : String) : Action Fault Unit := Action.tell (successLine text)

/-- Warn the user. -/
def warn (text : String) : Action Fault Unit := Action.tell (warningLine text)

/-- Report a failure. -/
def error (text : String) : Action Fault Unit := Action.tell (errorLine text)

/-- Print a title. -/
def header (title : String) : Action Fault Unit := print (Tone.title.paint title)

/-- Print named values, one on a line. -/
def facts : List (String × Value) → Action Fault Unit
  | [] => return ()
  | (name, value) :: rest => do
    print (Tone.aside.paint name ++ ": " ++ value.toText)
    facts rest

/-- Do work under an announcement. -/
def status (message : String) (work : Action Fault α) : Action Fault α := do
  Action.tell (.statusBegin message)
  Action.closing work (Action.display .statusEnd)

end Console

end FleetSchema
