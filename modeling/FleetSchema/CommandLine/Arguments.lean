/-
**Arguments of a command.**

A command is given words. A word that starts with a hyphen is an option, and some options take the
next word, or the rest of their own word, as their value. Options have a long spelling with two
hyphens, and some a short one with one hyphen; several short ones may share a word. Two hyphens
alone end the options. All other words are left over.

* `read`: the settings that words make, and the words left over;
* `lastText`, `texts`, `lastSwitch`: what settings say about a parameter.
-/

namespace FleetSchema

/-- What the settings of a command line are about. -/
inductive Parameter where
  | help
  | logLevel
  | cluster
  | name
  | db
  | dbs
  | webhook
  | label
  | selectAll
  | schemaFile
  | lossFlag
  | select
  | parallel
  | confirm
  | dryRun
  | endpoint
  | anonymous
  deriving DecidableEq, Repr

/-- What makes a command line unusable. -/
inductive UsageFault where
  /-- A command group or the program is given no words at all. -/
  | noWords
  /-- No command is named. -/
  | noCommand
  /-- No command has this name. -/
  | unknownCommand (word : String)
  /-- Words are left over. -/
  | extraWords (words : List String)
  /-- No option has this spelling. -/
  | unknownOption (spelling : String)
  /-- An option lacks its value. -/
  | missingValue (spelling : String)
  /-- An option that takes no value is given one. -/
  | unwantedValue (spelling : String)
  /-- A value is no integer. -/
  | badNumber (text : String)
  /-- A value names no file. -/
  | badFile (text : String)
  /-- A parameter that is needed is not set. -/
  | missingParameter (parameter : Parameter)
  deriving DecidableEq, Repr

/-- A spelling of an option. It turns its parameter on or off, or takes a value. -/
structure Spelling where
  text : String
  parameter : Parameter
  turns : Option Bool
  deriving DecidableEq, Repr

/-- The spelling of an option that takes a value. -/
def Spelling.taking (text : String) (parameter : Parameter) : Spelling := ⟨text, parameter, none⟩

/-- The spelling of an option that turns its parameter on. -/
def Spelling.on (text : String) (parameter : Parameter) : Spelling := ⟨text, parameter, some true⟩

/-- The spelling of an option that turns its parameter off. -/
def Spelling.off (text : String) (parameter : Parameter) : Spelling :=
  ⟨text, parameter, some false⟩

/-- What a parameter is set to. -/
inductive Given where
  | switch (on : Bool)
  | text (value : String)
  deriving DecidableEq, Repr

/-- A parameter and what it is set to. -/
structure Setting where
  parameter : Parameter
  given : Given
  deriving DecidableEq, Repr

namespace Arguments

/-! ### One option -/

/-- The settings that one word makes, and the spelling that waits for the next word. -/
structure WordReading where
  settings : List Setting
  awaiting : Option Spelling
  deriving DecidableEq, Repr

/-- The characters before and behind the first sign of equality, if there is one. -/
def splitAtSign : List Char → List Char × Option (List Char)
  | [] => ([], none)
  | '=' :: rest => ([], some rest)
  | letter :: rest =>
    let (front, behind) := splitAtSign rest
    (letter :: front, behind)

/-- Whether a word starts with two hyphens. -/
def isLong : List Char → Bool
  | '-' :: '-' :: _ => true
  | _ => false

/-- The long spelling with these characters. -/
def longSpelling? (spellings : List Spelling) (letters : List Char) : Option Spelling :=
  spellings.find? fun spelling => isLong letters && spelling.text.toList == letters

/-- Read the short options behind one hyphen. -/
def readShort (spellings : List Spelling) : List Char → Except UsageFault WordReading
  | [] => .ok ⟨[], none⟩
  | letter :: rest =>
    match spellings.find? (·.text.toList == ['-', letter]) with
    | none => .error (.unknownOption (String.ofList ['-', letter]))
    | some spelling =>
      match spelling.turns with
      | some on =>
        (readShort spellings rest).map fun reading =>
          { reading with settings := ⟨spelling.parameter, .switch on⟩ :: reading.settings }
      | none =>
        if rest.isEmpty then .ok ⟨[], some spelling⟩
        else .ok ⟨[⟨spelling.parameter, .text (String.ofList rest)⟩], none⟩

/-- Read an option in its long spelling, with or without a value in the same word. -/
def readLong (spelling : Spelling) (value : Option (List Char)) : Except UsageFault WordReading :=
  match spelling.turns, value with
  | some on, none => .ok ⟨[⟨spelling.parameter, .switch on⟩], none⟩
  | some _, some _ => .error (.unwantedValue spelling.text)
  | none, some letters => .ok ⟨[⟨spelling.parameter, .text (String.ofList letters)⟩], none⟩
  | none, none => .ok ⟨[], some spelling⟩

/-- Read a word that starts with a hyphen. -/
def readWord (spellings : List Spelling) (word : List Char) : Except UsageFault WordReading :=
  let (front, value) := splitAtSign word
  match longSpelling? spellings front with
  | some spelling => readLong spelling value
  | none =>
    if isLong word then .error (.unknownOption (String.ofList front))
    else readShort spellings (word.drop 1)

/-! ### All words -/

/-- What words come to: the settings they make, and the words left over. -/
structure Reading where
  settings : List Setting
  words : List String
  deriving DecidableEq, Repr

/-- A reading with settings in front. -/
def Reading.behind (reading : Reading) (settings : List Setting) : Reading :=
  { reading with settings := settings ++ reading.settings }

/-- A reading with a word in front of those left over. -/
def Reading.leaving (reading : Reading) (word : String) : Reading :=
  { reading with words := word :: reading.words }

/-- Whether a word is an option: a hyphen and something behind it. -/
def isOption (word : String) : Bool :=
  match word.toList with
  | '-' :: _ :: _ => true
  | _ => false

/-- The word that ends the options. -/
def optionsEnd : String := "--"

/-- Read words. The options of a group end at the first word that is none; those of a command may
stand between other words. -/
def read (spellings : List Spelling) (mixed : Bool) : List String → Except UsageFault Reading
  | [] => .ok ⟨[], []⟩
  | word :: rest =>
    if word == optionsEnd then .ok ⟨[], rest⟩
    else if isOption word then
      match readWord spellings word.toList with
      | .error fault => .error fault
      | .ok ⟨settings, none⟩ => (read spellings mixed rest).map (·.behind settings)
      | .ok ⟨settings, some spelling⟩ =>
        match rest with
        | [] => .error (.missingValue spelling.text)
        | value :: rest =>
          (read spellings mixed rest).map
            (·.behind (settings ++ [⟨spelling.parameter, .text value⟩]))
    else if mixed then (read spellings mixed rest).map (·.leaving word)
    else .ok ⟨[], word :: rest⟩

/-! ### Settings -/

/-- The texts that a parameter is set to, in order. -/
def texts (settings : List Setting) (parameter : Parameter) : List String :=
  settings.filterMap fun setting =>
    match setting.given with
    | .text value => if setting.parameter == parameter then some value else none
    | .switch _ => none

/-- The last text that a parameter is set to. -/
def lastText (settings : List Setting) (parameter : Parameter) : Option String :=
  (texts settings parameter).getLast?

/-- Whether a parameter is on: its last setting counts. -/
def lastSwitch (settings : List Setting) (parameter : Parameter) (otherwise : Bool) : Bool :=
  settings.foldl (fun on setting =>
    match setting.given with
    | .switch value => if setting.parameter == parameter then value else on
    | .text _ => on) otherwise

/-- Whether a parameter is set at all. -/
def isSet (settings : List Setting) (parameter : Parameter) : Bool :=
  settings.any (·.parameter == parameter)

end Arguments

end FleetSchema
