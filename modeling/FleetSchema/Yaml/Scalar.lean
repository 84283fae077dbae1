/-
**Single values.**

A text is written without quotes where that is safe, between single quotes where it holds nothing
but printable ASCII characters and line ends, and between double quotes with escapes otherwise.
A text that grows beyond the width of the page goes on in the next line.

* `style`: how a text is written;
* `putText`: write a text.
-/

import FleetSchema.Value
import FleetSchema.Yaml.Page
import FleetSchema.Yaml.Plain

namespace FleetSchema.Yaml

/-- The ways to write a text. -/
inductive Style where
  | plain
  | single
  | double
  deriving DecidableEq, Repr

/-! ### Choice -/

/-- A character that ends a line. -/
def isBreak (letter : Char) : Bool :=
  letter == '\n' || letter == '\u0085' || letter == '\u2028' || letter == '\u2029'

/-- A character that only an escape can write. -/
def needsEscape (letter : Char) : Bool :=
  !(letter == '\n' || (' ' ≤ letter && letter ≤ '~'))

/-- Whether two characters with given properties stand next to each other. -/
def hasPair (first second : Char → Bool) : List Char → Bool
  | one :: two :: rest => (first one && second two) || hasPair first second (two :: rest)
  | _ => false

/-- Whether the first or last character has a property. -/
def atEnds (member : Char → Bool) (letters : List Char) : Bool :=
  letters.head?.any member || letters.getLast?.any member

/-- Whether a text may stand without quotes; as a key it must not be empty. -/
def allowsPlain (text : String) : Bool :=
  let letters := text.toList
  !hasOwnForm text && !looksStructural text && !letters.any isBreak && !letters.any needsEscape &&
    !atEnds (· == ' ') letters

/-- Whether a text may stand between single quotes. -/
def allowsSingle (text : String) : Bool :=
  let letters := text.toList
  !letters.any needsEscape && !hasPair isBreak (· == ' ') letters &&
    !hasPair (· == ' ') isBreak letters

/-- How a text is written. A key of one line has no line end between single quotes. -/
def style (text : String) (key : Bool) : Style :=
  if allowsPlain text then .plain
  else if allowsSingle text && !(key && text.toList.any isBreak) then .single
  else .double

/-! ### Writing -/

/-- The runs of a text: blanks, line ends and other characters. -/
def runs (text : String) : List (List Char) :=
  text.toList.splitBy fun first second =>
    (first == ' ') == (second == ' ') && isBreak first == isBreak second

/-- Write a text without quotes; a single blank may become a line end. -/
def putPlain (page : Page) (indent : Nat) (fold : Bool) (text : String) : Page :=
  let start := if page.spaced then page else page.put " "
  (runs text).foldl (fun page run =>
    if run == [' '] && page.isFull && fold then
      { page.toIndent indent with spaced := false, indented := false }
    else page.put (String.ofList run)) { start with spaced := false, indented := false }

/-- Write line ends between single quotes: one more than they are. -/
def putBreaks (page : Page) (indent : Nat) (count : Nat) : Page :=
  ((List.range (count + 1)).foldl (fun page _ => page.newLine) page).toIndent indent

/-- Write the runs of a text between single quotes. A single blank that is not at either end may
become a line end. -/
def putSingleRuns (indent : Nat) (fold first : Bool) : Page → List (List Char) → Page
  | page, [] => page
  | page, run :: rest =>
    let page :=
      if run.any isBreak then putBreaks page indent run.length
      else if run == [' '] && page.isFull && fold && !first && !rest.isEmpty then
        page.toIndent indent
      else
        page.put (String.ofList (run.flatMap fun letter =>
          if letter == '\'' then ['\'', '\''] else [letter]))
    putSingleRuns indent fold false page rest

/-- Write a text between single quotes. -/
def putSingle (page : Page) (indent : Nat) (fold : Bool) (text : String) : Page :=
  (putSingleRuns indent fold true (page.mark "'" true false false) (runs text)).mark "'" false
    false false

/-- The characters with a short escape, and its letter. -/
def shortEscapes : List (Char × Char) := [
  ('\x00', '0'), ('\x07', 'a'), ('\x08', 'b'), ('\t', 't'), ('\n', 'n'), ('\x0b', 'v'),
  ('\x0c', 'f'), ('\r', 'r'), ('\x1b', 'e'), ('"', '"'), ('\\', '\\'), ('\u0085', 'N'),
  ('\u00a0', '_'), ('\u2028', 'L'), ('\u2029', 'P')]

/-- The escape of a character between double quotes, if it needs one. -/
def escape? (letter : Char) : Option String :=
  match shortEscapes.find? (·.1 == letter) with
  | some (_, short) => some (String.ofList ['\\', short])
  | none =>
    if ' ' ≤ letter && letter ≤ '~' then none
    else if letter.toNat ≤ 0xff then some ("\\x" ++ Text.hexPaddedUpper 2 letter.toNat)
    else if letter.toNat ≤ 0xffff then some ("\\u" ++ Text.hexPaddedUpper 4 letter.toNat)
    else some ("\\U" ++ Text.hexPaddedUpper 8 letter.toNat)

/-- Go on in the next line between double quotes; a blank at its start is marked. -/
def splitDouble (page : Page) (indent : Nat) (next : Option Char) : Page :=
  let page := (page.put "\\").toIndent indent
  let page := { page with spaced := false, indented := false }
  if next == some ' ' then page.put "\\" else page

/-- Write the characters of a text between double quotes. A line may end in front of a blank,
behind an escape, and in front of what follows an escape. -/
def putDoubleChars (indent : Nat) (fold first afterEscape : Bool) : Page → List Char → Page
  | page, [] => page
  | page, letter :: rest =>
    let inside := fold && !first && !rest.isEmpty
    match escape? letter with
    | some escape =>
      let page := page.put escape
      let page :=
        if inside && Page.width + 1 < page.column then splitDouble page indent rest.head? else page
      putDoubleChars indent fold false true page rest
    | none =>
      let page :=
        if inside && (letter == ' ' || afterEscape) && page.isFull then
          splitDouble page indent (some letter)
        else page
      putDoubleChars indent fold false false (page.put letter.toString) rest

/-- Write a text between double quotes. -/
def putDouble (page : Page) (indent : Nat) (fold : Bool) (text : String) : Page :=
  (putDoubleChars indent fold true true (page.mark "\"" true false false) text.toList).mark "\""
    false false false

/-- Write a text. A key of one line is not broken. -/
def putText (page : Page) (indent : Nat) (key : Bool) (text : String) : Page :=
  match style text key with
  | .plain => putPlain page indent (!key) text
  | .single => putSingle page indent (!key) text
  | .double => putDouble page indent (!key) text

/-! ### Other values -/

/-- A number as text. A power of ten follows a point. -/
def numberText (number : Double) : String :=
  match number with
  | .nan => ".nan"
  | .infinite negative => if negative then "-.inf" else ".inf"
  | number =>
    let text := number.toText
    if text.contains '.' || !text.contains 'e' then text else text.replace "e" ".0e"

end FleetSchema.Yaml
