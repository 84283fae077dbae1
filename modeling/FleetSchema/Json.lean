/-
**Reading JSON.**

A JSON text holds one value between blanks. Numbers without fraction and exponent are integers of
any size up to a bound on their digits, the words for not-a-number and the infinities are read too,
and of two fields with one name the later value stands at the earlier place.

* `parse`: the value of a text, or the first place that cannot be read;
* `Fault.message`: the wording, with line, column and offset.
-/

import FleetSchema.Value
import FleetSchema.Number.Numeral

namespace FleetSchema.Json

/-- Why a JSON text cannot be read. -/
inductive Trouble where
  | byteOrderMark
  | value
  | propertyName
  | colon
  | comma
  | extraData
  | unterminatedString
  | controlCharacter
  | escape
  | unicodeEscape
  deriving DecidableEq, Repr

/-- The wording of a trouble. -/
def Trouble.wording : Trouble → String
  | .byteOrderMark => "Unexpected UTF-8 BOM (decode using utf-8-sig)"
  | .value => "Expecting value"
  | .propertyName => "Expecting property name enclosed in double quotes"
  | .colon => "Expecting ':' delimiter"
  | .comma => "Expecting ',' delimiter"
  | .extraData => "Extra data"
  | .unterminatedString => "Unterminated string starting at"
  | .controlCharacter => "Invalid control character at"
  | .escape => "Invalid \\escape"
  | .unicodeEscape => "Invalid \\uXXXX escape"

/-- A text that is no JSON: a trouble at a place, or an integer with too many digits. -/
inductive Fault where
  | malformed (trouble : Trouble) (line column offset : Nat)
  | integerTooLong (digits : Nat)
  deriving DecidableEq, Repr

/-- The wording of a fault. -/
def Fault.message : Fault → String
  | .malformed trouble line column offset =>
    trouble.wording ++ ": line " ++ toString line ++ " column " ++ toString column ++ " (char " ++
      toString offset ++ ")"
  | .integerTooLong digits => Numeral.tooLongMessage digits

/-- A trouble with the number of characters still unread at its place, or an integer with too many
digits. -/
inductive Stop where
  | trouble (trouble : Trouble) (unread : Nat)
  | integerTooLong (digits : Nat)

/-- Stop at the front of a text. -/
def stopAt {α : Type} (trouble : Trouble) (letters : List Char) : Except Stop α :=
  .error (.trouble trouble letters.length)

/-- A blank between the tokens of a JSON text. -/
def isJsonBlank (letter : Char) : Bool :=
  letter == ' ' || letter == '\t' || letter == '\n' || letter == '\r'

/-- Skip blanks. -/
def skipBlanks (letters : List Char) : List Char := letters.dropWhile isJsonBlank

/-! ### Strings -/

/-- The value of a hexadecimal digit. -/
def hexValue? (letter : Char) : Option Nat :=
  if letter.isDigit then some (letter.toNat - 48)
  else if 'a' ≤ letter && letter ≤ 'f' then some (letter.toNat - 87)
  else if 'A' ≤ letter && letter ≤ 'F' then some (letter.toNat - 55)
  else none

/-- The number that four hexadecimal digits at the front of a text write. -/
def fourHex? (letters : List Char) : Option Nat :=
  let digits := letters.take 4
  if digits.length == 4 then
    digits.foldl
      (fun value? letter => do return (← value?) * 16 + (← hexValue? letter)) (some 0)
  else none

/-- The character of a short escape. -/
def shortEscape? : Char → Option Char
  | '"' => some '"'
  | '\\' => some '\\'
  | '/' => some '/'
  | 'b' => some '\x08'
  | 'f' => some '\x0c'
  | 'n' => some '\n'
  | 'r' => some '\r'
  | 't' => some '\t'
  | _ => none

/-- The character of a code point; a half of a pair stands for the replacement character. -/
def characterOf (point : Nat) : Char :=
  if point.isValidChar then Char.ofNat point else '\ufffd'

/-- Read the escape of a code point behind its letter `u`, which stands `mark` characters before
the end: the character and the number of characters read. Two escapes may make a pair. -/
def readUnicodeEscape (letters : List Char) (mark : Nat) : Except Stop (Char × Nat) :=
  if letters.length ≤ 4 then .error (.trouble .unicodeEscape mark)
  else
    match fourHex? letters with
    | none => .error (.trouble .unicodeEscape mark)
    | some high =>
      let rest := letters.drop 4
      if 0xd800 ≤ high && high < 0xdc00 && 6 < rest.length && rest.take 2 == ['\\', 'u'] then
        match fourHex? (rest.drop 2) with
        | none => .error (.trouble .unicodeEscape (rest.length - 1))
        | some low =>
          if 0xdc00 ≤ low && low < 0xe000 then
            .ok (characterOf (0x10000 + (high - 0xd800) * 0x400 + (low - 0xdc00)), 10)
          else .ok (characterOf high, 4)
      else .ok (characterOf high, 4)

/-- Read a string behind its opening mark, which stands `start` characters before the end; the
characters read so far stand in reverse order. -/
def readString (start : Nat) (read : List Char) : Nat → List Char → Except Stop (String × List Char)
  | 0, _ => .error (.trouble .unterminatedString start)
  | _ + 1, [] => .error (.trouble .unterminatedString start)
  | _ + 1, '"' :: rest => .ok (String.ofList read.reverse, rest)
  | _ + 1, ['\\'] => .error (.trouble .unterminatedString start)
  | fuel + 1, '\\' :: 'u' :: rest => do
    let (letter, count) ← readUnicodeEscape rest (rest.length + 1)
    readString start (letter :: read) fuel (rest.drop count)
  | fuel + 1, '\\' :: letter :: rest =>
    match shortEscape? letter with
    | some plain => readString start (plain :: read) fuel rest
    | none => .error (.trouble .escape (rest.length + 2))
  | fuel + 1, letter :: rest =>
    if letter.toNat ≤ 0x1f then .error (.trouble .controlCharacter (rest.length + 1))
    else readString start (letter :: read) fuel rest

/-- Read a string behind its opening mark. -/
def readText (letters : List Char) : Except Stop (String × List Char) :=
  readString (letters.length + 1) [] (letters.length + 1) letters

/-! ### Numbers -/

/-- The digits at the front of a text, and the rest. -/
def spanDigits (letters : List Char) : List Char × List Char := letters.span Char.isDigit

/-- Read a number. -/
def readNumber (letters : List Char) : Except Stop (Value × List Char) :=
  let (negative, unsigned) : Bool × List Char :=
    match letters with
    | '-' :: rest => (true, rest)
    | _ => (false, letters)
  let (whole, rest) : List Char × List Char :=
    match unsigned with
    | '0' :: rest => (['0'], rest)
    | _ => spanDigits unsigned
  if whole.isEmpty then stopAt .value letters
  else
    let (part, rest) : List Char × List Char :=
      match rest with
      | '.' :: after =>
        let (digits, left) := spanDigits after
        if digits.isEmpty then ([], rest) else (digits, left)
      | _ => ([], rest)
    let (power, rest) : Option Int × List Char :=
      match rest with
      | mark :: after =>
        if mark == 'e' || mark == 'E' then
          let (minus, unsignedPower) := Numeral.takeSign after
          let (digits, left) := spanDigits unsignedPower
          if digits.isEmpty then (none, rest)
          else
            let size : Int := Numeral.digitsValue digits
            (some (if minus then -size else size), left)
        else (none, rest)
      | [] => (none, [])
    if part.isEmpty && power.isNone then
      if Numeral.digitLimit < whole.length then .error (.integerTooLong whole.length)
      else
        let size : Int := Numeral.digitsValue whole
        .ok (.int (if negative then -size else size), rest)
    else
      .ok (.float (.ofDecimal negative (Numeral.digitsValue (whole ++ part))
        (power.getD 0 - part.length)), rest)

/-! ### Values -/

/-- Give a field its value: at the place of an earlier field of that name, or at the end. -/
def putField (fields : List (String × Value)) (name : String) (value : Value) :
    List (String × Value) :=
  if fields.any (·.1 == name) then
    fields.map fun field => if field.1 == name then (name, value) else field
  else fields ++ [(name, value)]

/-- The words that stand for a value. -/
def words : List (String × Value) := [
  ("null", .null), ("true", .bool true), ("false", .bool false), ("NaN", .float .nan),
  ("Infinity", .float (.infinite false)), ("-Infinity", .float (.infinite true))]

/-- Read a word that stands for a value. -/
def readWord? (letters : List Char) : Option (Value × List Char) :=
  words.findSome? fun (word, value) =>
    if word.toList.isPrefixOf letters then some (value, letters.drop word.length) else none

mutual

/-- Read a value; `fuel` bounds the characters left. -/
def readValue (fuel : Nat) (letters : List Char) : Except Stop (Value × List Char) :=
  match fuel with
  | 0 => stopAt .value letters
  | fuel + 1 =>
    match letters with
    | '"' :: rest => do
      let (text, rest) ← readText rest
      return (.text text, rest)
    | '\x7b' :: rest =>
      match skipBlanks rest with
      | '\x7d' :: after => .ok (.object [], after)
      | after => readFields fuel [] after
    | '[' :: rest =>
      match skipBlanks rest with
      | ']' :: after => .ok (.list [], after)
      | after => readItems fuel [] after
    | _ =>
      match readWord? letters with
      | some found => .ok found
      | none => readNumber letters

/-- Read the fields of an object; the answer keeps the fields read so far. -/
def readFields (fuel : Nat) (fields : List (String × Value)) (letters : List Char) :
    Except Stop (Value × List Char) :=
  match fuel with
  | 0 => stopAt .propertyName letters
  | fuel + 1 =>
    match letters with
    | '"' :: rest => do
      let (name, rest) ← readText rest
      match skipBlanks rest with
      | ':' :: rest =>
        let (value, rest) ← readValue fuel (skipBlanks rest)
        let fields := putField fields name value
        match skipBlanks rest with
        | '\x7d' :: after => return (.object fields, after)
        | ',' :: after => readFields fuel fields (skipBlanks after)
        | after => stopAt .comma after
      | after => stopAt .colon after
    | _ => stopAt .propertyName letters

/-- Read the items of a list; the items read so far stand in reverse order. -/
def readItems (fuel : Nat) (items : List Value) (letters : List Char) :
    Except Stop (Value × List Char) :=
  match fuel with
  | 0 => stopAt .value letters
  | fuel + 1 => do
    let (item, rest) ← readValue fuel letters
    match skipBlanks rest with
    | ']' :: after => return (.list (item :: items).reverse, after)
    | ',' :: after => readItems fuel (item :: items) (skipBlanks after)
    | after => stopAt .comma after

end

/-- A stop as a fault of the whole text, with its line and column. -/
def Stop.fault (letters : List Char) : Stop → Fault
  | .integerTooLong digits => .integerTooLong digits
  | .trouble what unread =>
    let offset := letters.length - unread
    let before := letters.take offset
    .malformed what (before.count '\n' + 1)
      ((before.reverse.takeWhile (· != '\n')).length + 1) offset

/-- Read a whole text. -/
def readWhole (letters : List Char) : Except Stop Value := do
  if letters.head? == some '\ufeff' then stopAt .byteOrderMark letters
  let (value, rest) ← readValue (2 * letters.length + 2) (skipBlanks letters)
  let rest := skipBlanks rest
  if rest.isEmpty then return value else stopAt .extraData rest

/-- The value of a JSON text. -/
def parse (text : String) : Except Fault Value :=
  (readWhole text.toList).mapError fun stop => stop.fault text.toList

end FleetSchema.Json
