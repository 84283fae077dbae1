/-
**Texts that stand without quotes.**

A text may stand without quotes where it cannot be taken for anything else: not for a truth value, a
number, a date or another value with a form of its own, and not for structure.

* `hasOwnForm`: whether a text would be read as something else than a text;
* `looksStructural`: whether a text would be read as structure.
-/

namespace FleetSchema.Yaml

/-! ### Forms of other values -/

/-- The words for truth values and for no value. -/
def reservedWords : List String := [
  "yes", "Yes", "YES", "no", "No", "NO", "true", "True", "TRUE", "false", "False", "FALSE",
  "on", "On", "ON", "off", "Off", "OFF", "", "~", "null", "Null", "NULL", "<<", "="]

/-- A digit, or the underscore that may group digits. -/
def isGroupedDigit (letter : Char) : Bool := letter.isDigit || letter == '_'

/-- An octal digit, or the underscore that may group digits. -/
def isGroupedOctal (letter : Char) : Bool := ('0' ≤ letter && letter ≤ '7') || letter == '_'

/-- A binary digit, or the underscore that may group digits. -/
def isGroupedBinary (letter : Char) : Bool := letter == '0' || letter == '1' || letter == '_'

/-- A hexadecimal digit, or the underscore that may group digits. -/
def isGroupedHex (letter : Char) : Bool :=
  isGroupedDigit letter || ('a' ≤ letter && letter ≤ 'f') || ('A' ≤ letter && letter ≤ 'F')

/-- A text without its sign. -/
def unsigned : List Char → List Char
  | '-' :: rest => rest
  | '+' :: rest => rest
  | letters => letters

/-- Whether a text is made of at least one character, all of a class. -/
def isRun (member : Char → Bool) (letters : List Char) : Bool :=
  !letters.isEmpty && letters.all member

/-- The parts of a text between colons. -/
def colonParts (letters : List Char) : List (List Char) :=
  letters.splitOn ':'

/-- Whether a text is a number below sixty with at most two digits. -/
def isSexagesimalPart (letters : List Char) : Bool :=
  match letters with
  | [unit] => unit.isDigit
  | [ten, unit] => '0' ≤ ten && ten ≤ '5' && unit.isDigit
  | _ => false

/-- Whether a text starts with a digit from a class and goes on with grouped digits. -/
def isGrouped (start : Char → Bool) : List Char → Bool
  | first :: rest => start first && rest.all isGroupedDigit
  | [] => false

/-- A digit other than zero. -/
def isPositiveDigit (letter : Char) : Bool := '1' ≤ letter && letter ≤ '9'

/-- Whether a text is an integer. -/
def isInteger (text : List Char) : Bool :=
  match unsigned text with
  | '0' :: 'b' :: digits => isRun isGroupedBinary digits
  | '0' :: 'x' :: digits => isRun isGroupedHex digits
  | '0' :: digits => digits.all isGroupedOctal
  | letters =>
    match colonParts letters with
    | [whole] => isGrouped isPositiveDigit whole
    | whole :: parts => isGrouped isPositiveDigit whole && parts.all isSexagesimalPart
    | [] => false

/-- Whether a text is a power of ten behind its mark: a sign and digits. -/
def isExponent : List Char → Bool
  | sign :: digits => (sign == '-' || sign == '+') && isRun Char.isDigit digits
  | [] => false

/-- Whether a text is a group of digits that may be followed by a power of ten. -/
def isFraction (letters : List Char) : Bool :=
  match letters.dropWhile isGroupedDigit with
  | [] => true
  | mark :: rest => (mark == 'e' || mark == 'E') && isExponent rest

/-- The characters before and behind the first point. -/
def pointParts (letters : List Char) : Option (List Char × List Char) :=
  match letters.span (· != '.') with
  | (whole, _ :: rest) => some (whole, rest)
  | (_, []) => none

/-- Whether a text is a number with a point. -/
def isDecimal (text : List Char) : Bool :=
  match pointParts (unsigned text) with
  | none => false
  | some ([], rest) =>
    [".inf", ".Inf", ".INF"].any (fun word => word.toList == '.' :: rest) ||
      (unsigned text == text &&
        ([".nan", ".NaN", ".NAN"].any (fun word => word.toList == '.' :: rest) ||
          ((rest.head?.map Char.isDigit).getD false && isFraction rest)))
  | some (whole, rest) =>
    match colonParts whole with
    | [whole] => isGrouped Char.isDigit whole && isFraction rest
    | whole :: parts =>
      isGrouped Char.isDigit whole && parts.all isSexagesimalPart && rest.all isGroupedDigit
    | [] => false

/-! ### Dates -/

/-- The rest of a text behind digits, of which there are between two bounds; the longest run
counts. -/
def behindDigits (least most : Nat) (letters : List Char) : Option (List Char) :=
  let run := (letters.take most).takeWhile Char.isDigit
  if least ≤ run.length then some (letters.drop run.length) else none

/-- The rest of a text behind a character. -/
def behind (mark : Char) : List Char → Option (List Char)
  | letter :: rest => if letter == mark then some rest else none
  | [] => none

/-- A blank within a line. -/
def isLineBlank (letter : Char) : Bool := letter == ' ' || letter == '\t'

/-- Whether a text is empty or a distance from world time. -/
def isZone (letters : List Char) : Bool :=
  match letters.dropWhile isLineBlank with
  | [] => letters.isEmpty
  | ['Z'] => true
  | sign :: rest =>
    (sign == '-' || sign == '+') &&
      match behindDigits 1 2 rest with
      | none => false
      | some [] => true
      | some rest => ((behind ':' rest).bind (behindDigits 2 2)).any List.isEmpty

/-- Whether a text is a time of day. -/
def isTime (letters : List Char) : Bool :=
  let afterSeconds? := do
    let rest ← behindDigits 1 2 letters
    let rest ← behind ':' rest
    let rest ← behindDigits 2 2 rest
    let rest ← behind ':' rest
    behindDigits 2 2 rest
  match afterSeconds? with
  | none => false
  | some ('.' :: rest) => isZone (rest.dropWhile Char.isDigit)
  | some rest => isZone rest

/-- Whether what stands behind a date is a time of day. -/
def isTimePart : List Char → Bool
  | 'T' :: rest => isTime rest
  | 't' :: rest => isTime rest
  | letter :: rest => isLineBlank letter && isTime (rest.dropWhile isLineBlank)
  | [] => false

/-- The rest of a text behind a date with numbers of months and days of a least length. -/
def behindDate (least : Nat) (letters : List Char) : Option (List Char) := do
  let rest ← behindDigits 4 4 letters
  let rest ← behind '-' rest
  let rest ← behindDigits least 2 rest
  let rest ← behind '-' rest
  behindDigits least 2 rest

/-- Whether a text is a date or a moment. -/
def isMoment (letters : List Char) : Bool :=
  (behindDate 2 letters).any List.isEmpty || (behindDate 1 letters).any isTimePart

/-- Whether a text without quotes would be read as something else than a text. -/
def hasOwnForm (text : String) : Bool :=
  reservedWords.contains text || isInteger text.toList || isDecimal text.toList ||
    isMoment text.toList || text == "!" || text == "&" || text == "*"

/-! ### Structure -/

/-- A character that ends a word of structure. -/
def isSeparator (letter : Char) : Bool :=
  letter == ' ' || letter == '\t' || letter == '\r' || letter == '\n' || letter == '\x00' ||
    letter == '\u0085' || letter == '\u2028' || letter == '\u2029'

/-- Whether a word of structure may end in front of a text. -/
def endsWord : List Char → Bool
  | [] => true
  | letter :: _ => isSeparator letter

/-- The characters that stand for structure at the front of a text. -/
def leadingMarks : List Char := [
  '#', ',', '[', ']', '\x7b', '\x7d', '&', '*', '!', '|', '>', '\'', '"', '%', '@', '\x60']

/-- Whether the front of a text stands for structure. -/
def startsStructure : List Char → Bool
  | [] => false
  | letter :: rest =>
    leadingMarks.contains letter ||
      ((letter == '?' || letter == ':' || letter == '-') && endsWord rest)

/-- Whether a text behind a character holds structure. -/
def holdsStructure (before : Char) : List Char → Bool
  | [] => false
  | letter :: rest =>
    (letter == ':' && endsWord rest) || (letter == '#' && isSeparator before) ||
      holdsStructure letter rest

/-- Whether a text without quotes would be read as structure. -/
def looksStructural (text : String) : Bool :=
  match text.toList with
  | [] => false
  | first :: rest =>
    "---".toList.isPrefixOf text.toList || "...".toList.isPrefixOf text.toList ||
      startsStructure (first :: rest) || holdsStructure first rest

end FleetSchema.Yaml
