/-
**Characters by name.**

A pattern may write a character by its name in Unicode 14, in letters of any case. Most names are
listed in rows. The names of Hangul syllables are spelled from those of their letters, and the names
of ideographs end in their number; both are written in capital letters only.

* `syllableNamed?`: the code point of a Hangul syllable;
* `characterNamed?`: the code point of a name.
-/

import FleetSchema.Pattern.CharacterName.Aliases
import FleetSchema.Pattern.CharacterName.Alphabets
import FleetSchema.Pattern.CharacterName.FurtherAlphabets
import FleetSchema.Pattern.CharacterName.Logographs
import FleetSchema.Pattern.CharacterName.OldScripts
import FleetSchema.Pattern.CharacterName.Signs
import FleetSchema.Pattern.CharacterName.Symbols
import FleetSchema.Text.Ranges

namespace FleetSchema.Pattern

/-! ### Syllables -/

/-- The names of the letters that open a Hangul syllable. -/
def openingLetters : List String :=
  ["G", "GG", "N", "D", "DD", "R", "M", "B", "BB", "S", "SS", "", "J", "JJ", "C", "K", "T", "P", "H"]

/-- The names of the vowels of Hangul. -/
def vowelLetters : List String :=
  ["A", "AE", "YA", "YAE", "EO", "E", "YEO", "YE", "O", "WA", "WAE", "OE", "YO", "U", "WEO", "WE",
    "WI", "YU", "EU", "YI", "I"]

/-- The names of the letters that close a Hangul syllable. -/
def closingLetters : List String :=
  ["", "G", "GG", "GS", "N", "NJ", "NH", "D", "L", "LG", "LM", "LB", "LS", "LT", "LP", "LH", "M",
    "B", "BS", "S", "SS", "NG", "J", "C", "K", "T", "P", "H"]

/-- The longest word of a list that a text starts with, by its place in the list, and what follows
it. -/
def takeLongest? (words : List String) (text : List Char) : Option (Nat × List Char) :=
  words.zipIdx.foldl
    (fun best word =>
      match word.1.toList.isPrefixOf? text, best with
      | none, _ => best
      | some rest, none => some (word.2, rest)
      | some rest, some (place, left) =>
        some (if rest.length < left.length then (word.2, rest) else (place, left)))
    none

/-- The code point of a Hangul syllable that is spelled by its letters. -/
def syllableNamed? (letters : List Char) : Option Nat := do
  let (opening, rest) ← takeLongest? openingLetters letters
  let (vowel, rest) ← takeLongest? vowelLetters rest
  let (closing, rest) ← takeLongest? closingLetters rest
  if rest.isEmpty then
    some (0xac00 + (opening * vowelLetters.length + vowel) * closingLetters.length + closing)
  else none

/-! ### Numbered characters -/

/-- The number that hexadecimal digits with capital letters write. -/
def hexNumber? (digits : List Char) : Option Nat :=
  digits.foldlM
    (fun value digit =>
      if digit.isDigit then some (value * 16 + (digit.toNat - 48))
      else if 'A' ≤ digit && digit ≤ 'F' then some (value * 16 + (digit.toNat - 55))
      else none)
    0

/-- The boundaries of the unified ideographs. -/
def ideographRanges : Text.Ranges := ⟨#[
  0x3400, 0x4dc0, 0x4e00, 0xa000, 0x20000, 0x2a6e0, 0x2a700, 0x2b739, 0x2b740, 0x2b81e, 0x2b820,
  0x2cea2, 0x2ceb0, 0x2ebe1, 0x30000, 0x3134b]⟩

/-- The code point of a unified ideograph, in four or five digits. -/
def ideographNumbered? (digits : List Char) : Option Nat := do
  let point ← hexNumber? digits
  if (digits.length == 4 || digits.length == 5) && ideographRanges.contains point then some point
  else none

/-- Consecutive characters whose names end in their number. -/
structure NumberedRange where
  lead : String
  low : Nat
  high : Nat

/-- The listed characters whose names end in their number. -/
def numberedRanges : List NumberedRange := [
  ⟨"CJK COMPATIBILITY IDEOGRAPH-", 0xf900, 0xfa6d⟩,
  ⟨"CJK COMPATIBILITY IDEOGRAPH-", 0xfa70, 0xfad9⟩,
  ⟨"CJK COMPATIBILITY IDEOGRAPH-", 0x2f800, 0x2fa1d⟩,
  ⟨"KHITAN SMALL SCRIPT CHARACTER-", 0x18b00, 0x18cd5⟩,
  ⟨"NUSHU CHARACTER-", 0x1b170, 0x1b2fb⟩]

/-- The code point of a name in a numbered range; the number has no zeros in front. -/
def NumberedRange.find? (range : NumberedRange) (name : List Char) : Option Nat := do
  let digits ← range.lead.toList.isPrefixOf? name
  let point ← hexNumber? digits
  if digits.head? != some '0' && range.low ≤ point && point ≤ range.high then some point else none

/-! ### All names -/

/-- The rows of all listed names. -/
def nameRows : List NameRow :=
  aliasRows ++ alphabetRows ++ signRows ++ furtherAlphabetRows ++ oldScriptRows ++ logographRows ++
    symbolRows

/-- The code point of a listed name, written in capital letters. -/
def listedNamed? (name : List Char) : Option Nat :=
  (nameRows.findSome? (·.find? name)).or (numberedRanges.findSome? (·.find? name))

/-- The code point of a name. -/
def characterNamed? (name : String) : Option Nat :=
  match "HANGUL SYLLABLE ".toList.isPrefixOf? name.toList with
  | some letters => syllableNamed? letters
  | none =>
    match "CJK UNIFIED IDEOGRAPH-".toList.isPrefixOf? name.toList with
    | some digits => ideographNumbered? digits
    | none => listedNamed? (name.toList.map Char.toUpper)

end FleetSchema.Pattern
