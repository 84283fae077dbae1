/-
**The syntax of name patterns.**

A pattern is a sequence of nodes: characters and sets of characters, anchors, references to what a
group has read, alternatives, repetitions, groups and looks to either side. Code points are kept
as numbers, so that a pattern may name one that no text holds.

* `widthOfAll`: the least and greatest number of characters that a sequence can read;
* `Complaint.message`: what is said of a text that is no pattern.
-/

import FleetSchema.Text.Quoted
import FleetSchema.Number.Numeral

namespace FleetSchema.Pattern

/-- The switches of a pattern. -/
structure Flags where
  ignoreCase : Bool := false
  multiline : Bool := false
  dotAll : Bool := false
  verbose : Bool := false
  ascii : Bool := false
  unicode : Bool := false
  template : Bool := false
  deriving DecidableEq, Repr, Inhabited

namespace Flags

/-- The switches that are on in either set. -/
def union (first second : Flags) : Flags where
  ignoreCase := first.ignoreCase || second.ignoreCase
  multiline := first.multiline || second.multiline
  dotAll := first.dotAll || second.dotAll
  verbose := first.verbose || second.verbose
  ascii := first.ascii || second.ascii
  unicode := first.unicode || second.unicode
  template := first.template || second.template

/-- The switches that are on in the first set and off in the second. -/
def minus (first second : Flags) : Flags where
  ignoreCase := first.ignoreCase && !second.ignoreCase
  multiline := first.multiline && !second.multiline
  dotAll := first.dotAll && !second.dotAll
  verbose := first.verbose && !second.verbose
  ascii := first.ascii && !second.ascii
  unicode := first.unicode && !second.unicode
  template := first.template && !second.template

/-- The switches that are on in both sets. -/
def inter (first second : Flags) : Flags := first.minus (first.minus second)

/-- No switch is on. -/
def isNone (flags : Flags) : Bool := flags == {}

/-- The switches inside a group that turns some on and some off; a group that names an alphabet
leaves the alphabet around it. -/
def within (around added removed : Flags) : Flags :=
  let base := if added.ascii || added.unicode then { around with ascii := false, unicode := false }
    else around
  (base.union added).minus removed

end Flags

/-- The classes of characters with a name of their own. -/
inductive CharClass where
  | digit
  | blank
  | word
  deriving DecidableEq, Repr

/-- A member of a set of characters. -/
inductive SetItem where
  | code (point : Nat)
  | range (low high : Nat)
  | kind (kind : CharClass) (negated : Bool)
  deriving DecidableEq, Repr

/-- A place in the text that an anchor asks for. -/
inductive Anchor where
  | lineStart
  | lineEnd
  | textStart
  | textEnd
  | boundary
  | noBoundary
  deriving DecidableEq, Repr

/-- How a repetition chooses its number of rounds. -/
inductive Greed where
  | greedy
  | lazy
  | possessive
  deriving DecidableEq, Repr

/-- A node of a pattern. -/
inductive Node where
  | literal (point : Nat)
  | exceptLiteral (point : Nat)
  | any
  | set (negated : Bool) (items : List SetItem)
  | anchor (anchor : Anchor)
  | reference (group : Nat)
  | conditional (group : Nat) (yes no : List Node)
  | branch (alternatives : List (List Node))
  | loop (greed : Greed) (least : Nat) (most : Option Nat) (body : List Node)
  | group (index : Option Nat) (added removed : Flags) (body : List Node)
  | atomic (body : List Node)
  | look (ahead positive : Bool) (body : List Node)
  deriving Inhabited

namespace Node

/-- Nodes that are one and the same wherever they stand; nodes with a body are never the same. -/
def same : Node → Node → Bool
  | .literal first, .literal second => first == second
  | .exceptLiteral first, .exceptLiteral second => first == second
  | .any, .any => true
  | .set negated items, .set negated' items' => negated == negated' && items == items'
  | .anchor first, .anchor second => first == second
  | .reference first, .reference second => first == second
  | _, _ => false

end Node

/-! ### Widths -/

/-- The least and greatest number of characters that can be read. -/
structure Width where
  least : Nat
  greatest : Nat
  deriving DecidableEq, Repr, Inhabited

/-- The number from which on a width counts as unbounded. -/
def Width.limit : Nat := 4294967295

/-- A width with its greatest end at most the limit, and its least end below it, so that a width
that counts as unbounded is never that of one number of characters. -/
def Width.capped (width : Width) : Width := ⟨min width.least (limit - 1), min width.greatest limit⟩

/-- The width of one thing after another. -/
def Width.add (first second : Width) : Width :=
  ⟨first.least + second.least, first.greatest + second.greatest⟩

/-- The width of one thing or another. -/
def Width.either (first second : Width) : Width :=
  ⟨min first.least second.least, max first.greatest second.greatest⟩

mutual

/-- The width of a node, given the widths of the groups closed before it. -/
def widthOf (groups : List (Option Width)) : Node → Width
  | .literal _ | .exceptLiteral _ | .any | .set .. => ⟨1, 1⟩
  | .anchor _ | .look .. => ⟨0, 0⟩
  | .reference group => ((groups[group]?).join).getD ⟨0, 0⟩
  | .conditional _ yes no =>
    (widthOfAll groups yes).either (if no.isEmpty then ⟨0, 0⟩ else widthOfAll groups no)
  | .branch alternatives => widthOfEither groups alternatives
  | .loop _ least most body =>
    let width := widthOfAll groups body
    ⟨width.least * least,
      match most with
      | some most => width.greatest * most
      | none => width.greatest * Width.limit⟩
  | .group _ _ _ body => widthOfAll groups body
  | .atomic body => widthOfAll groups body

/-- The width of a sequence. -/
def widthOfAll (groups : List (Option Width)) : List Node → Width
  | [] => ⟨0, 0⟩
  | node :: rest => ((widthOf groups node).add (widthOfAll groups rest)).capped

/-- The width of the alternatives of a branch. -/
def widthOfEither (groups : List (Option Width)) : List (List Node) → Width
  | [] => ⟨Width.limit - 1, 0⟩
  | body :: rest => (widthOfAll groups body).either (widthOfEither groups rest)

end

/-! ### What can be wrong with a pattern -/

/-- A reason why a text is no pattern. -/
inductive Complaint where
  | badEscapeAtEnd
  | incompleteEscape (escape : String)
  | badEscape (escape : String)
  | octalTooLarge (escape : String)
  | missingBrace
  | undefinedCharacter (name : String)
  | missingName (what : String)
  | unterminatedName (terminator : String)
  | badName (name : String)
  | unknownName (name : String)
  | redefinition (name : String) (group earlier : Nat)
  | openGroup
  | sameLookbehind
  | invalidReference (group : Nat)
  | badGroupNumber
  | unterminatedSet
  | badRange (low high : String)
  | leastAboveMost
  | nothingToRepeat
  | multipleRepeat
  | unexpectedEnd
  | unknownExtension (text : String)
  | unterminatedComment
  | unterminatedGroup
  | tooManyBranches
  | lateFlags
  | localeFlag
  | alphabetConflict
  | missingColonOrClose
  | unknownFlag
  | globalFlagOn
  | missingFlag
  | alphabetOff
  | missingColon
  | globalFlagOff
  | flagOnAndOff
  | unbalanced
  | templateLoop (greed : Greed)
  | lookbehindWidth
  deriving DecidableEq, Repr

/-- The wording of a reason. -/
def Complaint.message : Complaint → String
  | .badEscapeAtEnd => "bad escape (end of pattern)"
  | .incompleteEscape escape => "incomplete escape " ++ escape
  | .badEscape escape => "bad escape " ++ escape
  | .octalTooLarge escape => "octal escape value " ++ escape ++ " outside of range 0-0o377"
  | .missingBrace => "missing \x7b"
  | .undefinedCharacter name => "undefined character name " ++ Text.quote name
  | .missingName what => "missing " ++ what
  | .unterminatedName terminator => "missing " ++ terminator ++ ", unterminated name"
  | .badName name => "bad character in group name " ++ Text.quote name
  | .unknownName name => "unknown group name " ++ Text.quote name
  | .redefinition name group earlier =>
    "redefinition of group name " ++ Text.quote name ++ " as group " ++ toString group ++
      "; was group " ++ toString earlier
  | .openGroup => "cannot refer to an open group"
  | .sameLookbehind => "cannot refer to group defined in the same lookbehind subpattern"
  | .invalidReference group => "invalid group reference " ++ toString group
  | .badGroupNumber => "bad group number"
  | .unterminatedSet => "unterminated character set"
  | .badRange low high => "bad character range " ++ low ++ "-" ++ high
  | .leastAboveMost => "min repeat greater than max repeat"
  | .nothingToRepeat => "nothing to repeat"
  | .multipleRepeat => "multiple repeat"
  | .unexpectedEnd => "unexpected end of pattern"
  | .unknownExtension text => "unknown extension ?" ++ text
  | .unterminatedComment => "missing ), unterminated comment"
  | .unterminatedGroup => "missing ), unterminated subpattern"
  | .tooManyBranches => "conditional backref with more than two branches"
  | .lateFlags => "global flags not at the start of the expression"
  | .localeFlag => "bad inline flags: cannot use 'L' flag with a str pattern"
  | .alphabetConflict => "bad inline flags: flags 'a', 'u' and 'L' are incompatible"
  | .missingColonOrClose => "missing -, : or )"
  | .unknownFlag => "unknown flag"
  | .globalFlagOn => "bad inline flags: cannot turn on global flag"
  | .missingFlag => "missing flag"
  | .alphabetOff => "bad inline flags: cannot turn off flags 'a', 'u' and 'L'"
  | .missingColon => "missing :"
  | .globalFlagOff => "bad inline flags: cannot turn off global flag"
  | .flagOnAndOff => "bad inline flags: flag turned on and off"
  | .unbalanced => "unbalanced parenthesis"
  | .templateLoop greed =>
    "internal: unsupported template operator " ++
      match greed with
      | .greedy => "MAX_REPEAT"
      | .lazy => "MIN_REPEAT"
      | .possessive => "POSSESSIVE_REPEAT"
  | .lookbehindWidth => "look-behind requires fixed-width pattern"

/-- Why a pattern is refused. -/
inductive Refusal where
  /-- The text is no pattern, for a reason that may have a place in it. -/
  | malformed (complaint : Complaint) (position : Option Nat)
  /-- A number of rounds is beyond every bound. -/
  | tooManyRounds
  /-- A number of rounds is written with too many digits. -/
  | numeralTooLong (digits : Nat)
  /-- The pattern asks for both alphabets. -/
  | bothAlphabets
  /-- A look to the left starts too far back. -/
  | lookTooFar
  /-- There is no room to read the pattern. -/
  | givenUp (wording : String)
  deriving DecidableEq, Repr

/-- The line and column of a place in a text, both counted from one. -/
def placeIn (text : List Char) (position : Nat) : Nat × Nat :=
  let before := text.take position
  (before.count '\n' + 1, (before.reverse.takeWhile (· != '\n')).length + 1)

/-- The wording of a refusal, with the place in the pattern; a pattern of several lines has its
place told by line and column too. -/
def Refusal.message (pattern : String) : Refusal → String
  | .malformed complaint none => complaint.message
  | .malformed complaint (some position) =>
    let place := complaint.message ++ " at position " ++ toString position
    if pattern.toList.contains '\n' then
      let (line, column) := placeIn pattern.toList position
      place ++ " (line " ++ toString line ++ ", column " ++ toString column ++ ")"
    else place
  | .tooManyRounds => "the repetition number is too large"
  | .numeralTooLong digits => Numeral.tooLongMessage digits
  | .bothAlphabets => "ASCII and UNICODE flags are incompatible"
  | .lookTooFar => "invalid SRE code"
  | .givenUp wording => wording

end FleetSchema.Pattern
