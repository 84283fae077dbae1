/-
**Patterns ready to be matched.**

Before a pattern is matched, its switches are settled at every node: each character test knows how
it compares, each anchor which alphabet it means, and each look to the left how far back it starts.
A repetition of one character test becomes a span.

* `compile`: the code of a parsed pattern, or the reason why it has none.
-/

import FleetSchema.Pattern.Parser
import FleetSchema.Pattern.Folding

namespace FleetSchema.Pattern

/-- A test of one code point. -/
inductive PointTest where
  | code (point : Nat)
  | range (low high : Nat)
  | eitherCase (low high : Nat)
  | kind (kind : CharClass) (negated ascii : Bool)
  deriving DecidableEq, Repr

/-- A test of one character: it passes when some test accepts its folded code point, or, when
negated, when none does. -/
structure CharTest where
  folding : Folding
  negated : Bool
  tests : List PointTest
  deriving DecidableEq, Repr

namespace CharTest

/-- The code point of a test that one code point passes, exactly as it is. -/
def literal? : CharTest → Option Nat
  | ⟨.exact, false, [.code point]⟩ => some point
  | _ => none

/-- Whether a test compares a character as it is with those of a list. Any character, any but a line
feed and any but one given character have tests of their own kind. -/
def isListing : CharTest → Bool
  | ⟨.exact, true, []⟩ | ⟨.exact, true, [.code _]⟩ => false
  | ⟨folding, _, _⟩ => folding == .exact

end CharTest

/-- A place that an anchor asks for, with its switches settled. -/
inductive Place where
  | textStart
  | lineStart
  | lastLineEnd
  | lineEnd
  | textEnd
  | boundary (ascii negated : Bool)
  deriving DecidableEq, Repr

/-- A step of a pattern that is ready to be matched. -/
inductive Code where
  | one (test : CharTest)
  | place (place : Place)
  | mark (index : Nat)
  | reference (group : Nat) (folding : Folding)
  | conditional (group : Nat) (yes no : List Code)
  | branch (alternatives : List (List Code))
  | span (greed : Greed) (least : Nat) (most : Option Nat) (test : CharTest)
  | loop (greed : Greed) (least : Nat) (most : Option Nat) (body : List Code)
  | atomic (body : List Code)
  | look (back : Nat) (positive : Bool) (body : List Code)
  deriving Inhabited

/-- How the switches say to compare. -/
def Flags.folding (flags : Flags) : Folding :=
  if !flags.ignoreCase then .exact else if flags.unicode then .unicode else .ascii

/-! ### Tests of characters -/

/-- The test of a literal. -/
def literalTest (flags : Flags) (negated : Bool) (point : Nat) : CharTest :=
  let folding := flags.folding
  if cased folding point then
    let low := lowered folding point
    ⟨folding, negated, .code low :: (companions folding low).map .code⟩
  else ⟨.exact, negated, [.code point]⟩

/-- The last code point of the basic plane. -/
def basicPlaneEnd : Nat := 0xffff

/-- Add a code point to a list of ranges, the latest first. -/
def addPoint (ranges : List (Nat × Nat)) (point : Nat) : List (Nat × Nat) :=
  match ranges with
  | (low, high) :: rest =>
    if low ≤ point && point ≤ high then ranges
    else if point == high + 1 then (low, point) :: rest
    else (point, point) :: ranges
  | [] => [(point, point)]

/-- The ranges of the folded code points of a range, with their companions. -/
def foldedRanges (folding : Folding) (low high : Nat) : List (Nat × Nat) :=
  let points := List.range' low (high + 1 - low)
  let folded := points.foldl (fun ranges point => addPoint ranges (lowered folding point)) []
  points.foldl
    (fun ranges point => (companions folding (lowered folding point)).foldl addPoint ranges) folded

/-- The tests of an item of a set that is compared by folding. -/
def foldedItem (folding : Folding) (ascii : Bool) : SetItem → List PointTest
  | .kind kind negated => [.kind kind negated ascii]
  | .code point =>
    let low := lowered folding point
    if basicPlaneEnd < low then [.code point]
    else .code low :: (companions folding low).map .code
  | .range low high =>
    let basic := (foldedRanges folding low (min high basicPlaneEnd)).map fun range =>
      PointTest.range range.1 range.2
    if basicPlaneEnd < high then basic ++ [.eitherCase low high] else basic

/-- Whether an item of a set has letter case. -/
def itemCased (folding : Folding) : SetItem → Bool
  | .kind .. => false
  | .code point => basicPlaneEnd < lowered folding point || cased folding point
  | .range low high =>
    basicPlaneEnd < high || (List.range' low (high + 1 - low)).any (cased folding)

/-- The test of an item of a set that is compared as it stands. -/
def exactItem (ascii : Bool) : SetItem → PointTest
  | .kind kind negated => .kind kind negated ascii
  | .code point => .code point
  | .range low high => .range low high

/-- The test of a set; it is compared by folding only if some item has letter case. -/
def setTest (flags : Flags) (negated : Bool) (items : List SetItem) : CharTest :=
  let folding := flags.folding
  let ascii := !flags.unicode
  if folding != .exact && items.any (itemCased folding) then
    ⟨folding, negated, items.flatMap (foldedItem folding ascii)⟩
  else ⟨.exact, negated, items.map (exactItem ascii)⟩

/-- The test of any character. -/
def anyTest (flags : Flags) : CharTest := ⟨.exact, true, if flags.dotAll then [] else [.code 10]⟩

/-- The place that an anchor asks for. -/
def placeOf (flags : Flags) : Anchor → Place
  | .lineStart => if flags.multiline then .lineStart else .textStart
  | .lineEnd => if flags.multiline then .lineEnd else .lastLineEnd
  | .textStart => .textStart
  | .textEnd => .textEnd
  | .boundary => .boundary (!flags.unicode) false
  | .noBoundary => .boundary (!flags.unicode) true

/-! ### Code of nodes -/

mutual

/-- The code of a node. -/
def codeOf (widths : List (Option Width)) (flags : Flags) (node : Node) :
    Except Complaint (List Code) :=
  match node with
  | .literal point => .ok [.one (literalTest flags false point)]
  | .exceptLiteral point => .ok [.one (literalTest flags true point)]
  | .any => .ok [.one (anyTest flags)]
  | .set negated items => .ok [.one (setTest flags negated items)]
  | .anchor anchor => .ok [.place (placeOf flags anchor)]
  | .reference group => .ok [.reference group flags.folding]
  | .conditional group yes no => do
    return [.conditional group (← codeOfAll widths flags yes) (← codeOfAll widths flags no)]
  | .branch alternatives => do return [.branch (← codeOfEach widths flags alternatives)]
  | .loop greed least most body => do
    if flags.template then throw (.templateLoop greed)
    match ← codeOfAll widths flags body with
    | [.one test] => return [.span greed least most test]
    | code => return [.loop greed least most code]
  | .group index added removed body => do
    let code ← codeOfAll widths (flags.within added removed) body
    match index with
    | none => return code
    | some group => return .mark (2 * group - 2) :: code ++ [.mark (2 * group - 1)]
  | .atomic body => do return [.atomic (← codeOfAll widths flags body)]
  | .look ahead positive body => do
    let back ←
      if ahead then pure 0
      else
        let width := widthOfAll widths body
        if width.least != width.greatest then throw .lookbehindWidth
        else pure width.least
    return [.look back positive (← codeOfAll widths flags body)]

/-- The code of a sequence. -/
def codeOfAll (widths : List (Option Width)) (flags : Flags) (nodes : List Node) :
    Except Complaint (List Code) :=
  match nodes with
  | [] => .ok []
  | node :: rest => do
    let first ← codeOf widths flags node
    return first ++ (← codeOfAll widths flags rest)

/-- The code of every alternative. -/
def codeOfEach (widths : List (Option Width)) (flags : Flags) (bodies : List (List Node)) :
    Except Complaint (List (List Code)) :=
  match bodies with
  | [] => .ok []
  | body :: rest => do
    let first ← codeOfAll widths flags body
    return first :: (← codeOfEach widths flags rest)

end

/-! ### Distances -/

mutual

/-- The greatest distance that a look starts back within a step. -/
def farthest : Code → Nat
  | .one _ | .place _ | .mark _ | .reference .. | .span .. => 0
  | .conditional _ yes no => max (farthestOfAll yes) (farthestOfAll no)
  | .branch alternatives => farthestOfEach alternatives
  | .loop _ _ _ body | .atomic body => farthestOfAll body
  | .look back _ body => max back (farthestOfAll body)

/-- The greatest distance that a look starts back within a sequence. -/
def farthestOfAll : List Code → Nat
  | [] => 0
  | code :: rest => max (farthest code) (farthestOfAll rest)

/-- The greatest distance that a look starts back within some alternative. -/
def farthestOfEach : List (List Code) → Nat
  | [] => 0
  | codes :: rest => max (farthestOfAll codes) (farthestOfEach rest)

end

/-- The distance from which on a look to the left is refused when release 3.11.2 checks the code;
later releases count farther. -/
def lookLimit : Nat := 2147483648

/-- The code of a parsed pattern. -/
def Parsed.code (parsed : Parsed) : Except Refusal (List Code) := do
  let flags := { parsed.flags with unicode := !parsed.flags.ascii }
  let codes ← (codeOfAll parsed.widths flags parsed.nodes).mapError fun complaint =>
    .malformed complaint none
  if lookLimit ≤ farthestOfAll codes then throw .lookTooFar
  return codes

end FleetSchema.Pattern
