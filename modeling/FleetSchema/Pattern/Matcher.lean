/-
**Matching by backtracking.**

A pattern is tried at a place of a text from left to right, each choice in the order in which the
pattern offers it, with what is still to be matched handed on as a continuation. A repetition takes
no further round once a round has read nothing. A possessive loop does not take back the round that
fails: it goes on from the place where that round has left its cursor.

* `Matcher.run`: the code of a pattern at a place;
* `Matcher.search`: the marks of the first place of a text that matches.
-/

import FleetSchema.Pattern.Attempt
import FleetSchema.Pattern.Code

namespace FleetSchema.Pattern.Matcher

/-! ### Characters and places -/

/-- Membership of a class. -/
def inClass (kind : CharClass) (ascii : Bool) (letter : Char) : Bool :=
  match kind, ascii with
  | .digit, true => letter.isDigit
  | .digit, false => Text.isDigit letter
  | .blank, true => letter == ' ' || (9 ≤ letter.toNat && letter.toNat ≤ 13)
  | .blank, false => Text.isBlank letter
  | .word, true => Text.isAsciiWord letter
  | .word, false => Text.isWord letter

/-- Whether a code point passes a test. -/
def passes (point : Nat) : PointTest → Bool
  | .code other => point == other
  | .range low high => low ≤ point && point ≤ high
  | .eitherCase low high =>
    (low ≤ point && point ≤ high) || (low ≤ raised point && raised point ≤ high)
  | .kind kind negated ascii => inClass kind ascii (Char.ofNat point) != negated

/-- Whether a character passes a test. -/
def accepts (test : CharTest) (letter : Char) : Bool :=
  let point := lowered test.folding letter.toNat
  test.tests.any (passes point) != test.negated

/-- Whether the character at a place passes a test. -/
def acceptsAt (text : Array Char) (test : CharTest) (position : Nat) : Bool :=
  match text[position]? with
  | some letter => accepts test letter
  | none => false

/-- Whether a character belongs to a word. -/
def wordAt (text : Array Char) (ascii : Bool) (position : Nat) : Bool :=
  match text[position]? with
  | some letter => inClass .word ascii letter
  | none => false

/-- Whether a place is the one asked for. An empty text has neither word boundaries nor places
that are none. -/
def isPlace (text : Array Char) (position : Nat) : Place → Bool
  | .textStart => position == 0
  | .lineStart => position == 0 || text[position - 1]? == some '\n'
  | .lastLineEnd =>
    position == text.size || (position + 1 == text.size && text[position]? == some '\n')
  | .lineEnd => position == text.size || text[position]? == some '\n'
  | .textEnd => position == text.size
  | .boundary ascii negated =>
    !text.isEmpty &&
      ((0 < position && wordAt text ascii (position - 1)) != wordAt text ascii position) != negated

/-- Whether a stretch of the text stands again at a place. -/
def repeatsAt (text : Array Char) (folding : Folding) (start position : Nat) : Nat → Bool
  | 0 => true
  | count + 1 =>
    match text[start]?, text[position]? with
    | some first, some second =>
      lowered folding first.toNat == lowered folding second.toNat &&
        repeatsAt text folding (start + 1) (position + 1) count
    | _, _ => false

/-- Whether a sequence plainly starts with another character than the one at a place: it starts with
a character or a set that is compared as it stands, and the character there is not of it. -/
def startsElsewhere (text : Array Char) (position : Nat) : List Code → Bool
  | .one test :: _ => test.isListing && !acceptsAt text test position
  | _ => false

/-- The character that must stand at the start of a sequence, if it starts with one; `next` is that
of what follows the sequence. -/
def leading (next : Option Nat) : List Code → Option Nat
  | [] => next
  | .one test :: _ => test.literal?
  | _ => none

/-- Whether the character that must stand at a place stands there. -/
def stands (text : Array Char) (next : Option Nat) (position : Nat) : Bool :=
  match next with
  | none => true
  | some point => (text[position]?.map Char.toNat) == some point

/-! ### Spans -/

/-- The number of characters from a place on that pass a test, up to a bound. -/
def countFrom (text : Array Char) (test : CharTest) (position : Nat) : Nat → Nat
  | 0 => 0
  | room + 1 =>
    if acceptsAt text test position then countFrom text test (position + 1) room + 1 else 0

/-- Go on behind a span, from its longest reading to its shortest. Readings behind which the next
character does not stand are passed over. -/
def backOff (text : Array Char) (looped : Bool) (next : Option Nat) (goOn : Continuation)
    (shortest : Reached) : Nat → Outcome
  | 0 =>
    if stands text next shortest.position then
      (goOn shortest.settled).orElse fun left => .failed (shortest.retry looped left).trace
    else .failed shortest.trace
  | extra + 1 =>
    let longest := shortest.forward (extra + 1)
    if stands text next longest.position then
      (goOn longest.settled).orElse fun left =>
        backOff text looped next goOn (shortest.retry looped left) extra
    else backOff text looped next goOn shortest extra

/-- Go on behind a span, from its shortest reading to its longest. -/
def stretch (looped : Bool) (goOn : Continuation) (shortest : Reached) : Nat → Outcome
  | 0 => tryHere looped goOn shortest
  | extra + 1 =>
    (goOn shortest.settled).orElse fun left =>
      stretch looped goOn ((shortest.retry looped left).forward 1) extra

/-- Match a span of characters. -/
def matchSpan (text : Array Char) (looped : Bool) (next : Option Nat) (greed : Greed) (least : Nat)
    (most : Option Nat) (test : CharTest) (goOn : Continuation) (reached : Reached) : Outcome :=
  let left := text.size - reached.position
  let room := match most with
    | some most => min most left
    | none => left
  if left < least then .failed reached.trace
  else
    let start := reached.settled
    let count := countFrom text test start.position room
    if count < least then .failed start.trace
    else
      match greed with
      | .greedy => backOff text looped next goOn (start.forward least) (count - least)
      | .lazy => stretch looped goOn (start.forward least) (count - least)
      | .possessive => goOn (start.forward count)

/-! ### Loops -/

/-- A round of a loop, with what follows it. -/
abbrev Round := Continuation → Continuation

/-- The rounds that a loop must take. -/
def mustTake (round : Round) (goOn : Continuation) : Nat → Continuation
  | 0 => goOn
  | count + 1 => fromHere (round (mustTake round goOn count))

/-- Whether a bound on further rounds allows one. -/
def allowsRound : Option Nat → Bool
  | some 0 => false
  | _ => true

/-- The bound after one more round. -/
def oneLess : Option Nat → Option Nat := Option.map (· - 1)

/-- The rounds that a loop may take beyond those it must, longest first. Each round but the last
moves forward, so that `room`, the number of characters to the right, bounds them. -/
def mayTake (round : Round) (goOn : Continuation) (extra : Option Nat) :
    Nat → Reached → Outcome
  | 0, reached => fromHere goOn reached
  | room + 1, reached =>
    if allowsRound extra then
      let further := fun after =>
        if after.position == reached.position then fromHere goOn after
        else mayTake round goOn (oneLess extra) room after
      (round further reached.settled).orElse fun _ => fromHere goOn reached
    else fromHere goOn reached

/-- The rounds that a loop may take beyond those it must, shortest first. -/
def mayTakeLate (looped : Bool) (round : Round) (goOn : Continuation) (extra : Option Nat) :
    Nat → Reached → Outcome
  | 0, reached => tryHere looped goOn reached
  | room + 1, reached =>
    (goOn reached.settled).orElse fun left =>
      let again := reached.retry looped left
      let further := fun after =>
        if after.position == reached.position then tryHere looped goOn after
        else mayTakeLate looped round goOn (oneLess extra) room after
      if allowsRound extra then fromHere (round further) again else .failed again.settled.trace

/-- The rounds that a loop takes without ever giving one back. The round that fails moves the place
to its cursor: release 3.11.2 does not put the place back, as later releases do. -/
def takeAll (round : Round) (extra : Option Nat) : Nat → Reached → Reached
  | 0, reached => reached
  | room + 1, reached =>
    if allowsRound extra then
      match round finish reached.settled with
      | .failed left => ⟨left.cursor, left.cursor, reached.trace.marks⟩
      | .matched after =>
        if after.position == reached.position then after
        else takeAll round (oneLess extra) room after
    else reached

/-- Rounds that must be taken without giving one back. -/
def takeExactly (round : Round) : Nat → Reached → Outcome
  | 0, reached => .matched reached
  | count + 1, reached =>
    match round finish reached.settled with
    | .failed left => .failed left
    | .matched after => takeExactly round count after

/-- Match a loop. -/
def matchLoop (size : Nat) (looped : Bool) (greed : Greed) (least : Nat) (most : Option Nat)
    (round : Round) (goOn : Continuation) : Continuation :=
  let extra := most.map (· - least)
  let room := fun (reached : Reached) => size - reached.position + 1
  match greed with
  | .greedy =>
    mustTake round (fun reached => mayTake round goOn extra (room reached) reached) least
  | .lazy =>
    mustTake round (fun reached => mayTakeLate looped round goOn extra (room reached) reached)
      least
  | .possessive => fun reached =>
    match takeExactly round least reached.settled with
    | .failed left => .failed ⟨reached.position, left.marks⟩
    | .matched after => goOn (takeAll round extra (room after) after).settled

/-! ### Code -/

mutual

/-- Match one step and go on. `looped` tells whether the step stands inside a loop that may give
rounds back, and `next` is the character that must stand behind it, if there is one. -/
def run (text : Array Char) (looped : Bool) (next : Option Nat) (code : Code)
    (goOn : Continuation) (reached : Reached) : Outcome :=
  match code with
  | .one test =>
    if acceptsAt text test reached.position then goOn (reached.forward 1)
    else .failed reached.trace
  | .place place =>
    if isPlace text reached.position place then goOn reached else .failed reached.trace
  | .mark index =>
    let trace := reached.trace
    goOn { reached with trace := { trace with marks := trace.marks.put index reached.position } }
  | .reference group folding =>
    match reached.trace.marks.group? group with
    | none => .failed reached.trace
    | some (start, stop) =>
      if repeatsAt text folding start reached.position (stop - start) then
        goOn (reached.forward (stop - start))
      else .failed reached.trace
  | .conditional group yes no =>
    match reached.trace.marks.group? group with
    | some _ => runAll text looped (if no.isEmpty then next else none) yes goOn reached
    | none => runAll text looped next no goOn reached
  | .branch alternatives => runAny text looped alternatives goOn reached
  | .span greed least most test => matchSpan text looped next greed least most test goOn reached
  | .loop greed least most body =>
    matchLoop text.size looped greed least most
      (fun goOn => runAll text (looped || greed != .possessive) none body goOn) goOn reached
  | .atomic body =>
    match runAll text looped none body finish reached.settled with
    | .failed left => .failed ⟨reached.position, left.marks⟩
    | .matched after => goOn after
  | .look back positive body =>
    if reached.position < back then if positive then .failed reached.trace else goOn reached
    else
      let start : Reached := ⟨reached.position - back, reached.trace⟩
      match runAll text looped none body finish start.settled, positive with
      | .matched after, true => goOn ⟨reached.position, after.trace⟩
      | .matched after, false => .failed after.trace
      | .failed left, true => .failed left
      | .failed left, false => goOn (reached.retry looped left)

/-- Match the steps of a sequence and go on. -/
def runAll (text : Array Char) (looped : Bool) (next : Option Nat) (codes : List Code)
    (goOn : Continuation) (reached : Reached) : Outcome :=
  match codes with
  | [] => goOn reached
  | code :: rest =>
    run text looped (leading next rest) code
      (fun after => runAll text looped next rest goOn after) reached

/-- Match the first alternative that leads on. -/
def runAny (text : Array Char) (looped : Bool) (alternatives : List (List Code))
    (goOn : Continuation) (reached : Reached) : Outcome :=
  match alternatives with
  | [] => .failed reached.trace
  | codes :: rest =>
    if startsElsewhere text reached.position codes then runAny text looped rest goOn reached
    else
      (runAll text looped none codes goOn reached.settled).orElse fun left =>
        runAny text looped rest goOn (reached.retry looped left)

end

/-- The marks of a match that starts at a place. -/
def matchAt (text : Array Char) (codes : List Code) (groups position : Nat) : Option Marks :=
  match runAll text false none codes finish ⟨position, position, .unset groups⟩ with
  | .matched reached => some reached.trace.marks
  | .failed _ => none

/-- The marks of the first match at a place or, within a number of further places, behind it. -/
def searchFrom (text : Array Char) (codes : List Code) (groups position : Nat) :
    Nat → Option Marks
  | 0 => matchAt text codes groups position
  | more + 1 =>
    match matchAt text codes groups position with
    | some marks => some marks
    | none => searchFrom text codes groups (position + 1) more

/-- The marks of the first match in a text. -/
def search (codes : List Code) (groups : Nat) (text : String) : Option Marks :=
  let letters := text.toList.toArray
  searchFrom letters codes groups 0 letters.size

end FleetSchema.Pattern.Matcher
