/-
**Attempts to match.**

An attempt reads a text from some place on. It marks where groups start and end, and it keeps a
cursor: the place where the last attempt within it began or, once that one has matched, ended. An
attempt that fails leaves its cursor and its marks behind.

* `Marks.put`: marks with one more of them set;
* `Marks.restore`: the marks with which the next choice is tried after one has failed;
* `Marks.crossed`: whether some group ends before it starts;
* `fromHere`, `tryHere`: ways to go on from a place and to come back to it.
-/

namespace FleetSchema.Pattern

/-! ### Marks -/

/-- Where groups start and end: two marks for each group, of which only the first `live` ones
count. -/
structure Marks where
  places : Array (Option Nat)
  live : Nat
  deriving Inhabited

namespace Marks

/-- The marks of a number of groups, none of which has started. -/
def unset (groups : Nat) : Marks := ⟨Array.replicate (2 * groups) none, 0⟩

/-- The place of a mark, if it counts and is set. -/
def place? (marks : Marks) (index : Nat) : Option Nat :=
  if index < marks.live then marks.places.getD index none else none

/-- Forget a number of marks from one index on. -/
def forget (places : Array (Option Nat)) (start : Nat) : Nat → Array (Option Nat)
  | 0 => places
  | count + 1 => forget (places.setIfInBounds start none) (start + 1) count

/-- Set a mark. The marks before it count from then on, and those that did not are not set. -/
def put (marks : Marks) (index position : Nat) : Marks where
  places := (forget marks.places marks.live (index - marks.live)).setIfInBounds index position
  live := max marks.live (index + 1)

/-- What a group has read, as its start and end, if both are set and in order. -/
def group? (marks : Marks) (group : Nat) : Option (Nat × Nat) :=
  match marks.place? (2 * group - 2), marks.place? (2 * group - 1) with
  | some start, some stop => if start ≤ stop then some (start, stop) else none
  | _, _ => none

/-- The marks for the next choice, from those before the failed one and those that it left. Inside a
loop, where a group may have been read before, all marks are put back. Elsewhere the marks beyond
those that counted no longer count, and the others stay as they are. -/
def restore (looped : Bool) (before left : Marks) : Marks :=
  if looped then before else { left with live := before.live }

/-- Whether some group ends before it starts. -/
def crossed (marks : Marks) : Bool :=
  (List.range (marks.places.size / 2)).any fun group =>
    match marks.place? (2 * group), marks.place? (2 * group + 1) with
    | some start, some stop => stop < start
    | _, _ => false

end Marks

/-! ### Attempts -/

/-- What an attempt has done on its way. -/
structure Trace where
  cursor : Nat
  marks : Marks
  deriving Inhabited

/-- A place in the text with the trace of the way to it. -/
structure Reached where
  position : Nat
  trace : Trace
  deriving Inhabited

/-- How an attempt ends. -/
inductive Outcome where
  /-- It matches up to a place. -/
  | matched (reached : Reached)
  /-- It fails and leaves its trace. -/
  | failed (left : Trace)
  deriving Inhabited

namespace Reached

/-- A place some characters further on. -/
def forward (reached : Reached) (count : Nat) : Reached :=
  ⟨reached.position + count, reached.trace⟩

/-- The same place with the cursor moved to it. -/
def settled (reached : Reached) : Reached :=
  ⟨reached.position, reached.position, reached.trace.marks⟩

/-- The place from which the next choice is tried after one has failed. -/
def retry (reached : Reached) (looped : Bool) (left : Trace) : Reached :=
  ⟨reached.position, left.cursor, reached.trace.marks.restore looped left.marks⟩

end Reached

namespace Outcome

/-- The outcome or, after a failure, what comes of its trace. -/
@[inline] def orElse (outcome : Outcome) (otherwise : Trace → Outcome) : Outcome :=
  match outcome with
  | .matched reached => .matched reached
  | .failed left => otherwise left

/-- The outcome with the cursor of a failure moved to a place. -/
def settledAt (outcome : Outcome) (position : Nat) : Outcome :=
  outcome.orElse fun left => .failed ⟨position, left.marks⟩

end Outcome

/-- What is still to be matched. -/
abbrev Continuation := Reached → Outcome

/-- Nothing is left to be matched. -/
def finish : Continuation := fun reached => .matched reached.settled

/-- Go on from a place and, after a failure, come back to it. -/
def fromHere (goOn : Continuation) (reached : Reached) : Outcome :=
  (goOn reached.settled).settledAt reached.position

/-- Go on from a place and, after a failure, come back to it with its marks. -/
def tryHere (looped : Bool) (goOn : Continuation) (reached : Reached) : Outcome :=
  (goOn reached.settled).orElse fun left => .failed (reached.retry looped left).settled.trace

end FleetSchema.Pattern
