/-
**Name patterns.**

A name pattern is a regular expression that is sought anywhere in a name. It is compiled once and
may then be matched against any number of names. What is read as a pattern and where it matches goes
by release 3.11.2 of the engine.

* `compile`: a pattern from its text, or the reason why it is refused, once there is room for it;
* `find`: what comes of seeking the pattern in a name.
-/

import FleetSchema.Pattern.Interpreter
import FleetSchema.Pattern.Matcher

namespace FleetSchema

/-- What comes of seeking a pattern in a name. -/
inductive Finding where
  /-- No place of the name matches. -/
  | absent
  /-- Some place of the name matches. -/
  | found
  /-- Some place of the name matches, but with a group that ends before it starts. -/
  | crossed
  deriving DecidableEq, Repr

/-- A compiled name pattern. -/
structure NamePattern where
  source : String
  codes : List Pattern.Code
  groups : Nat

namespace NamePattern

/-- A pattern from its text, with room for all of it. -/
def ofText (source : String) : Except Pattern.Refusal NamePattern := do
  let parsed ← Pattern.parse source
  let codes ← parsed.code
  return ⟨source, codes, parsed.widths.length - 1⟩

/-- Compile a pattern, unless it is given up. -/
def compile [Interpreter] (source : String) : Except Pattern.Refusal NamePattern :=
  match Interpreter.givenUp? source with
  | none => ofText source
  | some wording => .error (.givenUp wording)

/-- A pattern with few groups is not given up. -/
theorem compile_of_few [Interpreter] {source : String}
    (few : source.toList.count '(' ≤ Interpreter.room) : compile source = ofText source := by
  unfold compile
  rw [Interpreter.enough source few]

theorem compile_empty [Interpreter] : compile "" = ofText "" := compile_of_few (Nat.zero_le _)

/-- What comes of seeking a pattern in a name. -/
def find (pattern : NamePattern) (name : String) : Finding :=
  match Pattern.Matcher.search pattern.codes pattern.groups name with
  | none => .absent
  | some marks => if marks.crossed then .crossed else .found

end NamePattern

end FleetSchema
