/-
**Room for groups within groups.**

Whoever reads a pattern needs room for each group that stands within another one, and the room left
depends on what is going on already. An interpreter reads every pattern with few groups; of the
others it may give some up, in words of its own.

* `Interpreter`: what is given up, and how many groups are few;
* `Interpreter.usual`: an interpreter that gives up what nests too deep.
-/

namespace FleetSchema

/-- The room that patterns are read in. -/
class Interpreter where
  /-- What is said of a pattern that is given up. -/
  givenUp? : String → Option String
  /-- How many groups there is room for in every pattern. -/
  room : Nat
  enough : ∀ source : String, source.toList.count '(' ≤ room → givenUp? source = none

namespace Interpreter

/-- How deep opening brackets nest at most behind some that are open. -/
def deepest (opened : Nat) : List Char → Nat
  | [] => opened
  | letter :: rest =>
    if letter == '(' then deepest (opened + 1) rest
    else if letter == ')' then max opened (deepest (opened - 1) rest)
    else deepest opened rest

theorem deepest_le_count (opened : Nat) (letters : List Char) :
    deepest opened letters ≤ opened + letters.count '(' := by
  induction letters generalizing opened with
  | nil => exact Nat.le_refl _
  | cons letter rest ih =>
    have opening := ih (opened + 1)
    have closing := ih (opened - 1)
    have plain := ih opened
    unfold deepest
    rw [List.count_cons]
    split
    · omega
    · split
      · omega
      · omega

/-- How deep brackets may nest as a rule. -/
def usualRoom : Nat := 450

/-- An interpreter that gives up the patterns whose brackets nest too deep. -/
instance usual : Interpreter where
  givenUp? source :=
    if deepest 0 source.toList ≤ usualRoom then none else some "maximum recursion depth exceeded"
  room := usualRoom
  enough source few :=
    if_pos (Nat.le_trans (deepest_le_count 0 source.toList) (by rwa [Nat.zero_add]))

end Interpreter

end FleetSchema
