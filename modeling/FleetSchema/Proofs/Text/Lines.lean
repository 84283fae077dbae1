/-
**How a text is cut into lines.**

A line ends in front of a boundary: one of the characters that end a line, or a carriage return with
the line feed behind it. The last line may do without a boundary, unless it is empty.

* `Boundary`, `CutsInto`: boundaries and lines, said without the function that cuts a text;
* `cutsInto_iff`: the function cuts every text in this way, and there is no other way.
-/

import FleetSchema.Text.Line

namespace FleetSchema.Text

/-- The characters that end a line. -/
def lineEnds : List Char :=
  ['\n', '\r', '\x0b', '\x0c', '\x1c', '\x1d', '\x1e', '\u0085', '\u2028', '\u2029']

theorem isLineEnd_iff {letter : Char} : isLineEnd letter = true ↔ letter ∈ lineEnds := by
  unfold isLineEnd lineEnds
  simp only [Bool.or_eq_true, beq_iff_eq, List.mem_cons, List.not_mem_nil, or_false, or_assoc]

/-- What stands between a line and the characters behind it. A carriage return is a boundary by
itself only where no line feed follows. -/
inductive Boundary : (ending behind : List Char) → Prop
  | pair (behind : List Char) : Boundary ['\r', '\n'] behind
  | single {letter : Char} {behind : List Char} (ends : letter ∈ lineEnds)
    (alone : letter = '\r' → behind.head? ≠ some '\n') : Boundary [letter] behind

/-- Characters are cut into lines. -/
inductive CutsInto : List Char → List (List Char) → Prop
  /-- Nothing is left. -/
  | nothing : CutsInto [] []
  /-- The last line has no boundary. -/
  | unended {line : List Char} (given : line ≠ []) (plain : ∀ letter ∈ line, letter ∉ lineEnds) :
    CutsInto line [line]
  /-- A line ends, and other lines may follow. -/
  | ended {line ending behind : List Char} {lines : List (List Char)}
    (plain : ∀ letter ∈ line, letter ∉ lineEnds) (boundary : Boundary ending behind)
    (others : CutsInto behind lines) : CutsInto (line ++ ending ++ behind) (line :: lines)

/-! ### The lines of the function are such lines -/

theorem linesFrom_cons {letter : Char} {behind : List Char}
    (alone : letter = '\r' → behind.head? ≠ some '\n') (current : List Char) :
    linesFrom current (letter :: behind) =
      if isLineEnd letter then current.reverse :: linesFrom [] behind
      else linesFrom (letter :: current) behind := by
  rw [linesFrom.eq_def]
  split
  · next nothing => cases nothing
  · next pair =>
    cases pair
    exact absurd rfl (alone rfl)
  · next same =>
    cases same
    rfl

theorem linesFrom_plain {line : List Char} (plain : ∀ letter ∈ line, letter ∉ lineEnds)
    (current behind : List Char) :
    linesFrom current (line ++ behind) = linesFrom (line.reverse ++ current) behind := by
  induction line generalizing current with
  | nil => rfl
  | cons letter rest ih =>
    obtain ⟨inside, others⟩ := List.forall_mem_cons.mp plain
    have noReturn : letter ≠ '\r' := by
      rintro rfl
      exact inside (by decide)
    have noEnd : ¬ isLineEnd letter = true := fun ends => inside (isLineEnd_iff.mp ends)
    rw [List.cons_append, linesFrom_cons fun isReturn => absurd isReturn noReturn, if_neg noEnd,
      ih others, List.reverse_cons, List.append_assoc]
    rfl

theorem linesFrom_boundary {ending behind : List Char} (boundary : Boundary ending behind)
    (current : List Char) :
    linesFrom current (ending ++ behind) = current.reverse :: linesFrom [] behind := by
  cases boundary with
  | pair => rfl
  | single ends alone =>
    rw [List.singleton_append, linesFrom_cons alone, if_pos (isLineEnd_iff.mpr ends)]

theorem linesFrom_unended {line : List Char} (given : line ≠ [])
    (plain : ∀ letter ∈ line, letter ∉ lineEnds) : linesFrom [] line = [line] := by
  have cut := linesFrom_plain plain [] []
  rw [List.append_nil, List.append_nil] at cut
  rw [cut]
  change (if line.reverse.isEmpty then [] else [line.reverse.reverse]) = [line]
  rw [if_neg (by simpa using given), List.reverse_reverse]

theorem CutsInto.linesFrom_eq {letters : List Char} {lines : List (List Char)}
    (cuts : CutsInto letters lines) : linesFrom [] letters = lines := by
  induction cuts with
  | nothing => rfl
  | unended given plain => exact linesFrom_unended given plain
  | ended plain boundary others ih =>
    rw [List.append_assoc, linesFrom_plain plain, linesFrom_boundary boundary, ih, List.append_nil,
      List.reverse_reverse]

/-! ### Every text has lines -/

/-- The lines of characters behind those of a line that has not ended. -/
theorem cutsInto_linesFrom {current : List Char} (letters : List Char)
    (plain : ∀ letter ∈ current, letter ∉ lineEnds) :
    CutsInto (current.reverse ++ letters) (linesFrom current letters) := by
  have plainLine {line : List Char} (plain : ∀ letter ∈ line, letter ∉ lineEnds) :
      ∀ letter ∈ line.reverse, letter ∉ lineEnds :=
    fun letter member => plain letter (List.mem_reverse.mp member)
  -- What has not ended grows by plain letters only, until a boundary (cases 3 and 4) or the end of
  -- the text (cases 1 and 2) makes a line of it.
  fun_induction linesFrom current letters with
  | case1 current empty =>
    rw [List.isEmpty_iff.mp empty]
    exact .nothing
  | case2 current given =>
    rw [List.append_nil]
    exact .unended (by simpa using given) (plainLine plain)
  | case3 current rest ih =>
    have others := ih fun _ member => absurd member List.not_mem_nil
    have cut := CutsInto.ended (plainLine plain) (.pair rest) others
    rw [List.append_assoc] at cut
    exact cut
  | case4 current letter rest noPair ends ih =>
    have others := ih fun _ member => absurd member List.not_mem_nil
    have boundary : Boundary [letter] rest := by
      refine .single (isLineEnd_iff.mp ends) fun isReturn feeds => ?_
      obtain ⟨behind, rfl⟩ := List.head?_eq_some_iff.mp feeds
      exact noPair behind isReturn rfl
    have cut := CutsInto.ended (plainLine plain) boundary others
    rw [List.append_assoc] at cut
    exact cut
  | case5 current letter rest _ inside ih =>
    have grown : ∀ other ∈ letter :: current, other ∉ lineEnds :=
      List.forall_mem_cons.mpr ⟨fun ends => inside (isLineEnd_iff.mpr ends), plain⟩
    have cut := ih grown
    rw [List.reverse_cons, List.append_assoc] at cut
    exact cut

/-- **Every text is cut into lines in one way**, which is what the function finds. -/
theorem cutsInto_iff (letters : List Char) (lines : List (List Char)) :
    CutsInto letters lines ↔ linesFrom [] letters = lines := by
  constructor
  · exact CutsInto.linesFrom_eq
  · rintro rfl
    exact cutsInto_linesFrom letters fun _ member => absurd member List.not_mem_nil

end FleetSchema.Text
