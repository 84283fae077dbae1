/-
**Which texts are whole numerals.**

A numeral may stand between blanks and may have a sign. A whole numeral is a part of digits, of at
most 4300 of them.

* `Frames`, `Signed`: what may stand beside a numeral and in front of it;
* `WritesInteger`: the texts that write an integer;
* `integer?_eq_some_iff`: exactly these texts are read, as the integer that they write.
-/

import FleetSchema.Proofs.Number.DigitParts
import FleetSchema.Proofs.Text.Trimming

namespace FleetSchema.Numeral

open FleetSchema.Text

variable {text : String} {letters body : List Char} {values : List Nat} {negative : Bool}

/-! ### What whole numerals are -/

/-- A text holds letters, with nothing beside them but what may stand beside a numeral. -/
def Frames (text : String) (letters : List Char) : Prop :=
  ∃ front back, text.toList = front ++ letters ++ back ∧ front.all isMargin = true ∧
    back.all isMargin = true

/-- Letters have a sign in front of the others, or none. -/
inductive Signed : Bool → List Char → List Char → Prop
  | bare (body : List Char) : Signed false body body
  | plus (body : List Char) : Signed false ('+' :: body) body
  | minus (body : List Char) : Signed true ('-' :: body) body

/-- The number that digits write. -/
def sizeOf (values : List Nat) : Nat := Nat.ofDigits 10 values.reverse

/-- A number with a sign. -/
def signed (negative : Bool) (size : Nat) : Int := if negative then -size else size

/-- A text is a whole numeral of an integer. -/
inductive WritesInteger (text : String) : Int → Prop
  | intro {letters body : List Char} {negative : Bool} {values : List Nat}
    (frames : Frames text letters) (sign : Signed negative letters body)
    (digits : DigitPart body values) (few : values.length ≤ digitLimit) :
    WritesInteger text (signed negative (sizeOf values))

/-- A part of digits, or nothing. -/
def MaybePart (letters : List Char) (values : List Nat) : Prop :=
  DigitPart letters values ∨ letters = [] ∧ values = []

/-! ### What stands beside a numeral -/

theorem frames_trimMargins (text : String) : Frames text (trimMargins text.toList) := by
  obtain ⟨back, isRest, isBack⟩ :=
    exists_dropTail_append isMargin (text.toList.dropWhile isMargin)
  refine ⟨text.toList.takeWhile isMargin, back, ?_, List.all_takeWhile, isBack⟩
  rw [trimMargins, List.append_assoc, ← isRest, List.takeWhile_append_dropWhile]

/-- Neither the first letter nor the last one may stand beside a numeral. -/
structure Tight (letters : List Char) : Prop where
  start : ∃ first rest, letters = first :: rest ∧ isMargin first = false
  ending : ∃ start final, letters = start ++ [final] ∧ isMargin final = false

theorem Tight.cons {first : Char} (outside : isMargin first = false) (tight : Tight letters) :
    Tight (first :: letters) := by
  obtain ⟨start, final, rfl, inside⟩ := tight.ending
  exact ⟨⟨first, _, rfl, outside⟩, ⟨first :: start, final, rfl, inside⟩⟩

theorem Tight.append (tight : Tight letters) {others : List Char} (other : Tight others) :
    Tight (letters ++ others) := by
  obtain ⟨first, rest, rfl, outside⟩ := tight.start
  obtain ⟨start, final, rfl, inside⟩ := other.ending
  refine ⟨⟨first, rest ++ (start ++ [final]), rfl, outside⟩,
    ⟨first :: rest ++ start, final, ?_, inside⟩⟩
  rw [List.append_assoc]

theorem trimMargins_of_frames (frames : Frames text letters) (tight : Tight letters) :
    trimMargins text.toList = letters := by
  obtain ⟨front, back, isText, isFront, isBack⟩ := frames
  obtain ⟨start, final, isLetters, inside⟩ := tight.ending
  obtain ⟨first, rest, rfl, outside⟩ := tight.start
  rw [trimMargins, isText, List.append_assoc,
    List.dropWhile_append_of_pos (List.all_eq_true.mp isFront), List.cons_append,
    List.dropWhile_cons_of_neg (by rw [outside]; exact Bool.false_ne_true), ← List.cons_append,
    dropTail_append_of_all isMargin _ back isBack, isLetters,
    dropTail_append_of_not isMargin start inside]

theorem DigitPart.tight (part : DigitPart letters values) : Tight letters := by
  obtain ⟨first, rest, _, isLetters, digit⟩ := part.head
  obtain ⟨start, final, _, ends, finalDigit⟩ := part.last?
  exact ⟨⟨first, rest, isLetters, isMargin_eq_false digit⟩,
    ⟨start, final, ends, isMargin_eq_false finalDigit⟩⟩

/-! ### Signs -/

/-- Letters that do not start with a sign. -/
def Unmarked (letters : List Char) : Prop :=
  ∀ rest, letters ≠ '+' :: rest ∧ letters ≠ '-' :: rest

theorem signs_value : digitValue? '+' = none ∧ digitValue? '-' = none := by
  decide +kernel

theorem Signed.tight (sign : Signed negative letters body) (tight : Tight body) :
    Tight letters := by
  cases sign with
  | bare => exact tight
  | plus => exact tight.cons (by decide +kernel)
  | minus => exact tight.cons (by decide +kernel)

theorem takeSign_of_unmarked (unmarked : Unmarked letters) :
    takeSign (plainDigits letters) = (false, plainDigits letters) := by
  unfold takeSign
  split
  · rename_i rest isLetters
    obtain ⟨first, others, rfl, same, _⟩ := List.map_eq_cons_iff.mp isLetters
    rw [(plainLetter_eq_iff signs_value.2).mp same] at unmarked
    exact absurd rfl (unmarked others).2
  · rename_i rest isLetters
    obtain ⟨first, others, rfl, same, _⟩ := List.map_eq_cons_iff.mp isLetters
    rw [(plainLetter_eq_iff signs_value.1).mp same] at unmarked
    exact absurd rfl (unmarked others).1
  · rfl

theorem takeSign_of_signed (sign : Signed negative letters body) (unmarked : Unmarked body) :
    takeSign (plainDigits letters) = (negative, plainDigits body) := by
  cases sign with
  | bare => exact takeSign_of_unmarked unmarked
  | plus =>
    show takeSign (plainLetter '+' :: plainDigits body) = _
    rw [plainLetter_of_other signs_value.1]
    rfl
  | minus =>
    show takeSign (plainLetter '-' :: plainDigits body) = _
    rw [plainLetter_of_other signs_value.2]
    rfl

theorem exists_signed (letters : List Char) : ∃ negative body, Signed negative letters body ∧
    takeSign (plainDigits letters) = (negative, plainDigits body) := by
  by_cases plus : ∃ rest, letters = '+' :: rest
  · obtain ⟨rest, rfl⟩ := plus
    refine ⟨false, rest, .plus rest, ?_⟩
    show takeSign (plainLetter '+' :: plainDigits rest) = _
    rw [plainLetter_of_other signs_value.1]
    rfl
  by_cases minus : ∃ rest, letters = '-' :: rest
  · obtain ⟨rest, rfl⟩ := minus
    refine ⟨true, rest, .minus rest, ?_⟩
    show takeSign (plainLetter '-' :: plainDigits rest) = _
    rw [plainLetter_of_other signs_value.2]
    rfl
  · refine ⟨false, letters, .bare letters, takeSign_of_unmarked fun rest => ⟨?_, ?_⟩⟩
    · exact fun isLetters => plus ⟨rest, isLetters⟩
    · exact fun isLetters => minus ⟨rest, isLetters⟩

theorem unmarked_cons {first : Char} (plus : first ≠ '+') (minus : first ≠ '-')
    (rest : List Char) : Unmarked (first :: rest) := by
  intro others
  exact ⟨fun same => plus (List.cons.inj same).1, fun same => minus (List.cons.inj same).1⟩

theorem DigitPart.unmarked (part : DigitPart letters values) : Unmarked letters := by
  obtain ⟨first, rest, value, rfl, digit⟩ := part.head
  exact unmarked_cons (ne_of_digit digit signs_value.1) (ne_of_digit digit signs_value.2) rest

/-! ### Whole numerals -/

theorem takeDigits_cases (letters : List Char) : ∃ part values left, letters = part ++ left ∧
    MaybePart part values ∧
    takeDigits (plainDigits letters) = (values.map digitLetter, plainDigits left) := by
  cases letters with
  | nil => exact ⟨[], [], [], rfl, Or.inr ⟨rfl, rfl⟩, rfl⟩
  | cons first rest =>
    cases digit : digitValue? first with
    | none =>
      refine ⟨[], [], first :: rest, rfl, Or.inr ⟨rfl, rfl⟩, ?_⟩
      exact takeDigits_of_not_digit (isDigit_of_other digit) _
    | some value =>
      obtain ⟨part, values, left, isWhole, isPart, taken⟩ := takeDigits_of_digit digit rest
      exact ⟨part, values, left, isWhole, Or.inl isPart, taken⟩

theorem takeDigits_of_part (part : DigitPart letters values) :
    takeDigits (plainDigits letters) = (values.map digitLetter, []) := by
  have taken := takeDigits_append part endsPart_nil
  rw [List.append_nil] at taken
  exact taken

theorem digitsValue_of_part (part : DigitPart letters values) :
    digitsValue (values.map digitLetter) = sizeOf values :=
  digitsValue_map_digitLetter part.lt_ten

theorem integer?_eq {found rest : List Char}
    (sign : takeSign (plainDigits (trimMargins text.toList)) = (negative, letters))
    (digits : takeDigits letters = (found, rest)) : integer? text =
      if found ≠ [] ∧ rest = [] ∧ found.length ≤ digitLimit then
        some (signed negative (digitsValue found))
      else none := by
  unfold integer?
  rw [sign]
  dsimp only
  rw [digits]
  dsimp only
  by_cases fits : found ≠ [] ∧ rest = [] ∧ found.length ≤ digitLimit
  · rw [if_pos fits, if_neg]
    · rfl
    · simpa [and_assoc] using fits
  · rw [if_neg fits, if_pos]
    simp only [Bool.or_eq_true, List.isEmpty_iff, Bool.not_eq_true', decide_eq_true_eq]
    by_contra others
    push Not at others
    exact fits ⟨others.1.1, by simpa using others.1.2, others.2⟩

/-- **Exactly the whole numerals are read as integers**, each as the one that it writes. -/
theorem integer?_eq_some_iff {number : Int} :
    integer? text = some number ↔ WritesInteger text number := by
  constructor
  · intro read
    obtain ⟨negative, body, sign, taken⟩ := exists_signed (trimMargins text.toList)
    obtain ⟨part, values, left, rfl, maybe, digits⟩ := takeDigits_cases body
    rw [integer?_eq taken digits] at read
    obtain ⟨⟨some, done, few⟩, isNumber⟩ := Option.ite_none_right_eq_some.mp read
    obtain rfl : left = [] := List.map_eq_nil_iff.mp done
    obtain isPart | ⟨_, rfl⟩ := maybe
    · rw [List.append_nil] at sign
      rw [digitsValue_of_part isPart] at isNumber
      rw [← Option.some.inj isNumber]
      rw [List.length_map] at few
      exact .intro (frames_trimMargins text) sign isPart few
    · exact absurd rfl some
  · rintro ⟨frames, sign, digits, few⟩
    have trimmed := trimMargins_of_frames frames (sign.tight digits.tight)
    have taken := takeSign_of_signed sign digits.unmarked
    rw [← trimmed] at taken
    rw [integer?_eq taken (takeDigits_of_part digits), if_pos, digitsValue_of_part digits]
    refine ⟨fun none => digits.ne_nil (List.map_eq_nil_iff.mp none), rfl, ?_⟩
    rw [List.length_map]
    exact few

example : integer? " +1_0\n" = some 10 := by decide +kernel

end FleetSchema.Numeral
