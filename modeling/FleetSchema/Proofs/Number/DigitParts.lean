/-
**Parts of digits.**

A numeral is made of parts of digits: decimal digits of any script, with single low lines between
some of them. A reader first puts the digits of ASCII in their place and then takes a part off the
front of the letters.

* `DigitPart`: the parts of digits, with the values of their digits;
* `digitValue?_eq_none_of_isBlank`: no digit is a blank, so trimming keeps all digits;
* `takeDigits_append`: a part is taken off the front, up to what cannot carry it on;
* `takeDigits_of_digit`: what is taken off letters that start with a digit is a part;
* `digitsValue_map_digitLetter`: the digits that are taken have the value of the part.
-/

import FleetSchema.Number.Numeral
import Mathlib.Data.List.Induction
import Mathlib.Data.Nat.Digits.Defs

namespace FleetSchema.Numeral

open FleetSchema.Text

/-- Decimal digits, with single low lines between some of them, and the values of the digits. -/
inductive DigitPart : List Char → List Nat → Prop
  /-- The last digit. -/
  | last {letter : Char} {value : Nat} (digit : digitValue? letter = some value) :
    DigitPart [letter] [value]
  /-- A digit with another one behind it. -/
  | next {letter : Char} {value : Nat} {letters : List Char} {values : List Nat}
    (digit : digitValue? letter = some value) (rest : DigitPart letters values) :
    DigitPart (letter :: letters) (value :: values)
  /-- A digit with a low line and another digit behind it. -/
  | line {letter : Char} {value : Nat} {letters : List Char} {values : List Nat}
    (digit : digitValue? letter = some value) (rest : DigitPart letters values) :
    DigitPart (letter :: '_' :: letters) (value :: values)

variable {letter : Char} {value : Nat} {letters : List Char} {values : List Nat}

theorem ne_of_digit {mark : Char} (digit : digitValue? letter = some value)
    (other : digitValue? mark = none) : letter ≠ mark := by
  rintro rfl
  rw [other] at digit
  cases digit

theorem DigitPart.head (part : DigitPart letters values) :
    ∃ first rest value, letters = first :: rest ∧ digitValue? first = some value := by
  cases part with
  | last digit => exact ⟨_, _, _, rfl, digit⟩
  | next digit => exact ⟨_, _, _, rfl, digit⟩
  | line digit => exact ⟨_, _, _, rfl, digit⟩

theorem DigitPart.last? (part : DigitPart letters values) :
    ∃ start final value, letters = start ++ [final] ∧ digitValue? final = some value := by
  induction part with
  | last digit => exact ⟨[], _, _, rfl, digit⟩
  | next _ _ ih =>
    obtain ⟨start, final, value, rfl, digit⟩ := ih
    exact ⟨_ :: start, final, value, rfl, digit⟩
  | line _ _ ih =>
    obtain ⟨start, final, value, rfl, digit⟩ := ih
    exact ⟨_ :: '_' :: start, final, value, rfl, digit⟩

theorem DigitPart.ne_nil (part : DigitPart letters values) : values ≠ [] := by
  cases part <;> exact List.cons_ne_nil _ _

theorem DigitPart.lt_ten (part : DigitPart letters values) : ∀ value ∈ values, value < 10 := by
  induction part with
  | last digit =>
    intro value member
    rw [List.mem_singleton.mp member]
    exact digitValue?_lt digit
  | next digit _ ih | line digit _ ih =>
    intro value member
    obtain rfl | member := List.mem_cons.mp member
    · exact digitValue?_lt digit
    · exact ih value member

/-! ### Digits of ASCII -/

/-- The digit of ASCII with a value. -/
def digitLetter (value : Nat) : Char := Char.ofNat (48 + value)

/-- What stands for a letter once digits are those of ASCII. -/
def plainLetter (letter : Char) : Char :=
  match digitValue? letter with
  | some value => digitLetter value
  | none => letter

theorem plainDigits_eq_map (letters : List Char) : plainDigits letters = letters.map plainLetter :=
  rfl

theorem plainLetter_of_digit (digit : digitValue? letter = some value) :
    plainLetter letter = digitLetter value := by
  rw [plainLetter, digit]

theorem plainLetter_of_other (other : digitValue? letter = none) :
    plainLetter letter = letter := by
  rw [plainLetter, other]

theorem digitLetter_spec : ∀ value < 10, (digitLetter value).isDigit = true ∧
    (digitLetter value).toNat - 48 = value := by
  decide

theorem isDigit_eq_false (other : digitValue? letter = none) : letter.isDigit = false := by
  have known : ∀ point < 58, 48 ≤ point → (digitValue? (Char.ofNat point)).isSome = true := by
    decide +kernel
  by_contra digit
  obtain ⟨low, high⟩ : 48 ≤ letter.toNat ∧ letter.toNat ≤ 57 := by
    simpa [Char.isDigit, UInt32.le_iff_toNat_le] using digit
  have found := known letter.toNat (by omega) low
  rw [Char.ofNat_toNat, other] at found
  cases found

theorem isDigit_plainLetter (letter : Char) :
    (plainLetter letter).isDigit = (digitValue? letter).isSome := by
  cases digit : digitValue? letter with
  | some value =>
    rw [plainLetter_of_digit digit]
    exact (digitLetter_spec value (digitValue?_lt digit)).1
  | none =>
    rw [plainLetter_of_other digit]
    exact isDigit_eq_false digit

theorem isDigit_of_digit (digit : digitValue? letter = some value) :
    (plainLetter letter).isDigit = true := by
  rw [isDigit_plainLetter, digit]
  rfl

theorem isDigit_of_other (other : digitValue? letter = none) :
    (plainLetter letter).isDigit = false := by
  rw [isDigit_plainLetter, other]
  rfl

theorem plainLetter_eq_iff {mark : Char} (other : digitValue? mark = none) :
    plainLetter letter = mark ↔ letter = mark := by
  cases digit : digitValue? letter with
  | none => rw [plainLetter_of_other digit]
  | some value =>
    refine iff_of_false (fun same => ?_) (fun same => ?_)
    · have isDigit := isDigit_of_digit digit
      rw [same, isDigit_eq_false other] at isDigit
      cases isDigit
    · exact ne_of_digit digit other same

/-! ### Blanks -/

theorem blank_points : ∀ half < 10, ∀ step < 11,
    blankRanges.bounds.getD (2 * half) 0 + step < blankRanges.bounds.getD (2 * half + 1) 0 →
    digitValue? (Char.ofNat (blankRanges.bounds.getD (2 * half) 0 + step)) = none := by
  decide +kernel

/-- No digit is a blank. -/
theorem digitValue?_eq_none_of_isBlank (blank : isBlank letter = true) :
    digitValue? letter = none := by
  -- The blanks are ten stretches of at most eleven points, few enough to look at all of them.
  obtain ⟨pair, bounded, low, high⟩ := Ranges.exists_pair_of_contains (by decide) blank
  have narrow : ∀ pair < 10, blankRanges.bounds.getD (2 * pair + 1) 0 ≤
      blankRanges.bounds.getD (2 * pair) 0 + 11 := by decide
  have few : pair < 10 := by
    have size : blankRanges.bounds.size = 20 := rfl
    omega
  have near := narrow pair few
  obtain ⟨step, isPoint⟩ := Nat.exists_eq_add_of_le low
  rw [isPoint] at high
  rw [← Char.ofNat_toNat letter, isPoint]
  exact blank_points pair few step (by omega) high

theorem isMargin_eq_false (digit : digitValue? letter = some value) : isMargin letter = false := by
  by_contra margin
  rw [Bool.not_eq_false, isMargin, Bool.and_eq_true] at margin
  rw [digitValue?_eq_none_of_isBlank margin.1] at digit
  cases digit

/-! ### Taking a part of digits -/

theorem takeDigits_of_not_digit (other : letter.isDigit = false) (rest : List Char) :
    takeDigits (letter :: rest) = ([], letter :: rest) := by
  unfold takeDigits
  split <;> simp_all

theorem takeDigits_line {next : Char} (digit : letter.isDigit = true)
    (nextDigit : next.isDigit = true) (after : List Char) :
    takeDigits (letter :: '_' :: next :: after) =
      (letter :: (takeDigits (next :: after)).1, (takeDigits (next :: after)).2) := by
  rw [takeDigits, digit, nextDigit]
  rfl

theorem takeDigits_digit (digit : letter.isDigit = true) {rest : List Char}
    (apart : ∀ next after, rest = '_' :: next :: after → next.isDigit = false) :
    takeDigits (letter :: rest) = (letter :: (takeDigits rest).1, (takeDigits rest).2) := by
  -- The reader looks at a low line together with the letter behind it.
  by_cases line : ∃ next after, rest = '_' :: next :: after
  · obtain ⟨next, after, rfl⟩ := line
    have mark : takeDigits ('_' :: next :: after) = ([], '_' :: next :: after) :=
      takeDigits_of_not_digit (by decide) _
    rw [takeDigits, digit, apart next after rfl, mark]
    rfl
  · rw [takeDigits, digit]
    · rfl
    · intro next after isRest
      exact line ⟨next, after, isRest⟩

/-- Letters that carry no part of digits on: they start with neither a digit nor a low line. -/
def EndsPart (letters : List Char) : Prop :=
  ∀ first rest, letters = first :: rest → digitValue? first = none ∧ first ≠ '_'

theorem endsPart_nil : EndsPart [] := by
  rintro first rest ⟨⟩

theorem endsPart_cons {first : Char} (other : digitValue? first = none) (apart : first ≠ '_')
    (rest : List Char) : EndsPart (first :: rest) := by
  rintro first rest ⟨⟩
  exact ⟨other, apart⟩

theorem takeDigits_of_endsPart (ends : EndsPart letters) :
    takeDigits (plainDigits letters) = ([], plainDigits letters) := by
  cases letters with
  | nil => rfl
  | cons first rest =>
    exact takeDigits_of_not_digit (isDigit_of_other (ends first rest rfl).1) _

theorem line_value : digitValue? '_' = none := by
  decide +kernel

theorem plainLetter_line : plainLetter '_' = '_' :=
  plainLetter_of_other line_value

/-- **A part of digits is taken off the front**, up to letters that do not carry it on. -/
theorem takeDigits_append (part : DigitPart letters values) {rest : List Char}
    (ends : EndsPart rest) : takeDigits (plainDigits (letters ++ rest)) =
      (values.map digitLetter, plainDigits rest) := by
  rw [plainDigits_eq_map, plainDigits_eq_map]
  induction part with
  | @last letter value digit =>
    show takeDigits (plainLetter letter :: rest.map plainLetter) = _
    rw [takeDigits_digit (isDigit_of_digit digit), ← plainDigits_eq_map, takeDigits_of_endsPart ends,
      plainLetter_of_digit digit]
    · rfl
    · intro next after isRest
      obtain ⟨first, _, rfl, same, _⟩ := List.map_eq_cons_iff.mp isRest
      exact absurd ((plainLetter_eq_iff line_value).mp same) (ends _ _ rfl).2
  | @next letter value letters values digit part ih =>
    obtain ⟨first, behind, _, rfl, firstDigit⟩ := part.head
    show takeDigits (plainLetter letter :: (first :: behind ++ rest).map plainLetter) = _
    rw [takeDigits_digit (isDigit_of_digit digit), ih, plainLetter_of_digit digit]
    · rfl
    · intro next after isRest
      have same := (List.cons.inj isRest).1
      exact absurd ((plainLetter_eq_iff line_value).mp same) (ne_of_digit firstDigit line_value)
  | @line letter value letters values digit part ih =>
    obtain ⟨first, behind, _, rfl, firstDigit⟩ := part.head
    show takeDigits (plainLetter letter :: plainLetter '_' :: plainLetter first ::
      (behind ++ rest).map plainLetter) = _
    rw [plainLetter_line, takeDigits_line (isDigit_of_digit digit) (isDigit_of_digit firstDigit)]
    show (plainLetter letter :: (takeDigits ((first :: behind ++ rest).map plainLetter)).1,
      (takeDigits ((first :: behind ++ rest).map plainLetter)).2) = _
    rw [ih, plainLetter_of_digit digit]
    rfl

/-- **What is taken off letters that start with a digit is a part of digits.** -/
theorem takeDigits_of_digit {letter : Char} {value : Nat}
    (digit : digitValue? letter = some value) (rest : List Char) :
    ∃ part values left, letter :: rest = part ++ left ∧ DigitPart part values ∧
      takeDigits (plainDigits (letter :: rest)) = (values.map digitLetter, plainDigits left) := by
  -- A low line belongs to the part only with a digit behind it, so this is asked first.
  by_cases line : ∃ next nextValue after, rest = '_' :: next :: after ∧
      digitValue? next = some nextValue
  · obtain ⟨next, nextValue, after, rfl, nextDigit⟩ := line
    obtain ⟨part, values, left, isWhole, isPart, taken⟩ := takeDigits_of_digit nextDigit after
    refine ⟨letter :: '_' :: part, value :: values, left, ?_, .line digit isPart, ?_⟩
    · rw [isWhole]
      rfl
    · show takeDigits (plainLetter letter :: plainLetter '_' :: plainLetter next ::
        after.map plainLetter) = _
      rw [plainLetter_line, takeDigits_line (isDigit_of_digit digit) (isDigit_of_digit nextDigit)]
      show (plainLetter letter :: (takeDigits (plainDigits (next :: after))).1,
        (takeDigits (plainDigits (next :: after))).2) = _
      rw [taken, plainLetter_of_digit digit]
      rfl
  · have apart : ∀ next after, plainDigits rest = '_' :: next :: after → next.isDigit = false := by
      intro next after isRest
      obtain ⟨first, behind, rfl, same, isBehind⟩ := List.map_eq_cons_iff.mp isRest
      obtain ⟨second, after, rfl, rfl, rfl⟩ := List.map_eq_cons_iff.mp isBehind
      rw [(plainLetter_eq_iff line_value).mp same] at line
      refine isDigit_of_other (Option.eq_none_iff_forall_ne_some.mpr fun nextValue nextDigit => ?_)
      exact line ⟨second, nextValue, after, rfl, nextDigit⟩
    have taken : takeDigits (plainDigits (letter :: rest)) =
        (digitLetter value :: (takeDigits (plainDigits rest)).1,
          (takeDigits (plainDigits rest)).2) := by
      rw [← plainLetter_of_digit digit]
      exact takeDigits_digit (isDigit_of_digit digit) apart
    rw [taken]
    cases rest with
    | nil => exact ⟨[letter], [value], [], rfl, .last digit, rfl⟩
    | cons next after =>
      cases nextDigit : digitValue? next with
      | none =>
        refine ⟨[letter], [value], next :: after, rfl, .last digit, ?_⟩
        have stops : takeDigits (plainDigits (next :: after)) = ([], plainDigits (next :: after)) :=
          takeDigits_of_not_digit (isDigit_of_other nextDigit) _
        rw [stops]
        rfl
      | some nextValue =>
        obtain ⟨part, values, left, isWhole, isPart, more⟩ := takeDigits_of_digit nextDigit after
        refine ⟨letter :: part, value :: values, left, ?_, .next digit isPart, ?_⟩
        · rw [isWhole]
          rfl
        · rw [more]
          rfl
termination_by rest.length

/-! ### The value of a part -/

/-- **The digits that are taken have the value of the part.** -/
theorem digitsValue_map_digitLetter (below : ∀ value ∈ values, value < 10) :
    digitsValue (values.map digitLetter) = Nat.ofDigits 10 values.reverse := by
  induction values using List.reverseRecOn with
  | nil => rfl
  | append_singleton values last ih =>
    have isLast := (digitLetter_spec last (below last (by simp))).2
    rw [List.map_append, List.reverse_append, List.reverse_singleton, List.singleton_append,
      Nat.ofDigits_cons, ← ih fun value member => below value (List.mem_append_left _ member)]
    show (digitsValue ((values.map digitLetter) ++ [digitLetter last])) = _
    rw [digitsValue, List.foldl_append]
    show digitsValue (values.map digitLetter) * 10 + ((digitLetter last).toNat - 48) = _
    rw [isLast]
    omega

end FleetSchema.Numeral
