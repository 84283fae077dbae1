/-
**Which texts are decimal numerals.**

A decimal numeral is an infinity or not-a-number, in letters of any case, or it has a whole part, a
part behind a point or both, and it may have a power of ten. Like a whole numeral it may stand
between blanks and may have a sign.

* `Mantissa`, `Exponent`, `WritesUnsigned`: the parts of a decimal numeral;
* `WritesDecimal`: the texts that write a number;
* `takesParts_append`, `exists_takesParts`: whole parts and parts behind a point are taken;
* `takeExponent_eq_iff`: powers of ten are taken;
* `decimal?_eq_some_iff`: exactly the decimal numerals are read, as the number that they write.
-/

import FleetSchema.Proofs.Number.Integers

namespace FleetSchema.Numeral

open FleetSchema.Text

variable {text : String} {letters body : List Char} {values whole part : List Nat}
  {negative : Bool} {number : Double}

/-! ### What decimal numerals are -/

/-- A whole part, and the part behind a point. One of them may be missing. -/
inductive Mantissa : List Char → List Nat → List Nat → Prop
  | whole {letters : List Char} {whole : List Nat} (digits : DigitPart letters whole) :
    Mantissa letters whole []
  | pointed {first second : List Char} {whole part : List Nat} (front : MaybePart first whole)
    (back : MaybePart second part) (some : whole ≠ [] ∨ part ≠ []) :
    Mantissa (first ++ '.' :: second) whole part

/-- A power of ten, or none. -/
inductive Exponent : List Char → Int → Prop
  | none : Exponent [] 0
  | power {mark : Char} {letters body : List Char} {negative : Bool} {values : List Nat}
    (isMark : mark = 'e' ∨ mark = 'E') (sign : Signed negative letters body)
    (digits : DigitPart body values) :
    Exponent (mark :: letters) (signed negative (sizeOf values))

/-- Letters write a number apart from its sign. -/
inductive WritesUnsigned (negative : Bool) : List Char → Double → Prop
  | infinity {letters : List Char} (word : letters.map Char.toLower = "inf".toList ∨
      letters.map Char.toLower = "infinity".toList) :
    WritesUnsigned negative letters (.infinite negative)
  | nan {letters : List Char} (word : letters.map Char.toLower = "nan".toList) :
    WritesUnsigned negative letters .nan
  | number {first second : List Char} {whole part : List Nat} {power : Int}
    (mantissa : Mantissa first whole part) (exponent : Exponent second power) :
    WritesUnsigned negative (first ++ second)
      (.ofDecimal negative (sizeOf (whole ++ part)) (power - part.length))

/-- A text is a decimal numeral of a number. -/
inductive WritesDecimal (text : String) (number : Double) : Prop
  | intro {letters body : List Char} {negative : Bool} (frames : Frames text letters)
    (sign : Signed negative letters body) (unsigned : WritesUnsigned negative body number)

/-! ### Words for numbers -/

/-- A letter that stands in no number of digits, beside none and in front of none. -/
def IsWordLetter (letter : Char) : Prop :=
  isMargin letter = false ∧ digitValue? letter = none ∧ letter ∉ ['+', '-', '.']

instance (letter : Char) : Decidable (IsWordLetter letter) :=
  inferInstanceAs (Decidable (_ ∧ _ ∧ _))

/-- The words for an infinity and for not-a-number. -/
def words : List (List Char) := ["inf".toList, "infinity".toList, "nan".toList]

theorem isWordLetter_of_mem : ∀ word ∈ words, ∀ letter ∈ word, IsWordLetter letter := by
  have all : (words.all fun word => word.all fun letter => decide (IsWordLetter letter)) = true := by
    decide +kernel
  intro word isWord letter member
  exact of_decide_eq_true (List.all_eq_true.mp (List.all_eq_true.mp all word isWord) letter member)

theorem toLower_cases (letter : Char) :
    letter.toLower = letter ∨ 65 ≤ letter.toNat ∧ letter.toNat ≤ 90 := by
  unfold Char.toLower
  split
  · rename_i capital
    exact Or.inr capital
  · exact Or.inl rfl

theorem isWordLetter_of_capital : ∀ point ≤ 90, 65 ≤ point → IsWordLetter (Char.ofNat point) := by
  decide +kernel

theorem isWordLetter_of_toLower {letter : Char} (lower : IsWordLetter letter.toLower) :
    IsWordLetter letter := by
  rcases toLower_cases letter with same | ⟨low, high⟩
  · rw [same] at lower
    exact lower
  · have capital := isWordLetter_of_capital letter.toNat high low
    rw [Char.ofNat_toNat] at capital
    exact capital

/-- Letters are those of a word, in any case. -/
def IsWord (letters : List Char) : Prop := letters.map Char.toLower ∈ words

theorem IsWord.isWordLetter (word : IsWord letters) : ∀ letter ∈ letters, IsWordLetter letter := by
  intro letter member
  exact isWordLetter_of_toLower (isWordLetter_of_mem _ word _ (List.mem_map_of_mem member))

theorem plainDigits_eq_self (plain : ∀ letter ∈ letters, plainLetter letter = letter) :
    plainDigits letters = letters := by
  rw [plainDigits_eq_map, List.map_congr_left plain, List.map_id']

/-- The letters of a word are no digits, so those of ASCII take no place in it. -/
theorem IsWord.plainDigits_eq (word : IsWord letters) : plainDigits letters = letters := by
  refine plainDigits_eq_self fun letter member => ?_
  exact plainLetter_of_other (word.isWordLetter letter member).2.1

/-- Nor does putting the digits of ASCII in their place make a word of other letters. -/
theorem plainDigits_eq_of_isWord (word : IsWord (plainDigits letters)) :
    plainDigits letters = letters := by
  rw [plainDigits_eq_map] at word
  refine plainDigits_eq_self fun letter member => ?_
  have other := (word.isWordLetter _ (List.mem_map_of_mem member)).2.1
  cases digit : digitValue? letter with
  | none => exact plainLetter_of_other digit
  | some value =>
    have isDigit := isDigit_of_digit digit
    rw [isDigit_eq_false other] at isDigit
    cases isDigit

theorem isWord_plainDigits_iff : IsWord (plainDigits letters) ↔ IsWord letters := by
  constructor
  · intro word
    rw [plainDigits_eq_of_isWord word] at word
    exact word
  · intro word
    rw [word.plainDigits_eq]
    exact word

theorem isWord_iff : IsWord letters ↔ (letters.map Char.toLower = "inf".toList ∨
    letters.map Char.toLower = "infinity".toList) ∨ letters.map Char.toLower = "nan".toList := by
  rw [IsWord, words, List.mem_cons, List.mem_cons, List.mem_singleton, or_assoc]

theorem IsWord.ne_nil (word : IsWord letters) : letters ≠ [] := by
  rintro rfl
  exact absurd word (by unfold IsWord; decide)

theorem IsWord.tight (word : IsWord letters) : Tight letters := by
  constructor
  · obtain ⟨first, rest, rfl⟩ := List.exists_cons_of_ne_nil word.ne_nil
    exact ⟨first, rest, rfl, (word.isWordLetter first List.mem_cons_self).1⟩
  · obtain rfl | ⟨start, final, rfl⟩ := letters.eq_nil_or_concat'
    · exact absurd rfl word.ne_nil
    · exact ⟨start, final, rfl, (word.isWordLetter final (by simp)).1⟩

theorem IsWord.unmarked (word : IsWord letters) : Unmarked letters := by
  intro rest
  constructor
  · rintro rfl
    exact (word.isWordLetter '+' List.mem_cons_self).2.2 (by decide)
  · rintro rfl
    exact (word.isWordLetter '-' List.mem_cons_self).2.2 (by decide)

/-! ### Whole parts and parts behind a point -/

theorem point_value : digitValue? '.' = none := by
  decide +kernel

/-- The part behind a point, and what follows it. -/
def takePoint (rest : List Char) : List Char × List Char :=
  match rest with
  | '.' :: after => takeDigits after
  | _ => ([], rest)

theorem takePoint_point (after : List Char) :
    takePoint (plainDigits ('.' :: after)) = takeDigits (plainDigits after) := by
  show takePoint (plainLetter '.' :: plainDigits after) = _
  rw [plainLetter_of_other point_value]
  rfl

theorem takePoint_other (other : ∀ after, letters ≠ '.' :: after) :
    takePoint (plainDigits letters) = ([], plainDigits letters) := by
  unfold takePoint
  split
  · rename_i after isLetters
    obtain ⟨first, others, rfl, same, _⟩ := List.map_eq_cons_iff.mp isLetters
    rw [(plainLetter_eq_iff point_value).mp same] at other
    exact absurd rfl (other others)
  · rfl

theorem takeDigits_of_maybe (maybe : MaybePart letters values) {rest : List Char}
    (ends : EndsPart rest) :
    takeDigits (plainDigits (letters ++ rest)) = (values.map digitLetter, plainDigits rest) := by
  obtain part | ⟨rfl, rfl⟩ := maybe
  · exact takeDigits_append part ends
  · exact takeDigits_of_endsPart ends

/-- What is taken for the two parts of a number, and the letters that are left behind them. -/
def TakesParts (letters : List Char) (whole part : List Nat) (left : List Char) : Prop :=
  ∃ rest, takeDigits (plainDigits letters) = (whole.map digitLetter, rest) ∧
    takePoint rest = (part.map digitLetter, plainDigits left)

/-- The parts of a number are taken off the front. -/
theorem takesParts_append (mantissa : Mantissa letters whole part) {left : List Char}
    (ends : EndsPart left) (apart : ∀ after, left ≠ '.' :: after) :
    TakesParts (letters ++ left) whole part left := by
  cases mantissa with
  | whole digits => exact ⟨_, takeDigits_append digits ends, takePoint_other apart⟩
  | @pointed first second _ _ front back some =>
    refine ⟨plainDigits ('.' :: (second ++ left)), ?_, ?_⟩
    · rw [List.append_assoc]
      exact takeDigits_of_maybe front (endsPart_cons point_value (by decide) _)
    · rw [takePoint_point]
      exact takeDigits_of_maybe back ends

/-- Something is left of all letters, and in front of it stands a number when a digit is taken. -/
theorem exists_takesParts (letters : List Char) : ∃ front left whole part,
    letters = front ++ left ∧ TakesParts letters whole part left ∧
    (whole ≠ [] ∨ part ≠ [] → Mantissa front whole part) := by
  -- Either part may be missing here; that one of them is there is asked for at the end.
  obtain ⟨first, whole, behind, rfl, isWhole, taken⟩ := takeDigits_cases letters
  by_cases point : ∃ after, behind = '.' :: after
  · obtain ⟨after, rfl⟩ := point
    obtain ⟨second, part, left, rfl, isPart, more⟩ := takeDigits_cases after
    refine ⟨first ++ '.' :: second, left, whole, part, ?_, ⟨_, taken, ?_⟩, ?_⟩
    · rw [List.append_assoc]
      rfl
    · rw [takePoint_point, more]
    · exact fun some => .pointed isWhole isPart some
  · refine ⟨first, behind, whole, [], rfl, ⟨_, taken, ?_⟩, fun some => ?_⟩
    · exact takePoint_other fun after isBehind => point ⟨after, isBehind⟩
    · obtain digits | ⟨_, rfl⟩ := isWhole
      · exact .whole digits
      · exact absurd rfl (some.resolve_right fun none => none rfl)

/-- A number of digits starts with a digit or with the point. -/
theorem Mantissa.start (mantissa : Mantissa letters whole part) : ∃ first rest,
    letters = first :: rest ∧ ((digitValue? first).isSome = true ∨ first = '.') := by
  have ofPart {letters : List Char} {values : List Nat} (digits : DigitPart letters values) :
      ∃ first rest, letters = first :: rest ∧ (digitValue? first).isSome = true := by
    obtain ⟨first, rest, value, isLetters, digit⟩ := digits.head
    exact ⟨first, rest, isLetters, Option.isSome_of_eq_some digit⟩
  cases mantissa with
  | whole digits =>
    obtain ⟨first, rest, isLetters, digit⟩ := ofPart digits
    exact ⟨first, rest, isLetters, Or.inl digit⟩
  | @pointed front second _ _ isFront =>
    obtain digits | ⟨rfl, rfl⟩ := isFront
    · obtain ⟨first, rest, rfl, digit⟩ := ofPart digits
      exact ⟨first, rest ++ '.' :: second, rfl, Or.inl digit⟩
    · exact ⟨'.', second, rfl, Or.inr rfl⟩

theorem Mantissa.given (mantissa : Mantissa letters whole part) : ¬ whole = [] ∨ ¬ part = [] := by
  cases mantissa with
  | whole digits => exact Or.inl digits.ne_nil
  | pointed _ _ some => exact some

theorem Mantissa.tight (mantissa : Mantissa letters whole part) : Tight letters := by
  have isPoint : Tight ['.'] :=
    ⟨⟨'.', [], rfl, by decide +kernel⟩, ⟨[], '.', rfl, by decide +kernel⟩⟩
  cases mantissa with
  | whole digits => exact digits.tight
  | @pointed first second _ _ front back =>
    have behind : Tight ('.' :: second) := by
      obtain digits | ⟨rfl, rfl⟩ := back
      · exact isPoint.append digits.tight
      · exact isPoint
    obtain digits | ⟨rfl, rfl⟩ := front
    · exact digits.tight.append behind
    · exact behind

/-! ### Powers of ten -/

theorem marks_value : digitValue? 'e' = none ∧ digitValue? 'E' = none := by
  decide +kernel

theorem takeExponent_mark {mark : Char} (isMark : mark = 'e' ∨ mark = 'E')
    {rest after found left : List Char} (sign : takeSign rest = (negative, after))
    (digits : takeDigits after = (found, left)) : takeExponent (mark :: rest) =
      if found = [] then (0, mark :: rest) else (signed negative (digitsValue found), left) := by
  unfold takeExponent
  dsimp only
  rw [if_pos (by rcases isMark with rfl | rfl <;> rfl), sign]
  dsimp only
  rw [digits]
  cases found with
  | nil => rfl
  | cons first others => rfl

theorem takeExponent_other {first : Char} (other : first ≠ 'e' ∧ first ≠ 'E') (rest : List Char) :
    takeExponent (first :: rest) = (0, first :: rest) := by
  unfold takeExponent
  dsimp only
  rw [if_neg]
  simpa using other

theorem plainLetter_mark {mark : Char} (isMark : mark = 'e' ∨ mark = 'E') :
    plainLetter mark = mark := by
  rcases isMark with rfl | rfl
  · exact plainLetter_of_other marks_value.1
  · exact plainLetter_of_other marks_value.2

/-- Letters are a power of ten exactly when all of them are taken for one. -/
theorem takeExponent_eq_iff {power : Int} :
    takeExponent (plainDigits letters) = (power, []) ↔ Exponent letters power := by
  constructor
  · intro taken
    cases letters with
    | nil =>
      obtain ⟨rfl, _⟩ := Prod.mk.inj taken
      exact .none
    | cons mark rest =>
      change takeExponent (plainLetter mark :: plainDigits rest) = _ at taken
      by_cases isMark : mark = 'e' ∨ mark = 'E'
      · obtain ⟨negative, body, sign, signTaken⟩ := exists_signed rest
        obtain ⟨part, values, left, rfl, maybe, digits⟩ := takeDigits_cases body
        rw [plainLetter_mark isMark, takeExponent_mark isMark signTaken digits] at taken
        -- Without a digit the mark is given back, and then something is left.
        obtain isPart | ⟨_, rfl⟩ := maybe
        · rw [if_neg fun none => isPart.ne_nil (List.map_eq_nil_iff.mp none),
            digitsValue_of_part isPart] at taken
          obtain ⟨rfl, done⟩ := Prod.mk.inj taken
          obtain rfl : left = [] := List.map_eq_nil_iff.mp done
          rw [List.append_nil] at sign
          exact .power isMark sign isPart
        · rw [List.map_nil, if_pos rfl] at taken
          cases (Prod.mk.inj taken).2
      · have other : plainLetter mark ≠ 'e' ∧ plainLetter mark ≠ 'E' := by
          rw [ne_eq, ne_eq, plainLetter_eq_iff marks_value.1, plainLetter_eq_iff marks_value.2]
          exact not_or.mp isMark
        rw [takeExponent_other other] at taken
        cases (Prod.mk.inj taken).2
  · intro exponent
    cases exponent with
    | none => rfl
    | @power mark letters body negative values isMark sign digits =>
      have taken := takeExponent_mark isMark (takeSign_of_signed sign digits.unmarked)
        (takeDigits_of_part digits)
      show takeExponent (plainLetter mark :: plainDigits letters) = _
      rw [plainLetter_mark isMark, taken, if_neg, digitsValue_of_part digits]
      exact fun none => digits.ne_nil (List.map_eq_nil_iff.mp none)

theorem Exponent.ends {power : Int} (exponent : Exponent letters power) :
    EndsPart letters ∧ ∀ after, letters ≠ '.' :: after := by
  cases exponent with
  | none => exact ⟨endsPart_nil, by rintro after ⟨⟩⟩
  | @power mark letters _ _ _ isMark =>
    rcases isMark with rfl | rfl
    · exact ⟨endsPart_cons marks_value.1 (by decide) _, by rintro after ⟨⟩⟩
    · exact ⟨endsPart_cons marks_value.2 (by decide) _, by rintro after ⟨⟩⟩

theorem Exponent.tight {power : Int} (exponent : Exponent letters power) {front : List Char}
    (tight : Tight front) : Tight (front ++ letters) := by
  cases exponent with
  | none =>
    rw [List.append_nil]
    exact tight
  | @power mark letters body _ _ isMark sign digits =>
    have outside : isMargin mark = false := by rcases isMark with rfl | rfl <;> decide +kernel
    exact tight.append ((sign.tight digits.tight).cons outside)

/-! ### Decimal numerals -/

/-- The reader, with what it takes by name. -/
theorem unsignedDecimal?_eq (negative : Bool) (letters : List Char) :
    unsignedDecimal? negative letters =
      let word := letters.map Char.toLower
      let whole := takeDigits letters
      let part := takePoint whole.2
      let power := takeExponent part.2
      if word == "inf".toList || word == "infinity".toList then some (.infinite negative)
      else if word == "nan".toList then some .nan
      else if whole.1.isEmpty && part.1.isEmpty then none
      else if power.2.isEmpty then
        some (.ofDecimal negative (digitsValue (whole.1 ++ part.1)) (power.1 - part.1.length))
      else none :=
  rfl

/-- Letters of no word are read as a number when digits are taken and nothing is left. -/
theorem unsignedDecimal?_number (other : ¬ IsWord letters) {found rest more behind left : List Char}
    {power : Int} (digits : takeDigits letters = (found, rest))
    (point : takePoint rest = (more, behind)) (exponent : takeExponent behind = (power, left)) :
    unsignedDecimal? negative letters =
      if (found ≠ [] ∨ more ≠ []) ∧ left = [] then
        some (.ofDecimal negative (digitsValue (found ++ more)) (power - more.length))
      else none := by
  have noWord (word : List Char) (isWord : word ∈ words) :
      (letters.map Char.toLower == word) = false := by
    rw [beq_eq_false_iff_ne]
    rintro rfl
    exact other isWord
  rw [unsignedDecimal?_eq]
  dsimp only
  rw [noWord "inf".toList (by decide), noWord "infinity".toList (by decide),
    noWord "nan".toList (by decide), digits, point, exponent]
  by_cases given : found ≠ [] ∨ more ≠ []
  · have some : (found.isEmpty && more.isEmpty) = false := by
      rw [← Bool.not_eq_true, Bool.and_eq_true, List.isEmpty_iff, List.isEmpty_iff, not_and_or]
      exact given
    simp [some, given]
  · obtain ⟨rfl, rfl⟩ : found = [] ∧ more = [] := by simpa using given
    rfl

theorem Mantissa.not_isWord (mantissa : Mantissa letters whole part) (behind : List Char) :
    ¬ IsWord (letters ++ behind) := by
  intro word
  obtain ⟨first, rest, rfl, digit | rfl⟩ := mantissa.start
  · have other := (word.isWordLetter first List.mem_cons_self).2.1
    rw [other] at digit
    cases digit
  · exact (word.isWordLetter '.' List.mem_cons_self).2.2 (by decide)

theorem unsignedDecimal?_infinity (word : letters.map Char.toLower = "inf".toList ∨
    letters.map Char.toLower = "infinity".toList) :
    unsignedDecimal? negative letters = some (.infinite negative) := by
  rw [unsignedDecimal?_eq]
  exact if_pos (by simpa using word)

theorem unsignedDecimal?_nan (word : letters.map Char.toLower = "nan".toList) :
    unsignedDecimal? negative letters = some .nan := by
  rw [unsignedDecimal?_eq, word]
  rfl

theorem Mantissa.digitsValue (mantissa : Mantissa letters whole part) :
    digitsValue (whole.map digitLetter ++ part.map digitLetter) = sizeOf (whole ++ part) := by
  have below {letters : List Char} {values : List Nat} (maybe : MaybePart letters values) :
      ∀ value ∈ values, value < 10 := by
    obtain digits | ⟨_, rfl⟩ := maybe
    · exact digits.lt_ten
    · rintro value ⟨⟩
  rw [← List.map_append]
  refine digitsValue_map_digitLetter fun value member => ?_
  cases mantissa with
  | whole digits =>
    rw [List.append_nil] at member
    exact digits.lt_ten value member
  | pointed front back =>
    obtain inWhole | inPart := List.mem_append.mp member
    · exact below front value inWhole
    · exact below back value inPart

/-- The letters that write a number apart from its sign are read, as that number. -/
theorem unsignedDecimal?_eq_some_iff :
    unsignedDecimal? negative (plainDigits letters) = some number ↔
      WritesUnsigned negative letters number := by
  constructor
  · intro read
    -- Words are looked for first, so what is read behind them is known to be none.
    by_cases word : IsWord letters
    · rw [word.plainDigits_eq] at read
      rcases isWord_iff.mp word with infinity | nan
      · rw [unsignedDecimal?_infinity infinity] at read
        rw [← Option.some.inj read]
        exact .infinity infinity
      · rw [unsignedDecimal?_nan nan] at read
        rw [← Option.some.inj read]
        exact .nan nan
    · obtain ⟨front, left, whole, part, rfl, ⟨rest, digits, point⟩, isMantissa⟩ :=
        exists_takesParts letters
      have other : ¬ IsWord (plainDigits (front ++ left)) := mt isWord_plainDigits_iff.mp word
      rw [unsignedDecimal?_number other digits point (Prod.eta _).symm] at read
      obtain ⟨⟨given, done⟩, isNumber⟩ := Option.ite_none_right_eq_some.mp read
      rw [ne_eq, ne_eq, List.map_eq_nil_iff, List.map_eq_nil_iff] at given
      rw [(isMantissa given).digitsValue, List.length_map] at isNumber
      rw [← Option.some.inj isNumber]
      exact .number (isMantissa given) (takeExponent_eq_iff.mp (Prod.ext rfl done))
  · intro unsigned
    cases unsigned with
    | infinity word =>
      rw [(isWord_iff.mpr (Or.inl word)).plainDigits_eq]
      exact unsignedDecimal?_infinity word
    | nan word =>
      rw [(isWord_iff.mpr (Or.inr word)).plainDigits_eq]
      exact unsignedDecimal?_nan word
    | @number first second whole part power mantissa exponent =>
      obtain ⟨ends, apart⟩ := exponent.ends
      obtain ⟨rest, digits, point⟩ := takesParts_append mantissa ends apart
      have other : ¬ IsWord (plainDigits (first ++ second)) :=
        mt isWord_plainDigits_iff.mp (mantissa.not_isWord second)
      rw [unsignedDecimal?_number other digits point (takeExponent_eq_iff.mpr exponent), if_pos,
        mantissa.digitsValue, List.length_map]
      rw [ne_eq, ne_eq, List.map_eq_nil_iff, List.map_eq_nil_iff]
      exact ⟨mantissa.given, rfl⟩

theorem WritesUnsigned.tight (unsigned : WritesUnsigned negative letters number) :
    Tight letters := by
  cases unsigned with
  | infinity word => exact (isWord_iff.mpr (Or.inl word)).tight
  | nan word => exact (isWord_iff.mpr (Or.inr word)).tight
  | number mantissa exponent => exact exponent.tight mantissa.tight

theorem WritesUnsigned.unmarked (unsigned : WritesUnsigned negative letters number) :
    Unmarked letters := by
  cases unsigned with
  | infinity word => exact (isWord_iff.mpr (Or.inl word)).unmarked
  | nan word => exact (isWord_iff.mpr (Or.inr word)).unmarked
  | @number front second _ _ _ mantissa =>
    obtain ⟨first, rest, rfl, digit | rfl⟩ := mantissa.start
    · obtain ⟨value, digit⟩ := Option.isSome_iff_exists.mp digit
      exact unmarked_cons (ne_of_digit digit signs_value.1) (ne_of_digit digit signs_value.2) _
    · exact unmarked_cons (by decide) (by decide) _

/-- **Exactly the decimal numerals are read as numbers**, each as the one that it writes. -/
theorem decimal?_eq_some_iff :
    decimal? text = some number ↔ WritesDecimal text number := by
  constructor
  · intro read
    obtain ⟨negative, body, sign, taken⟩ := exists_signed (trimMargins text.toList)
    unfold decimal? at read
    rw [taken] at read
    exact .intro (frames_trimMargins text) sign (unsignedDecimal?_eq_some_iff.mp read)
  · rintro ⟨frames, sign, unsigned⟩
    unfold decimal?
    rw [trimMargins_of_frames frames (sign.tight unsigned.tight),
      takeSign_of_signed sign unsigned.unmarked]
    exact unsignedDecimal?_eq_some_iff.mpr unsigned

example : decimal? " -Infinity" = some (.infinite true) := by decide +kernel

end FleetSchema.Numeral
