/-
**Which numbers settings hold.**

A number that is read from a variable is moved up to zero when it lies below, and its default takes
its place when the variable writes no number. So the retries are never negative. The patience is at
least zero too, with one exception: not-a-number lies neither below zero nor above it, and nothing
moves it.

* `Double.IsAtLeastZero`, `isAtLeastZero_raised_iff`: what moving up to zero leads to;
* `WritesNan`, `writesDecimal_nan_iff`: the texts that write not-a-number;
* `FollowsInteger`, `FollowsDecimal`: what a variable makes of a setting;
* `loads_numbers_unless_nan`: the numbers of all settings that are loaded.
-/

import FleetSchema.Proofs.Number.Decimals
import FleetSchema.Settings

namespace FleetSchema

/-! ### Numbers at least zero -/

namespace Double

/-- A number that is zero or lies above it. -/
def IsAtLeastZero (number : Double) : Prop :=
  (zero false).same number = true ∨ (zero false).lt number = true

instance (number : Double) : Decidable (IsAtLeastZero number) :=
  inferInstanceAs (Decidable (_ ∨ _))

/-- The number itself, or zero when it lies below. -/
def raised (number : Double) : Double := if number.lt (zero false) then zero false else number

/-- A number is at least zero when it is one and does not lie below. -/
theorem isAtLeastZero_iff (number : Double) :
    number.IsAtLeastZero ↔ number ≠ .nan ∧ number.lt (zero false) = false := by
  cases number with
  | nan => decide
  | infinite negative => cases negative <;> decide
  | finite negative significand exponent =>
    have size : units false 0 leastExponent = 0 := rfl
    simp only [IsAtLeastZero, zero, same, lt, size, beq_iff_eq, decide_eq_true_eq,
      decide_eq_false_iff_not, ne_eq, reduceCtorEq, not_false_eq_true, true_and]
    omega

theorem isAtLeastZero_raised_iff (number : Double) :
    number.raised.IsAtLeastZero ↔ number ≠ .nan := by
  cases below : number.lt (zero false) with
  | true =>
    rw [raised, if_pos below]
    refine iff_of_true (by decide) ?_
    rintro rfl
    cases below
  | false =>
    rw [raised, if_neg (by rw [below]; exact Bool.false_ne_true), isAtLeastZero_iff]
    exact and_iff_left below

theorem ofRatio_ne_nan (negative : Bool) (numerator denominator : Nat) :
    ofRatio negative numerator denominator ≠ .nan := by
  unfold ofRatio
  dsimp only
  split_ifs <;> rintro ⟨⟩

theorem ofDecimal_ne_nan (negative : Bool) (digits : Nat) (power : Int) :
    ofDecimal negative digits power ≠ .nan := by
  unfold ofDecimal
  dsimp only
  split_ifs
  · rintro ⟨⟩
  · rintro ⟨⟩
  · exact ofRatio_ne_nan _ _ _
  · exact ofRatio_ne_nan _ _ _

end Double

/-! ### Texts of not-a-number -/

namespace Numeral

/-- A text writes not-a-number: the word for it in letters of any case, maybe with a sign, and
between what may stand beside a numeral. -/
def WritesNan (text : String) : Prop :=
  ∃ letters body negative, Frames text letters ∧ Signed negative letters body ∧
    body.map Char.toLower = "nan".toList

theorem writesDecimal_nan_iff {text : String} : WritesDecimal text .nan ↔ WritesNan text := by
  constructor
  · rintro ⟨frames, sign, unsigned⟩
    generalize isNan : Double.nan = number at unsigned
    cases unsigned with
    | infinity => cases isNan
    | nan word => exact ⟨_, _, _, frames, sign, word⟩
    | number => exact absurd isNan.symm (Double.ofDecimal_ne_nan _ _ _)
  · rintro ⟨letters, body, negative, frames, sign, word⟩
    exact .intro frames sign (.nan word)

end Numeral

/-! ### Settings -/

namespace Settings

open FleetSchema.Numeral

/-- What a variable makes of a setting: the number that it writes, moved up, or else the
default. -/
structure Follows {Number : Type} (Writes : String → Number → Prop) (raise : Number → Number)
    (given : Option String) (otherwise setting : Number) : Prop where
  written : ∀ text number, given = some text → Writes text number → setting = raise number
  unwritten : (∀ text number, given = some text → ¬ Writes text number) → setting = otherwise

/-- A variable that is read exactly when it writes a number makes of a setting what it should. -/
theorem follows_of_reads {Number : Type} {Writes : String → Number → Prop}
    {read : String → Option Number} (raise : Number → Number)
    (reads : ∀ text number, read text = some number ↔ Writes text number)
    (given : Option String) (otherwise : Number) :
    Follows Writes raise given otherwise (((given.bind read).map raise).getD otherwise) := by
  constructor
  · rintro text number rfl writes
    rw [Option.bind_some, (reads text number).mpr writes]
    rfl
  · intro unwritten
    cases found : given.bind read with
    | none => rfl
    | some number =>
      obtain ⟨text, isGiven, isRead⟩ := Option.bind_eq_some_iff.mp found
      exact absurd ((reads text number).mp isRead) (unwritten text number isGiven)

theorem follows_integerFrom (given : Option String) (otherwise : Int) :
    Follows WritesInteger (max · 0) given otherwise (integerFrom given otherwise) := by
  have reads (text : String) (number : Int) :
      integer? text = some number ↔ WritesInteger text number := integer?_eq_some_iff
  have isRaised : integerFrom given otherwise =
      ((given.bind integer?).map (max · 0)).getD otherwise := by
    unfold integerFrom
    cases given.bind integer? <;> rfl
  rw [isRaised]
  exact follows_of_reads (max · 0) reads given otherwise

theorem follows_numberFrom (given : Option String) (otherwise : Double) :
    Follows WritesDecimal Double.raised given otherwise (numberFrom given otherwise) := by
  have reads (text : String) (number : Double) :
      decimal? text = some number ↔ WritesDecimal text number := decimal?_eq_some_iff
  have isRaised : numberFrom given otherwise =
      ((given.bind decimal?).map Double.raised).getD otherwise := by
    unfold numberFrom
    cases given.bind decimal? <;> rfl
  rw [isRaised]
  exact follows_of_reads Double.raised reads given otherwise

theorem integerFrom_nonneg (given : Option String) {otherwise : Int} (least : 0 ≤ otherwise) :
    0 ≤ integerFrom given otherwise := by
  unfold integerFrom
  cases given.bind integer? with
  | none => exact least
  | some number => exact le_max_right number 0

/-- A number from a variable is at least zero unless the variable writes not-a-number. -/
theorem isAtLeastZero_numberFrom_iff (given : Option String) {otherwise : Double}
    (least : otherwise.IsAtLeastZero) : (numberFrom given otherwise).IsAtLeastZero ↔
      ∀ text, given = some text → ¬ WritesNan text := by
  have follows := follows_numberFrom given otherwise
  by_cases written : ∃ text number, given = some text ∧ WritesDecimal text number
  · obtain ⟨text, number, rfl, writes⟩ := written
    rw [follows.written text number rfl writes, Double.isAtLeastZero_raised_iff]
    -- A text writes one number at most, so it writes not-a-number exactly when that is its number.
    constructor
    · rintro isNumber text ⟨⟩ writesNan
      have isNan := decimal?_eq_some_iff.mpr (writesDecimal_nan_iff.mpr writesNan)
      rw [decimal?_eq_some_iff.mpr writes] at isNan
      exact isNumber (Option.some.inj isNan)
    · rintro other rfl
      exact other text rfl (writesDecimal_nan_iff.mp writes)
  · rw [follows.unwritten fun text number isGiven writes =>
      written ⟨text, number, isGiven, writes⟩]
    refine iff_of_true least fun text isGiven writesNan => ?_
    exact written ⟨text, .nan, isGiven, writesDecimal_nan_iff.mpr writesNan⟩

/-- **Settings hold numbers at least zero, unless a variable writes not-a-number.** The retries and
the patience are the numbers that their variables write, moved up to zero, or their defaults when
the variables write none. The retries are never negative, and the patience is at least zero exactly
when its variable does not write not-a-number. -/
theorem loads_numbers_unless_nan (named : Variables) (passing : Path) :
    let settings := load named passing
    let retries := named.find "KSCHEMA_REGISTRY_RETRIES"
    let patience := named.find "KSCHEMA_WEBHOOK_TIMEOUT"
    (Follows WritesInteger (max · 0) retries defaultRetries settings.registryRetries ∧
      0 ≤ settings.registryRetries) ∧
    Follows WritesDecimal Double.raised patience defaultPatience settings.lookupPatience ∧
      (settings.lookupPatience.IsAtLeastZero ↔
        ∀ text, patience = some text → ¬ WritesNan text) := by
  intro settings retries patience
  refine ⟨⟨?_, ?_⟩, ?_, ?_⟩
  · exact follows_integerFrom retries defaultRetries
  · exact integerFrom_nonneg retries (by decide)
  · exact follows_numberFrom patience defaultPatience
  · exact isAtLeastZero_numberFrom_iff patience (by decide +kernel)

/-- Ten retries, written with a sign, a low line and blanks, and a patience below zero. -/
theorem loads_numbers_unless_nan_signs :
    let settings := load [("KSCHEMA_REGISTRY_RETRIES", " +1_0 "),
      ("KSCHEMA_WEBHOOK_TIMEOUT", "-2.5e3")] (.ofText "/tmp")
    settings.registryRetries = 10 ∧ settings.lookupPatience = .zero false ∧
      settings.lookupPatience.IsAtLeastZero := by
  intro settings
  have ten : WritesInteger " +1_0 " 10 := by
    have digits : DigitPart ['1', '_', '0'] [1, 0] :=
      .line (by decide +kernel) (.last (by decide +kernel))
    exact .intro ⟨[' '], [' '], rfl, by decide +kernel, by decide +kernel⟩ (.plus _) digits
      (by decide)
  have below : WritesDecimal "-2.5e3" (.ofDecimal true 25 2) := by
    have two : DigitPart ['2'] [2] := .last (by decide +kernel)
    have five : DigitPart ['5'] [5] := .last (by decide +kernel)
    have three : DigitPart ['3'] [3] := .last (by decide +kernel)
    have thousands : Exponent ['e', '3'] 3 := .power (Or.inl rfl) (.bare _) three
    have mantissa : Mantissa ['2', '.', '5'] [2] [5] :=
      .pointed (Or.inl two) (Or.inl five) (Or.inl (List.cons_ne_nil _ _))
    exact .intro ⟨[], [], rfl, rfl, rfl⟩ (.minus _) (.number mantissa thousands)
  obtain ⟨⟨retries, _⟩, patience, atLeastZero⟩ := loads_numbers_unless_nan
    [("KSCHEMA_REGISTRY_RETRIES", " +1_0 "), ("KSCHEMA_WEBHOOK_TIMEOUT", "-2.5e3")] (.ofText "/tmp")
  have isPatience : settings.lookupPatience = .zero false :=
    (patience.written "-2.5e3" _ rfl below).trans (by decide +kernel)
  refine ⟨retries.written " +1_0 " 10 rfl ten, isPatience, ?_⟩
  rw [isPatience]
  decide

/-- A patience that is not-a-number is kept as it is. -/
theorem loads_nan :
    let settings := load [("KSCHEMA_WEBHOOK_TIMEOUT", "nan")] (.ofText "/tmp")
    WritesDecimal "nan" .nan ∧ settings.lookupPatience = .nan ∧
      ¬ settings.lookupPatience.IsAtLeastZero := by
  intro settings
  have frames : Frames "nan" ['n', 'a', 'n'] := ⟨[], [], rfl, rfl, rfl⟩
  have writes : WritesDecimal "nan" .nan := .intro frames (.bare _) (.nan (by decide))
  have isNan : settings.lookupPatience = .nan :=
    (follows_numberFrom (some "nan") defaultPatience).written "nan" .nan rfl writes
  refine ⟨writes, isNan, ?_⟩
  rw [isNan]
  decide

end Settings

end FleetSchema
