/-
**UTF-8, there and back.**

* `lead?_of_lt_128`, `lead?_two`, `lead?_three`, `lead?_four`, `lead?_eq_none`: what a first byte
  announces, by its range;
* `exists_lead_encodeChar`, `exists_char_of_continueSequence`: one character, written and read;
* `decode_eq_ok_iff`: bytes are read as a text exactly when they are the bytes of that text;
* `isValidUTF8_iff`: these are the bytes that are valid UTF-8.
-/

import FleetSchema.Text.Utf8
import Mathlib.Data.List.Basic
import Mathlib.Data.Char

namespace FleetSchema.Text.Utf8

/-! ### First bytes -/

section Lead

variable {byte : UInt8}

theorem lead?_of_lt_128 (ascii : byte.toNat < 0x80) : lead? byte = some ⟨0, byte.toNat, 0, 0⟩ := by
  unfold lead?
  simp [ascii]

theorem lead?_two (low : 0xc2 ≤ byte.toNat) (high : byte.toNat < 0xe0) :
    lead? byte = some ⟨1, byte.toNat - 0xc0, 0x80, 0xbf⟩ := by
  unfold lead?
  dsimp only
  rw [if_neg (by omega), if_neg (by omega), if_pos high]

/-- The second byte of three keeps out what two bytes can write, and the surrogates. -/
theorem lead?_three (low : 0xe0 ≤ byte.toNat) (high : byte.toNat < 0xf0) :
    lead? byte = some ⟨2, byte.toNat - 0xe0, if byte.toNat = 0xe0 then 0xa0 else 0x80,
      if byte.toNat = 0xed then 0x9f else 0xbf⟩ := by
  unfold lead?
  dsimp only
  rw [if_neg (by omega), if_neg (by omega), if_neg (by omega)]
  by_cases first : byte.toNat = 0xe0
  · simp [first]
  · by_cases surrogate : byte.toNat = 0xed
    · simp [surrogate]
    · simp [first, surrogate, high]

/-- The second byte of four keeps out what three bytes can write, and what is no code point. -/
theorem lead?_four (low : 0xf0 ≤ byte.toNat) (high : byte.toNat < 0xf5) :
    lead? byte = some ⟨3, byte.toNat - 0xf0, if byte.toNat = 0xf0 then 0x90 else 0x80,
      if byte.toNat = 0xf4 then 0x8f else 0xbf⟩ := by
  unfold lead?
  dsimp only
  rw [if_neg (by omega), if_neg (by omega), if_neg (by omega), if_neg (by simp; omega),
    if_neg (by simp; omega), if_neg (by omega)]
  by_cases first : byte.toNat = 0xf0
  · simp [first]
  · by_cases last : byte.toNat = 0xf4
    · simp [last]
    · have inside : byte.toNat < 0xf4 := by omega
      simp [first, last, inside]

theorem lead?_eq_none (outside : 0x80 ≤ byte.toNat ∧ byte.toNat < 0xc2 ∨ 0xf5 ≤ byte.toNat) :
    lead? byte = none := by
  unfold lead?
  dsimp only
  rw [if_neg (by omega)]
  obtain ⟨_, low⟩ | high := outside
  · rw [if_pos low]
  · rw [if_neg (by omega), if_neg (by omega), if_neg (by simp; omega), if_neg (by simp; omega),
      if_neg (by omega), if_neg (by simp; omega), if_neg (by omega), if_neg (by simp; omega)]

end Lead

/-! ### Further bytes -/

section Continue

variable {bits low high taken owed point : Nat} {byte : UInt8} {bytes rest after : List UInt8}

theorem continueSequence_zero :
    continueSequence bits low high taken 0 bytes = .ok (point, after) ↔
      bits = point ∧ bytes = after := by
  unfold continueSequence
  simp

theorem continueSequence_succ :
    continueSequence bits low high taken (owed + 1) bytes = .ok (point, after) ↔
      ∃ byte rest, bytes = byte :: rest ∧ low ≤ byte.toNat ∧ byte.toNat ≤ high ∧
        continueSequence (bits * 64 + (byte.toNat - 0x80)) 0x80 0xbf (taken + 1) owed rest =
          .ok (point, after) := by
  cases bytes with
  | nil => simp [continueSequence]
  | cons byte rest =>
    rw [continueSequence]
    by_cases fit : low ≤ byte.toNat ∧ byte.toNat ≤ high
    · simp [fit]
    · have unfit : (decide (low ≤ byte.toNat) && decide (byte.toNat ≤ high)) = false := by
        simpa using fit
      rw [unfit]
      constructor
      · rintro ⟨⟩
      · rintro ⟨_, _, same, least, most, _⟩
        cases same
        exact absurd ⟨least, most⟩ fit

end Continue

/-! ### One character -/

section Character

variable {letter : Char}

theorem encodeChar_one (small : letter.toNat < 0x80) :
    encodeChar letter = [letter.toNat.toUInt8] := if_pos small

theorem encodeChar_two (low : 0x80 ≤ letter.toNat) (high : letter.toNat < 0x800) :
    encodeChar letter =
      [(0xc0 + letter.toNat / 64).toUInt8, (0x80 + letter.toNat % 64).toUInt8] := by
  unfold encodeChar
  dsimp only
  rw [if_neg (by omega), if_pos high]

theorem encodeChar_three (low : 0x800 ≤ letter.toNat) (high : letter.toNat < 0x10000) :
    encodeChar letter = [(0xe0 + letter.toNat / 4096).toUInt8,
      (0x80 + letter.toNat / 64 % 64).toUInt8, (0x80 + letter.toNat % 64).toUInt8] := by
  unfold encodeChar
  dsimp only
  rw [if_neg (by omega), if_neg (by omega), if_pos high]

theorem encodeChar_four (low : 0x10000 ≤ letter.toNat) :
    encodeChar letter = [(0xf0 + letter.toNat / 262144).toUInt8,
      (0x80 + letter.toNat / 4096 % 64).toUInt8, (0x80 + letter.toNat / 64 % 64).toUInt8,
      (0x80 + letter.toNat % 64).toUInt8] := by
  unfold encodeChar
  dsimp only
  rw [if_neg (by omega), if_neg (by omega), if_neg (by omega)]

theorem toNat_toUInt8 (number : Nat) (small : number < 0x100) :
    number.toUInt8.toNat = number := by
  rw [Nat.toUInt8_eq, UInt8.toNat_ofNat', Nat.mod_eq_of_lt small]

theorem toUInt8_eq {number : Nat} (byte : UInt8) (same : number = byte.toNat) :
    number.toUInt8 = byte := by
  rw [same, Nat.toUInt8_eq, UInt8.ofNat_toNat]

/-- The bytes of a character are read as it, whatever follows. -/
theorem exists_lead_encodeChar (letter : Char) (after : List UInt8) :
    ∃ byte rest lead, encodeChar letter ++ after = byte :: rest ∧ lead? byte = some lead ∧
      continueSequence lead.bits lead.low lead.high 1 lead.owed rest =
        .ok (letter.toNat, after) := by
  have valid : letter.toNat < 0xd800 ∨ 0xdfff < letter.toNat ∧ letter.toNat < 0x110000 :=
    letter.valid
  obtain one | two | three | four : letter.toNat < 0x80 ∨
      (0x80 ≤ letter.toNat ∧ letter.toNat < 0x800) ∨
      (0x800 ≤ letter.toNat ∧ letter.toNat < 0x10000) ∨ 0x10000 ≤ letter.toNat := by omega
  · have first := toNat_toUInt8 letter.toNat (by omega)
    rw [encodeChar_one one]
    refine ⟨_, _, _, rfl, lead?_of_lt_128 (by omega), ?_⟩
    rw [first, continueSequence_zero]
    exact ⟨rfl, rfl⟩
  · have first := toNat_toUInt8 (0xc0 + letter.toNat / 64) (by omega)
    have second := toNat_toUInt8 (0x80 + letter.toNat % 64) (by omega)
    rw [encodeChar_two two.1 two.2]
    refine ⟨_, _, _, rfl, lead?_two (by omega) (by omega), ?_⟩
    dsimp only
    rw [continueSequence_succ]
    refine ⟨_, _, rfl, by omega, by omega, ?_⟩
    rw [continueSequence_zero]
    exact ⟨by omega, rfl⟩
  · have first := toNat_toUInt8 (0xe0 + letter.toNat / 4096) (by omega)
    have second := toNat_toUInt8 (0x80 + letter.toNat / 64 % 64) (by omega)
    have third := toNat_toUInt8 (0x80 + letter.toNat % 64) (by omega)
    rw [encodeChar_three three.1 three.2]
    refine ⟨_, _, _, rfl, lead?_three (by omega) (by omega), ?_⟩
    dsimp only
    rw [continueSequence_succ]
    refine ⟨_, _, rfl, by split <;> omega, by split <;> omega, ?_⟩
    rw [continueSequence_succ]
    refine ⟨_, _, rfl, by omega, by omega, ?_⟩
    rw [continueSequence_zero]
    exact ⟨by omega, rfl⟩
  · have first := toNat_toUInt8 (0xf0 + letter.toNat / 262144) (by omega)
    have second := toNat_toUInt8 (0x80 + letter.toNat / 4096 % 64) (by omega)
    have third := toNat_toUInt8 (0x80 + letter.toNat / 64 % 64) (by omega)
    have fourth := toNat_toUInt8 (0x80 + letter.toNat % 64) (by omega)
    rw [encodeChar_four four]
    refine ⟨_, _, _, rfl, lead?_four (by omega) (by omega), ?_⟩
    dsimp only
    rw [continueSequence_succ]
    refine ⟨_, _, rfl, by split <;> omega, by split <;> omega, ?_⟩
    rw [continueSequence_succ]
    refine ⟨_, _, rfl, by omega, by omega, ?_⟩
    rw [continueSequence_succ]
    refine ⟨_, _, rfl, by omega, by omega, ?_⟩
    rw [continueSequence_zero]
    exact ⟨by omega, rfl⟩

/-- A code point that is no surrogate is one of a character. -/
theorem exists_char (point : Nat)
    (valid : point < 0xd800 ∨ 0xdfff < point ∧ point < 0x110000) :
    ∃ letter : Char, letter.toNat = point :=
  ⟨Char.ofNatAux point valid, rfl⟩

/-- Bytes that are read as a code point are those of its character, with the rest behind them. -/
theorem exists_char_of_continueSequence {byte : UInt8} {lead : Lead} {bytes after : List UInt8}
    {point : Nat} (announced : lead? byte = some lead)
    (read : continueSequence lead.bits lead.low lead.high 1 lead.owed bytes = .ok (point, after)) :
    ∃ letter : Char, letter.toNat = point ∧ byte :: bytes = encodeChar letter ++ after := by
  have small := byte.toNat_lt
  obtain one | outside | two | three | four : byte.toNat < 0x80 ∨
      (0x80 ≤ byte.toNat ∧ byte.toNat < 0xc2 ∨ 0xf5 ≤ byte.toNat) ∨
      (0xc2 ≤ byte.toNat ∧ byte.toNat < 0xe0) ∨ (0xe0 ≤ byte.toNat ∧ byte.toNat < 0xf0) ∨
      (0xf0 ≤ byte.toNat ∧ byte.toNat < 0xf5) := by omega
  · rw [lead?_of_lt_128 one] at announced
    cases announced
    dsimp only at read
    rw [continueSequence_zero] at read
    obtain ⟨isPoint, rfl⟩ := read
    obtain ⟨letter, same⟩ := exists_char point (by omega)
    refine ⟨letter, same, ?_⟩
    rw [encodeChar_one (by omega), toUInt8_eq byte (by omega)]
    rfl
  · rw [lead?_eq_none outside] at announced
    cases announced
  · rw [lead?_two two.1 two.2] at announced
    cases announced
    dsimp only at read
    rw [continueSequence_succ] at read
    obtain ⟨second, rest, rfl, least, most, read⟩ := read
    rw [continueSequence_zero] at read
    obtain ⟨isPoint, rfl⟩ := read
    obtain ⟨letter, same⟩ := exists_char point (by omega)
    refine ⟨letter, same, ?_⟩
    rw [encodeChar_two (by omega) (by omega), toUInt8_eq byte (by omega),
      toUInt8_eq second (by omega)]
    rfl
  · rw [lead?_three three.1 three.2] at announced
    cases announced
    dsimp only at read
    rw [continueSequence_succ] at read
    obtain ⟨second, _, rfl, least, most, read⟩ := read
    rw [continueSequence_succ] at read
    obtain ⟨third, rest, rfl, least', most', read⟩ := read
    rw [continueSequence_zero] at read
    obtain ⟨isPoint, rfl⟩ := read
    -- the bounds of the second byte keep the point out of the shorter forms and the surrogates
    have bounds : 0x800 ≤ point ∧ (point < 0xd800 ∨ 0xdfff < point) ∧ point < 0x10000 := by
      split at least <;> split at most <;> omega
    obtain ⟨letter, same⟩ := exists_char point (by omega)
    refine ⟨letter, same, ?_⟩
    have tail : 0x80 ≤ second.toNat ∧ second.toNat ≤ 0xbf := by
      split at least <;> split at most <;> omega
    rw [encodeChar_three (by omega) (by omega), toUInt8_eq byte (by omega),
      toUInt8_eq second (by omega), toUInt8_eq third (by omega)]
    rfl
  · rw [lead?_four four.1 four.2] at announced
    cases announced
    dsimp only at read
    rw [continueSequence_succ] at read
    obtain ⟨second, _, rfl, least, most, read⟩ := read
    rw [continueSequence_succ] at read
    obtain ⟨third, _, rfl, least', most', read⟩ := read
    rw [continueSequence_succ] at read
    obtain ⟨fourth, rest, rfl, least'', most'', read⟩ := read
    rw [continueSequence_zero] at read
    obtain ⟨isPoint, rfl⟩ := read
    have bounds : 0x10000 ≤ point ∧ point < 0x110000 := by
      split at least <;> split at most <;> omega
    obtain ⟨letter, same⟩ := exists_char point (by omega)
    refine ⟨letter, same, ?_⟩
    have tail : 0x80 ≤ second.toNat ∧ second.toNat ≤ 0xbf := by
      split at least <;> split at most <;> omega
    rw [encodeChar_four (by omega), toUInt8_eq byte (by omega),
      toUInt8_eq second (by omega), toUInt8_eq third (by omega),
      toUInt8_eq fourth (by omega)]
    rfl

end Character

/-! ### Texts -/

theorem decodeFrom_flatMap (position : Nat) (read letters : List Char) :
    decodeFrom position read (letters.flatMap encodeChar) = .ok (read.reverse ++ letters) := by
  induction letters generalizing position read with
  | nil => simp [decodeFrom]
  | cons letter rest ih =>
    obtain ⟨byte, bytes, lead, split, announced, continued⟩ :=
      exists_lead_encodeChar letter (rest.flatMap encodeChar)
    rw [List.flatMap_cons, split, decodeFrom, announced]
    dsimp only
    split
    · rename_i point after attempt
      rw [continued] at attempt
      cases attempt
      rw [Char.ofNat_toNat, ih]
      simp
    · rename_i taken ended attempt
      rw [continued] at attempt
      cases attempt

theorem flatMap_of_decodeFrom {position : Nat} {read letters : List Char} {bytes : List UInt8}
    (decoded : decodeFrom position read bytes = .ok letters) :
    ∃ more, letters = read.reverse ++ more ∧ bytes = more.flatMap encodeChar := by
  fun_induction decodeFrom position read bytes with
  | case1 position read =>
    cases decoded
    exact ⟨[], (List.append_nil _).symm, rfl⟩
  | case2 => cases decoded
  | case3 position read byte rest lead announced point after attempt shorter ih =>
    obtain ⟨more, rfl, rfl⟩ := ih decoded
    obtain ⟨letter, rfl, split⟩ := exists_char_of_continueSequence announced attempt
    refine ⟨letter :: more, ?_, ?_⟩
    · rw [Char.ofNat_toNat]
      simp
    · rw [List.flatMap_cons]
      exact split
  | case4 => cases decoded

/-- **Bytes are read as a text exactly when they are the bytes of that text.** -/
theorem decode_eq_ok_iff {bytes : List UInt8} {text : String} :
    decode bytes = .ok text ↔ bytes = encode text := by
  unfold decode encode
  constructor
  · intro decoded
    cases inner : decodeFrom 0 [] bytes with
    | error fault =>
      rw [inner] at decoded
      cases decoded
    | ok letters =>
      rw [inner] at decoded
      cases decoded
      obtain ⟨more, rfl, rfl⟩ := flatMap_of_decodeFrom inner
      rw [String.toList_ofList]
  · rintro rfl
    rw [decodeFrom_flatMap]
    exact congrArg Except.ok String.ofList_toList

/-! ### Validity -/

/-- A character has the bytes that the standard library gives it. -/
theorem encodeChar_eq (letter : Char) : encodeChar letter = String.utf8EncodeChar letter := by
  have valid : letter.toNat < 0xd800 ∨ 0xdfff < letter.toNat ∧ letter.toNat < 0x110000 :=
    letter.valid
  have code : letter.val.toNat = letter.toNat := rfl
  have comm (offset : Nat) : letter.toNat % 64 + offset = offset + letter.toNat % 64 :=
    Nat.add_comm _ _
  have middle : letter.toNat / 64 % 64 + 128 = 0x80 + letter.toNat / 64 % 64 := Nat.add_comm _ _
  unfold String.utf8EncodeChar
  simp only [code, comm, middle, ← Nat.toUInt8_eq]
  obtain one | two | three | four : letter.toNat < 0x80 ∨
      (0x80 ≤ letter.toNat ∧ letter.toNat < 0x800) ∨
      (0x800 ≤ letter.toNat ∧ letter.toNat < 0x10000) ∨ 0x10000 ≤ letter.toNat := by omega
  · rw [encodeChar_one one, if_pos (by omega)]
  · have first : letter.toNat / 64 % 32 + 192 = 0xc0 + letter.toNat / 64 := by omega
    rw [encodeChar_two two.1 two.2, if_neg (by omega), if_pos (by omega), first]
  · have first : letter.toNat / 4096 % 16 + 224 = 0xe0 + letter.toNat / 4096 := by omega
    rw [encodeChar_three three.1 three.2, if_neg (by omega), if_neg (by omega),
      if_pos (by omega), first]
  · have first : letter.toNat / 262144 % 8 + 240 = 0xf0 + letter.toNat / 262144 := by omega
    have second : letter.toNat / 4096 % 64 + 128 = 0x80 + letter.toNat / 4096 % 64 :=
      Nat.add_comm _ _
    rw [encodeChar_four four, if_neg (by omega), if_neg (by omega), if_neg (by omega), first,
      second]

/-- **The bytes of texts are the ones that are valid UTF-8.** -/
theorem isValidUTF8_iff {bytes : List UInt8} :
    bytes.toByteArray.IsValidUTF8 ↔ ∃ text, bytes = encode text := by
  have encoder : encodeChar = String.utf8EncodeChar := funext encodeChar_eq
  constructor
  · rintro ⟨letters, same⟩
    refine ⟨String.ofList letters, ?_⟩
    have lists := congrArg (fun array : ByteArray => array.data.toList) same
    dsimp only [List.utf8Encode] at lists
    rw [List.toList_data_toByteArray, List.toList_data_toByteArray] at lists
    rw [encode, String.toList_ofList, encoder]
    exact lists
  · rintro ⟨text, rfl⟩
    refine ⟨text.toList, ?_⟩
    rw [encode, encoder]
    rfl

end FleetSchema.Text.Utf8
