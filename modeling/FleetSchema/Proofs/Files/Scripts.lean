/-
**What becomes of a schema script.**

A script is read as text, and the text is written into a fresh file. Reading keeps one kind of line
end only, so that a script with carriage returns is not stored as it was.

* `unifyReturns`: bytes with one kind of line end;
* `encode_unifyLineEnds`: the line ends of a text and of its bytes;
* `unifyReturns_eq_iff`: bytes stay the same exactly when there is no carriage return among them;
* `SchemaDefinition.perform_ofFile`: the schema that a file is read as;
* **`SchemaStore.stores_unified`**: what a script is stored as.
-/

import FleetSchema.Proofs.Files.Written
import FleetSchema.Proofs.Session.Frame
import FleetSchema.Proofs.Text.Codec
import FleetSchema.Proofs.Text.Lines

namespace FleetSchema

open FleetSchema.Action FileTree

/-! ### Line ends in bytes -/

namespace Text

open Utf8

/-- Put a line feed for every carriage return, with or without a line feed behind it. -/
def unifyReturns : List UInt8 → List UInt8
  | [] => []
  | 0x0d :: 0x0a :: rest => 0x0a :: unifyReturns rest
  | byte :: rest => (if byte = 0x0d then 0x0a else byte) :: unifyReturns rest

variable {bytes front : List UInt8}

theorem not_mem_unifyReturns (bytes : List UInt8) : 0x0d ∉ unifyReturns bytes := by
  fun_induction unifyReturns bytes with
  | case1 => exact List.not_mem_nil
  | case2 rest ih => simpa using ih
  | case3 byte rest _ ih =>
    by_cases isReturn : byte = 0x0d
    · simpa [isReturn] using ih
    · simp [isReturn, ih, Ne.symm isReturn]

theorem unifyReturns_of_not_mem (free : 0x0d ∉ bytes) : unifyReturns bytes = bytes := by
  fun_induction unifyReturns bytes with
  | case1 => rfl
  | case2 rest ih => simp at free
  | case3 byte rest _ ih =>
    simp only [List.mem_cons, not_or] at free
    rw [ih free.2, if_neg (Ne.symm free.1)]

/-- **Bytes stay the same exactly when there is no carriage return among them.** -/
theorem unifyReturns_eq_iff : unifyReturns bytes = bytes ↔ 0x0d ∉ bytes := by
  constructor
  · intro same
    rw [← same]
    exact not_mem_unifyReturns bytes
  · exact unifyReturns_of_not_mem

theorem unifyReturns_return (alone : bytes.head? ≠ some 0x0a) :
    unifyReturns (0x0d :: bytes) = 0x0a :: unifyReturns bytes := by
  rw [unifyReturns]
  · simp
  · rintro rest - rfl
    exact alone rfl

theorem unifyReturns_append (free : 0x0d ∉ front) (bytes : List UInt8) :
    unifyReturns (front ++ bytes) = front ++ unifyReturns bytes := by
  induction front with
  | nil => rfl
  | cons byte rest ih =>
    simp only [List.mem_cons, not_or] at free
    rw [List.cons_append, unifyReturns, ih free.2, if_neg (Ne.symm free.1)]
    · rfl
    · rintro _ rfl
      exact absurd rfl free.1

/-- The bytes of a character beyond ASCII are all beyond ASCII. -/
theorem le_toNat_of_mem_encodeChar {letter : Char} {byte : UInt8} (wide : 0x80 ≤ letter.toNat)
    (member : byte ∈ encodeChar letter) : 0x80 ≤ byte.toNat := by
  have valid : letter.toNat < 0xd800 ∨ 0xdfff < letter.toNat ∧ letter.toNat < 0x110000 :=
    letter.valid
  have large (number : Nat) (low : 0x80 ≤ number) (high : number < 0x100) :
      0x80 ≤ number.toUInt8.toNat := by
    rw [toNat_toUInt8 number high]
    exact low
  obtain two | three | four : letter.toNat < 0x800 ∨
      (0x800 ≤ letter.toNat ∧ letter.toNat < 0x10000) ∨ 0x10000 ≤ letter.toNat := by omega
  · rw [encodeChar_two wide two] at member
    simp only [List.mem_cons, List.not_mem_nil, or_false] at member
    obtain rfl | rfl := member
    all_goals exact large _ (by omega) (by omega)
  · rw [encodeChar_three three.1 three.2] at member
    simp only [List.mem_cons, List.not_mem_nil, or_false] at member
    obtain rfl | rfl | rfl := member
    all_goals exact large _ (by omega) (by omega)
  · rw [encodeChar_four four] at member
    simp only [List.mem_cons, List.not_mem_nil, or_false] at member
    obtain rfl | rfl | rfl | rfl := member
    all_goals exact large _ (by omega) (by omega)

/-- An ASCII byte is a byte of the character with its number alone. -/
theorem eq_of_mem_encodeChar {letter other : Char} {byte : UInt8}
    (member : byte ∈ encodeChar letter) (ascii : byte.toNat < 0x80)
    (same : other.toNat = byte.toNat) : letter = other := by
  have narrow : letter.toNat < 0x80 := by
    by_contra wide
    have beyond := le_toNat_of_mem_encodeChar (Nat.le_of_not_lt wide) member
    omega
  rw [encodeChar_one narrow, List.mem_singleton] at member
  refine Char.toNat_inj.mp ?_
  rw [same, member, toNat_toUInt8 _ (by omega)]

/-- The bytes of characters start with a line feed only if the characters do. -/
theorem head?_flatMap_encodeChar {letters : List Char}
    (starts : (letters.flatMap encodeChar).head? = some 0x0a) :
    ∃ rest, letters = '\n' :: rest := by
  cases letters with
  | nil => cases starts
  | cons letter rest =>
    obtain ⟨byte, more, _, split, _⟩ := exists_lead_encodeChar letter []
    rw [List.append_nil] at split
    rw [List.flatMap_cons, split] at starts
    obtain rfl : byte = 0x0a := Option.some.inj starts
    have member : 0x0a ∈ encodeChar letter := by
      rw [split]
      exact List.mem_cons_self
    exact ⟨rest, congrArg (· :: rest) (eq_of_mem_encodeChar member (by decide) (by decide))⟩

theorem flatMap_unifyLineEndChars (letters : List Char) :
    (unifyLineEndChars letters).flatMap encodeChar =
      unifyReturns (letters.flatMap encodeChar) := by
  fun_induction unifyLineEndChars letters with
  | case1 => rfl
  | case2 rest ih =>
    rw [List.flatMap_cons, ih]
    rfl
  | case3 letter rest single ih =>
    rw [List.flatMap_cons, List.flatMap_cons, ih]
    by_cases isReturn : letter = '\r'
    · subst isReturn
      have alone : (rest.flatMap encodeChar).head? ≠ some 0x0a := by
        intro starts
        obtain ⟨more, rfl⟩ := head?_flatMap_encodeChar starts
        exact single more rfl rfl
      rw [if_pos rfl]
      exact (unifyReturns_return alone).symm
    · rw [if_neg isReturn, unifyReturns_append]
      exact fun member => isReturn (eq_of_mem_encodeChar member (by decide) (by decide))

/-- **The line ends of a text and of its bytes are the same.** -/
theorem encode_unifyLineEnds (text : String) :
    encode (unifyLineEnds text) = unifyReturns (encode text) := by
  unfold encode unifyLineEnds
  rw [String.toList_ofList]
  exact flatMap_unifyLineEndChars text.toList

end Text

/-! ### From file to file -/

variable {session : Session} {path : Path}

/-- A file whose bytes are those of a text is read as the schema with this text, up to line ends. -/
theorem SchemaDefinition.perform_ofFile {text : String} (dialect : String)
    (read : (Storage.read path).perform session = (.ok (Text.Utf8.encode text), session)) :
    (ofFile path dialect).perform session =
      (.ok ⟨Text.unifyLineEnds text, dialectAmong [dialect, endingOf path]⟩, session) := by
  have decoded : textOf (Text.Utf8.encode text) = .ok (Text.unifyLineEnds text) := by
    unfold textOf
    rw [Text.Utf8.decode_eq_ok_iff.mpr rfl]
  unfold ofFile
  rw [perform_bind, perform_onFault, read]
  dsimp only
  rw [perform_bind, perform_ofDefect, decoded]
  rfl

/-- **A script is stored with one kind of line end.** A file of valid UTF-8 is read as a schema. The
schema is stored at a path exactly when the system grants a file there and the disk takes it. The
file then is new and holds the bytes of the script with a line feed for every carriage return: the
same bytes exactly when there is none. -/
theorem SchemaStore.stores_unified {bytes : List UInt8} (dialect : String) (place : SchemaStore)
    (read : (Storage.read path).perform session = (.ok bytes, session))
    (valid : bytes.toByteArray.IsValidUTF8) :
    ∃ schema, (SchemaDefinition.ofFile path dialect).perform session = (.ok schema, session) ∧
      (∀ later outcome last, (place.store schema).perform later = (outcome, last) →
        (∀ stored, outcome = .ok stored ↔
          later.tree.Grants place.root openMode "schema-" ("." ++ schema.dialect) stored ∧
            later.devices.disk stored = none) ∧
        ∀ stored, outcome = .ok stored → later.tree.isThere stored = false ∧
          last.tree.entryAt? stored = some (.file 0o600 (Text.unifyReturns bytes))) ∧
      (Text.unifyReturns bytes = bytes ↔ 0x0d ∉ bytes) := by
  obtain ⟨text, rfl⟩ := Text.Utf8.isValidUTF8_iff.mp valid
  refine ⟨_, SchemaDefinition.perform_ofFile dialect read, fun later outcome last stores => ?_,
    Text.unifyReturns_eq_iff⟩
  have comes := freshOutcome_store stores
  have answers := comes.granted_iff fun _ _ => FileTree.Grants.unique
  refine ⟨fun stored => (answers stored).trans ?_, fun stored isOk => ?_⟩
  · exact and_congr_right fun _ => and_iff_left ⟨_, rfl⟩
  rw [isOk] at stores
  have fresh := store_eq_ok stores
  have entry := fresh.entry
  rw [Text.encode_unifyLineEnds] at entry
  exact ⟨fresh.absent, entry⟩

/-- A tree with a script of two lines, which a carriage return and a line feed part. -/
def twoLines : FileTree := ⟨[], [(["s.kql"], .file 0o644 [0x61, 0x0d, 0x0a, 0x62])]⟩

/-- A script with a carriage return is stored as another one. -/
theorem SchemaStore.stores_two_lines :
    ((Storage.read (.ofText "/s.kql")).perform (.start twoLines) =
        (.ok [0x61, 0x0d, 0x0a, 0x62], .start twoLines) ∧
      ([0x61, 0x0d, 0x0a, 0x62] : List UInt8).toByteArray.IsValidUTF8) ∧
    ∃ schema, (SchemaDefinition.ofFile (.ofText "/s.kql") "").perform (.start twoLines) =
        (.ok schema, .start twoLines) ∧
      (∀ later outcome last,
        (SchemaStore.store ⟨.ofText "/w", "l"⟩ schema).perform later = (outcome, last) →
        (∀ stored, outcome = .ok stored ↔
          later.tree.Grants (.ofText "/w") openMode "schema-" ("." ++ schema.dialect) stored ∧
            later.devices.disk stored = none) ∧
        ∀ stored, outcome = .ok stored → later.tree.isThere stored = false ∧
          last.tree.entryAt? stored =
            some (.file 0o600 (Text.unifyReturns [0x61, 0x0d, 0x0a, 0x62]))) ∧
      (Text.unifyReturns [0x61, 0x0d, 0x0a, 0x62] = [0x61, 0x0d, 0x0a, 0x62] ↔
        (0x0d : UInt8) ∉ [0x61, 0x0d, 0x0a, 0x62]) := by
  have read : (Storage.read (.ofText "/s.kql")).perform (.start twoLines) =
      (.ok [0x61, 0x0d, 0x0a, 0x62], .start twoLines) := rfl
  have valid : ([0x61, 0x0d, 0x0a, 0x62] : List UInt8).toByteArray.IsValidUTF8 :=
    Text.Utf8.isValidUTF8_iff.mpr ⟨"a\r\nb", rfl⟩
  exact ⟨⟨read, valid⟩, stores_unified "" ⟨.ofText "/w", "l"⟩ read valid⟩

/-- The script of two lines is stored without its carriage return. -/
theorem SchemaStore.stores_without_return :
    twoLines.read (.ofText "/s.kql") = .ok [0x61, 0x0d, 0x0a, 0x62] ∧
    ∃ schema, (SchemaDefinition.ofFile (.ofText "/s.kql") "").perform (.start twoLines) =
        (.ok schema, .start twoLines) ∧
      ∃ stored last, (SchemaStore.store ⟨.ofText "/w", "l"⟩ schema).perform (.start twoLines) =
          (.ok stored, last) ∧
        last.tree.read stored = .ok [0x61, 0x0a, 0x62] := by
  have read : (Storage.read (.ofText "/s.kql")).perform (.start twoLines) =
      (.ok (Text.Utf8.encode "a\r\nb"), .start twoLines) := rfl
  refine ⟨rfl, _, SchemaDefinition.perform_ofFile "" read, .ofText "/w/schema-00000000.kql", _,
    perform_of_outcome ?_, ?_⟩
  · decide +kernel
  · decide +kernel

end FleetSchema
