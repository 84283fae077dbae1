/-
**Bytes as UTF-8 text.**

A byte string is read as a sequence of well-formed UTF-8 sequences. Where it is not one, the
fault names the first byte or bytes that cannot be read: a byte that starts no sequence, the
longest start of a sequence that the next byte breaks off, or the start of a sequence that the
end of the data breaks off.

* `encode`, `decode`: the two directions;
* `DecodeFault.message`: the wording of a fault.
-/

import FleetSchema.Text.Quoted

namespace FleetSchema.Text.Utf8

/-- Why bytes cannot be read as text. -/
inductive DecodeReason where
  /-- The byte starts no sequence. -/
  | start
  /-- A sequence is broken off by a byte that does not continue it. -/
  | continuation
  /-- A sequence is broken off by the end of the data. -/
  | truncated
  deriving DecidableEq, Repr

/-- A place where bytes cannot be read as text. -/
structure DecodeFault where
  reason : DecodeReason
  position : Nat
  length : Nat
  first : UInt8
  deriving DecidableEq, Repr

/-- The wording of a fault. -/
def DecodeFault.message (fault : DecodeFault) : String :=
  let what := match fault.reason with
    | .start => "invalid start byte"
    | .continuation => "invalid continuation byte"
    | .truncated => "unexpected end of data"
  if fault.length == 1 then
    "'utf-8' codec can't decode byte 0x" ++ hexPadded 2 fault.first.toNat ++ " in position " ++
      toString fault.position ++ ": " ++ what
  else
    "'utf-8' codec can't decode bytes in position " ++ toString fault.position ++ "-" ++
      toString (fault.position + fault.length - 1) ++ ": " ++ what

/-- What the first byte of a sequence announces: the number of bytes to come, the bits it carries
and the least and greatest second byte. -/
structure Lead where
  owed : Nat
  bits : Nat
  low : Nat
  high : Nat

/-- The reading of a first byte, when it can start a sequence. -/
def lead? (byte : UInt8) : Option Lead :=
  let value := byte.toNat
  if value < 0x80 then some ⟨0, value, 0, 0⟩
  else if value < 0xc2 then none
  else if value < 0xe0 then some ⟨1, value - 0xc0, 0x80, 0xbf⟩
  else if value == 0xe0 then some ⟨2, 0, 0xa0, 0xbf⟩
  else if value == 0xed then some ⟨2, 0xd, 0x80, 0x9f⟩
  else if value < 0xf0 then some ⟨2, value - 0xe0, 0x80, 0xbf⟩
  else if value == 0xf0 then some ⟨3, 0, 0x90, 0xbf⟩
  else if value < 0xf4 then some ⟨3, value - 0xf0, 0x80, 0xbf⟩
  else if value == 0xf4 then some ⟨3, 4, 0x80, 0x8f⟩
  else none

/-- Read the bytes still owed to a sequence, the first of them between two bounds: its code point
and the rest, or the number of bytes that were fit and whether the data ended. -/
def continueSequence (bits low high taken : Nat) :
    Nat → List UInt8 → Except (Nat × Bool) (Nat × List UInt8)
  | 0, rest => .ok (bits, rest)
  | _ + 1, [] => .error (taken, true)
  | owed + 1, byte :: rest =>
    if low ≤ byte.toNat && byte.toNat ≤ high then
      continueSequence (bits * 64 + (byte.toNat - 0x80)) 0x80 0xbf (taken + 1) owed rest
    else .error (taken, false)

theorem continueSequence_length {bits low high taken owed : Nat} {bytes rest : List UInt8}
    {point : Nat} (read : continueSequence bits low high taken owed bytes = .ok (point, rest)) :
    rest.length ≤ bytes.length := by
  induction owed generalizing bits low high taken bytes with
  | zero =>
    cases read
    exact Nat.le_refl _
  | succ owed ih =>
    cases bytes with
    | nil => cases read
    | cons byte after =>
      rw [continueSequence] at read
      split at read
      · have shorter := ih read
        simp only [List.length_cons]
        omega
      · cases read

/-- Read bytes from a position on, latest character first. -/
def decodeFrom (position : Nat) (read : List Char) (bytes : List UInt8) :
    Except DecodeFault (List Char) :=
  match bytes with
  | [] => .ok read.reverse
  | byte :: rest =>
    match lead? byte with
    | none => .error ⟨.start, position, 1, byte⟩
    | some lead =>
      match attempt : continueSequence lead.bits lead.low lead.high 1 lead.owed rest with
      | .ok (point, after) =>
        have : after.length < rest.length + 1 := Nat.lt_succ_of_le (continueSequence_length attempt)
        decodeFrom (position + 1 + lead.owed) (Char.ofNat point :: read) after
      | .error (taken, ended) =>
        .error ⟨if ended then .truncated else .continuation, position, taken, byte⟩
termination_by bytes.length

/-- Read bytes as text. -/
def decode (bytes : List UInt8) : Except DecodeFault String :=
  (decodeFrom 0 [] bytes).map String.ofList

/-- The bytes of a character. -/
def encodeChar (letter : Char) : List UInt8 :=
  let point := letter.toNat
  if point < 0x80 then [point.toUInt8]
  else if point < 0x800 then [(0xc0 + point / 64).toUInt8, (0x80 + point % 64).toUInt8]
  else if point < 0x10000 then
    [(0xe0 + point / 4096).toUInt8, (0x80 + point / 64 % 64).toUInt8, (0x80 + point % 64).toUInt8]
  else
    [(0xf0 + point / 262144).toUInt8, (0x80 + point / 4096 % 64).toUInt8,
      (0x80 + point / 64 % 64).toUInt8, (0x80 + point % 64).toUInt8]

/-- The bytes of a text. -/
def encode (text : String) : List UInt8 := text.toList.flatMap encodeChar

end FleetSchema.Text.Utf8
