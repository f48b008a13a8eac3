/-
**UTF-8 there and back.**

Characters that were written as bytes are read back, wherever other bytes follow:

* `two?_encoded`, `three?_encoded` and `four?_encoded` read back the sequences of two, three and four
  bytes, and a shorter attempt refuses a longer sequence;
* `Sequence` holds of the bytes that encode a character, and `Sequence.decode_append` reads them;
* `decode_encode` is the round trip, and `encode_inj` says that different texts have different bytes.
-/

import Provision.Text.Utf8

namespace Provision.Utf8

/-! ### Single bytes -/

/-- A byte with a mark above its payload. -/
def marked (mark payload : Nat) : UInt8 := UInt8.ofNat (payload + mark)

theorem toNat_marked (mark payload : Nat) (small : payload + mark < 256) :
    (marked mark payload).toNat = payload + mark := by
  simp [marked, Nat.mod_eq_of_lt small]

theorem isContinuation_marked {payload : Nat} (small : payload < 64) :
    isContinuation (marked 0x80 payload) = true := by
  have value := toNat_marked 0x80 payload (by omega)
  simp [isContinuation, UInt8.le_iff_toNat_le, UInt8.lt_iff_toNat_lt, value]
  omega

theorem payload_marked {number : Nat} (small : number < 64) :
    payload (marked 0x80 number) = number := by
  rw [payload, toNat_marked _ _ (by omega)]
  omega

theorem character?_toNat (character : Char) : character? character.toNat = some character := by
  have valid : character.toNat.isValidChar := character.valid
  simp [character?, valid]

/-! ### Sequences -/

theorem two?_encoded (high low : Nat) (least : 2 ≤ high) (top : high < 32) (small : low < 64) :
    two? (marked 0xC0 high) (marked 0x80 low) = character? (high * 64 + low) := by
  have first := toNat_marked 0xC0 high (by omega)
  have range : (0xC2 ≤ marked 0xC0 high && marked 0xC0 high < 0xE0) = true := by
    simp [UInt8.le_iff_toNat_le, UInt8.lt_iff_toNat_lt, first]
    omega
  have code : (marked 0xC0 high).toNat % 32 * 64 + payload (marked 0x80 low) = high * 64 + low := by
    rw [first, payload_marked small]
    omega
  rw [two?, range, isContinuation_marked small, code]
  rfl

/-- A byte that starts a longer sequence starts none of two bytes. -/
theorem two?_of_le {first : UInt8} (large : 0xE0 ≤ first.toNat) (second : UInt8) :
    two? first second = none := by
  have beyond : (0xC2 ≤ first && first < 0xE0) = false := by
    simp [UInt8.le_iff_toNat_le, UInt8.lt_iff_toNat_lt]
    omega
  rw [two?, beyond]
  rfl

theorem three?_encoded (high middle low : Nat) (top : high < 16) (inner : middle < 64)
    (small : low < 64) (least : 0x800 ≤ high * 4096 + middle * 64 + low) :
    three? (marked 0xE0 high) (marked 0x80 middle) (marked 0x80 low) =
      character? (high * 4096 + middle * 64 + low) := by
  have first := toNat_marked 0xE0 high (by omega)
  have range : (0xE0 ≤ marked 0xE0 high && marked 0xE0 high < 0xF0) = true := by
    simp [UInt8.le_iff_toNat_le, UInt8.lt_iff_toNat_lt, first]
    omega
  have code : (marked 0xE0 high).toNat % 16 * 4096 + payload (marked 0x80 middle) * 64 +
      payload (marked 0x80 low) = high * 4096 + middle * 64 + low := by
    rw [first, payload_marked inner, payload_marked small]
    omega
  rw [three?, range, isContinuation_marked inner, isContinuation_marked small, code]
  simp [least]

/-- A byte that starts a longer sequence starts none of three bytes. -/
theorem three?_of_le {first : UInt8} (large : 0xF0 ≤ first.toNat) (second third : UInt8) :
    three? first second third = none := by
  have beyond : (0xE0 ≤ first && first < 0xF0) = false := by
    simp [UInt8.le_iff_toNat_le, UInt8.lt_iff_toNat_lt]
    omega
  rw [three?, beyond]
  rfl

theorem four?_encoded (high second third low : Nat) (top : high < 5) (inner : second < 64)
    (middle : third < 64) (small : low < 64)
    (least : 0x10000 ≤ high * 262144 + second * 4096 + third * 64 + low) :
    four? (marked 0xF0 high) (marked 0x80 second) (marked 0x80 third) (marked 0x80 low) =
      character? (high * 262144 + second * 4096 + third * 64 + low) := by
  have first := toNat_marked 0xF0 high (by omega)
  have range : (0xF0 ≤ marked 0xF0 high && marked 0xF0 high < 0xF5) = true := by
    simp [UInt8.le_iff_toNat_le, UInt8.lt_iff_toNat_lt, first]
    omega
  have code : (marked 0xF0 high).toNat % 8 * 262144 + payload (marked 0x80 second) * 4096 +
      payload (marked 0x80 third) * 64 + payload (marked 0x80 low) =
        high * 262144 + second * 4096 + third * 64 + low := by
    rw [first, payload_marked inner, payload_marked middle, payload_marked small]
    omega
  rw [four?, range, isContinuation_marked inner, isContinuation_marked middle,
    isContinuation_marked small, code]
  simp [least]

/-! ### Texts -/

theorem not_ascii_of_le {first : UInt8} (large : 0x80 ≤ first.toNat) : ¬ first < 0x80 := by
  rw [UInt8.lt_iff_toNat_lt]
  exact Nat.not_lt.mpr large

/-- A sequence of bytes that encodes a character. -/
inductive Sequence : Bytes → Char → Prop
  | one {first : UInt8} (ascii : first < 0x80) : Sequence [first] (Char.ofNat first.toNat)
  | two {first second : UInt8} {character : Char} (large : 0x80 ≤ first.toNat)
      (read : two? first second = some character) : Sequence [first, second] character
  | three {first second third : UInt8} {character : Char} (large : 0xE0 ≤ first.toNat)
      (read : three? first second third = some character) :
      Sequence [first, second, third] character
  | four {first second third fourth : UInt8} {character : Char} (large : 0xF0 ≤ first.toNat)
      (read : four? first second third fourth = some character) :
      Sequence [first, second, third, fourth] character

/-- **A sequence is read**, whatever bytes follow it. -/
theorem Sequence.decode_append {bytes : Bytes} {character : Char} (sequence : Sequence bytes character)
    (rest : Bytes) : decode (bytes ++ rest) = some character :: decode rest := by
  rw [decode.eq_def]
  cases sequence with
  | one ascii => simp only [List.cons_append, List.nil_append, if_pos ascii]
  | two large read =>
      simp only [List.cons_append, List.nil_append, if_neg (not_ascii_of_le large), read]
  | three large read =>
      have notAscii := not_ascii_of_le (Nat.le_trans (by decide) large)
      simp only [List.cons_append, List.nil_append, if_neg notAscii, two?_of_le large, read]
  | four large read =>
      have notAscii := not_ascii_of_le (Nat.le_trans (by decide) large)
      have notTwo := two?_of_le (Nat.le_trans (by decide) large)
      simp only [List.cons_append, List.nil_append, if_neg notAscii, notTwo, three?_of_le large, read]

/-- **Every character is encoded by a sequence.** -/
theorem sequence_utf8EncodeChar (character : Char) :
    Sequence (String.utf8EncodeChar character) character := by
  have bound : character.toNat < 0x110000 := by
    rcases character.valid with low | ⟨-, high⟩
    · exact Nat.lt_trans low (by decide)
    · exact high
  have back := character?_toNat character
  have same : character.val.toNat = character.toNat := rfl
  unfold String.utf8EncodeChar
  simp only [same]
  generalize character.toNat = code at bound back
  -- the four lengths of a sequence, by the size of the code
  split
  · rename_i single
    have value : (UInt8.ofNat code).toNat = code := by
      rw [UInt8.toNat_ofNat']
      omega
    have ascii : UInt8.ofNat code < 0x80 := by
      rw [UInt8.lt_iff_toNat_lt, value]
      exact Nat.lt_succ_of_le single
    have named : Char.ofNat code = character := by
      have valid : code.isValidChar := Or.inl (by omega)
      simpa [character?, valid] using back
    have sequence := Sequence.one ascii
    rw [value, named] at sequence
    exact sequence
  · split
    · have read := two?_encoded (code / 64 % 32) (code % 64) (by omega) (by omega) (by omega)
      have whole : code / 64 % 32 * 64 + code % 64 = code := by omega
      rw [whole, back] at read
      have large : 0x80 ≤ (marked 0xC0 (code / 64 % 32)).toNat := by
        rw [toNat_marked _ _ (by omega)]
        omega
      exact .two large read
    · split
      · have read := three?_encoded (code / 4096 % 16) (code / 64 % 64) (code % 64) (by omega)
          (by omega) (by omega) (by omega)
        have whole : code / 4096 % 16 * 4096 + code / 64 % 64 * 64 + code % 64 = code := by omega
        rw [whole, back] at read
        have large : 0xE0 ≤ (marked 0xE0 (code / 4096 % 16)).toNat := by
          rw [toNat_marked _ _ (by omega)]
          omega
        exact .three large read
      · have read := four?_encoded (code / 262144 % 8) (code / 4096 % 64) (code / 64 % 64)
          (code % 64) (by omega) (by omega) (by omega) (by omega) (by omega)
        have whole : code / 262144 % 8 * 262144 + code / 4096 % 64 * 4096 + code / 64 % 64 * 64 +
            code % 64 = code := by omega
        rw [whole, back] at read
        have large : 0xF0 ≤ (marked 0xF0 (code / 262144 % 8)).toNat := by
          rw [toNat_marked _ _ (by omega)]
          omega
        exact .four large read

/-- **Characters that were written are read back.** -/
theorem decode_encode (characters : List Char) :
    decode (encode characters) = characters.map some := by
  induction characters with
  | nil => rfl
  | cons character rest hyp =>
      rw [encode, List.flatMap_cons, (sequence_utf8EncodeChar character).decode_append]
      exact congrArg (some character :: ·) hyp

/-- Different characters are written differently. -/
theorem encode_inj {first second : List Char} : encode first = encode second ↔ first = second := by
  refine ⟨fun same => ?_, congrArg encode⟩
  have back := congrArg decode same
  rw [decode_encode, decode_encode] at back
  exact (List.map_inj_right fun _ _ => Option.some.inj).mp back

end Provision.Utf8
