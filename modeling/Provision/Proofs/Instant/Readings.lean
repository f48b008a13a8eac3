/-
**Instants that are read can be written.**

Whatever text an instant is read from, it can be written again:

* `fraction?_lt`: the digits behind a point spell less than a second;
* `minutes_of_offset?`: an offset is a number of minutes, so that a leap second stays the last of one;
* **`nameable_of_ofText?`** — the instant can be written.
-/

import Provision.Proofs.Instant.Texts

namespace Provision.Instant

theorem digit_le {digit : Char} (decimal : digit.isDigit = true) : digit.toNat - '0'.toNat ≤ 9 := by
  rw [Char.isDigit_iff_toNat] at decimal
  have zero : '0'.toNat = 48 := rfl
  have nine : '9'.toNat = 57 := rfl
  omega

/-- Digits spell less than the power of ten behind them. -/
theorem ofDigits_lt {digits : List Char} (all : ∀ digit ∈ digits, digit.isDigit = true) :
    ofDigits digits < Nat.pow 10 digits.length := by
  have further (value : Nat) :
      digits.foldl (fun value digit => value * 10 + (digit.toNat - '0'.toNat)) value <
        (value + 1) * Nat.pow 10 digits.length := by
    induction digits generalizing value with
    | nil => simp
    | cons digit rest hyp =>
        obtain ⟨own, others⟩ := List.forall_mem_cons.mp all
        have step := hyp others (value * 10 + (digit.toNat - '0'.toNat))
        have small := digit_le own
        calc _ < (value * 10 + (digit.toNat - '0'.toNat) + 1) * Nat.pow 10 rest.length := step
          _ ≤ ((value + 1) * 10) * Nat.pow 10 rest.length := Nat.mul_le_mul_right _ (by omega)
          _ = (value + 1) * (Nat.pow 10 rest.length * 10) := by rw [Nat.mul_assoc, Nat.mul_comm 10]
          _ = (value + 1) * Nat.pow 10 (digit :: rest).length := rfl
  have whole := further 0
  rwa [Nat.zero_add, Nat.one_mul] at whole

/-- Less than a second is behind the point. -/
theorem fraction?_lt {characters rest : List Char} {nanos : Nat}
    (read : fraction? characters = some (nanos, rest)) : nanos < 1000000000 := by
  unfold fraction? at read
  split at read
  next behind =>
    simp only at read
    split at read
    · cases read
    cases read
    have all : ∀ digit ∈ leadingDigits 9 behind, digit.isDigit = true :=
      List.all_eq_true.mp List.all_takeWhile
    have short : (leadingDigits 9 behind).length ≤ 9 :=
      Nat.le_trans (List.takeWhile_prefix _).length_le (List.length_take_le 9 behind)
    calc ofDigits (leadingDigits 9 behind) * Nat.pow 10 (9 - (leadingDigits 9 behind).length)
        < Nat.pow 10 (leadingDigits 9 behind).length * Nat.pow 10 (9 - (leadingDigits 9 behind).length) :=
          Nat.mul_lt_mul_of_pos_right (ofDigits_lt all) (Nat.pow_pos (by decide))
      _ = Nat.pow 10 ((leadingDigits 9 behind).length + (9 - (leadingDigits 9 behind).length)) :=
          (Nat.pow_add 10 _ _).symm
      _ = 1000000000 := by rw [Nat.add_sub_cancel' short]
  · cases read
    decide

/-- A second goes on beyond its end only as the last one of a minute. -/
theorem time?_nanos {characters rest : List Char} {second nanos : Nat}
    (read : time? characters = some (second, nanos, rest)) :
    nanos < 1000000000 ∨ second % 60 = 59 ∧ nanos < 2 * 1000000000 := by
  unfold time? at read
  simp only [Option.bind_eq_bind, Option.bind_eq_some_iff] at read
  obtain ⟨hour, -, _, -, minute, -, _, -, last, -, fraction, point, read⟩ := read
  have small := fraction?_lt point
  split at read
  · cases read
  split at read
  · cases read
    right
    omega
  · cases read
    exact .inl small

theorem minutes_of_offsetSeconds? {characters rest : List Char} {seconds : Nat}
    (read : offsetSeconds? characters = some (seconds, rest)) : seconds % 60 = 0 := by
  unfold offsetSeconds? at read
  split at read
  · split at read
    · split at read
      · split at read
        · cases read
          omega
        · cases read
      · cases read
    · cases read
  · cases read

/-- An offset is a number of minutes. -/
theorem minutes_of_offset? {characters rest : List Char} {offset : Int}
    (read : offset? characters = some (offset, rest)) : offset % 60 = 0 := by
  unfold offset? at read
  split at read
  · cases read
    rfl
  · cases read
    rfl
  · obtain ⟨⟨seconds, _⟩, known, same⟩ := Option.map_eq_some_iff.mp read
    cases same
    have minutes := minutes_of_offsetSeconds? known
    omega
  · obtain ⟨⟨seconds, _⟩, known, same⟩ := Option.map_eq_some_iff.mp read
    cases same
    have minutes := minutes_of_offsetSeconds? known
    omega
  · obtain ⟨⟨seconds, _⟩, known, same⟩ := Option.map_eq_some_iff.mp read
    cases same
    have minutes := minutes_of_offsetSeconds? known
    omega
  · split at read
    · cases read
      rfl
    · cases read
  · cases read

/-- What is made of a date and what stands behind it. -/
theorem nameable_of_parts {date : Date} {rest : List Char} {instant : Instant}
    (read : (do
      let (second, nanos, rest) ← time? rest
      let (offset, rest) ← offset? (skipBlanks rest)
      let seconds := date.days * 86400 + second - offset
      if (skipBlanks rest).isEmpty && offset.natAbs < 86400 && isDay date.days &&
          isDay (seconds / 86400) then
        pure ⟨seconds, nanos⟩
      else none : Option Instant) = some instant) : instant.Nameable := by
  simp only [Option.bind_eq_bind, Option.bind_eq_some_iff] at read
  obtain ⟨⟨second, nanos, behind⟩, time, ⟨offset, last⟩, zone, read⟩ := read
  split at read
  next fits =>
    cases read
    simp only [Bool.and_eq_true] at fits
    refine ⟨?_, fits.2⟩
    have minutes := minutes_of_offset? zone
    rcases time?_nanos time with small | ⟨ends, small⟩
    · exact .inl small
    · refine .inr ⟨?_, small⟩
      show (date.days * 86400 + (second : Int) - offset) % 60 = 59
      omega
  · cases read

/-- **An instant that was read can be written.** -/
theorem nameable_of_ofText? {text : String} {instant : Instant} (read : ofText? text = some instant) :
    instant.Nameable := by
  unfold ofText? ofChars? at read
  obtain ⟨⟨date, behind⟩, -, read⟩ := Option.bind_eq_some_iff.mp read
  simp only at read
  split at read
  · exact nameable_of_parts read
  · exact nameable_of_parts read
  · exact nameable_of_parts read
  · cases read

end Provision.Instant
