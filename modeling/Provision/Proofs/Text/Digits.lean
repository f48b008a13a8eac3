/-
**Decimal digits.**

Numbers that are written in decimal digits are read back:

* `isDigit_of_mem_toDigits` and `length_of_head?_toDigits` say what the digits of a number look like;
* `foldl_toDigits` reads them back, `foldl_replicate_zero` also with zeros in front;
* `toDigits_inj` says that different numbers have different digits.
-/

namespace Provision.Decimal

theorem isDigit_of_mem_toDigits {number : Nat} {digit : Char}
    (member : digit ∈ Nat.toDigits 10 number) : digit.isDigit = true :=
  Nat.isDigit_of_mem_toDigits (by decide) (by decide) member

/-- The digits of a number start with a zero only when there is no other digit. -/
theorem length_of_head?_toDigits (number : Nat)
    (zero : (Nat.toDigits 10 number).head? = some '0') : (Nat.toDigits 10 number).length = 1 := by
  induction number using Nat.strongRecOn with
  | ind number hyp =>
      rw [Nat.toDigits_eq_if (by decide)] at zero ⊢
      split
      · rfl
      · rename_i large
        exfalso
        rw [if_neg large, List.head?_append] at zero
        cases front : Nat.toDigits 10 (number / 10) with
        | nil => exact Nat.toDigits_ne_nil front
        | cons digit others =>
            rw [front, List.head?_cons, Option.some_or, Option.some.injEq] at zero
            have single := hyp (number / 10) (by omega) (by rw [front, zero]; rfl)
            rw [front, List.length_cons, Nat.add_eq_right, List.length_eq_zero_iff] at single
            -- the digits in front would be those of zero
            have back := Nat.ofDigitChars_ten_toDigits (n := number / 10)
            rw [front, single, zero] at back
            simp [Nat.ofDigitChars] at back
            omega

/-- **Digits are read back.** -/
theorem foldl_toDigits (number : Nat) :
    (Nat.toDigits 10 number).foldl (fun value digit => value * 10 + (digit.toNat - '0'.toNat)) 0 =
      number := by
  have back := Nat.ofDigitChars_ten_toDigits (n := number)
  rw [Nat.ofDigitChars_eq_foldl] at back
  simp only [Nat.mul_comm 10] at back
  exact back

theorem foldl_replicate_zero (count : Nat) :
    (List.replicate count '0').foldl (fun value digit => value * 10 + (digit.toNat - '0'.toNat)) 0 =
      0 := by
  induction count with
  | zero => rfl
  | succ count hyp => exact hyp

/-- Different numbers are written differently. -/
theorem toDigits_inj {number other : Nat} :
    Nat.toDigits 10 number = Nat.toDigits 10 other ↔ number = other := by
  refine ⟨fun same => ?_, congrArg (Nat.toDigits 10)⟩
  rw [← foldl_toDigits number, same, foldl_toDigits]

end Provision.Decimal
