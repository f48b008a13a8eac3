/-
**Numbers there and back.**

A number that is spelled is read up to its end, which what follows makes plain:

* `Ends` holds of what may follow a number;
* `numeral?_print` reads back the numeral of a number.
-/

import Provision.Json.Layout
import Provision.Json.Reader
import Provision.Proofs.Text.Digits

namespace Provision.Json

/-- What may follow a number: nothing, or a character with which no number goes on. -/
structure Ends (rest : Source) : Prop where
  digits : takeDigits rest = ([], rest)
  fraction : fraction? rest = some ([], rest)
  exponent : exponent? rest = some (none, rest)

theorem ends_nil : Ends [] := ⟨rfl, rfl, rfl⟩

theorem ends_cons {character : Char} (digit : character.isDigit = false) (point : character ≠ '.')
    (lower : character ≠ 'e') (upper : character ≠ 'E') (rest : Source) :
    Ends (some character :: rest) where
  digits := by simp [takeDigits, digit]
  fraction := by
    unfold fraction?
    split
    · rename_i same
      exact absurd (Option.some.inj (List.cons.inj same).1) point
    · rfl
  exponent := by simp [exponent?, lower, upper]

theorem takeDigits_append {digits : List Char} (all : ∀ digit ∈ digits, digit.isDigit = true)
    {rest : Source} (stops : takeDigits rest = ([], rest)) :
    takeDigits (digits.map some ++ rest) = (digits, rest) := by
  induction digits with
  | nil => exact stops
  | cons digit others hyp =>
      have further := hyp fun other member => all other (List.mem_cons_of_mem _ member)
      have first := all digit List.mem_cons_self
      rw [List.map_cons, List.cons_append, takeDigits, if_pos first, further]

theorem takeDigits_toDigits (number : Nat) {rest : Source} (stops : takeDigits rest = ([], rest)) :
    takeDigits ((Nat.toDigits 10 number).map some ++ rest) = (Nat.toDigits 10 number, rest) :=
  takeDigits_append (fun _ member => Decimal.isDigit_of_mem_toDigits member) stops

/-- The digits of a number start with a digit. -/
theorem exists_toDigits_cons (number : Nat) : ∃ first others,
    Nat.toDigits 10 number = first :: others ∧ first.isDigit = true := by
  cases digits : Nat.toDigits 10 number with
  | nil => exact absurd digits Nat.toDigits_ne_nil
  | cons first others =>
      have member : first ∈ Nat.toDigits 10 number := by
        rw [digits]
        exact List.mem_cons_self
      exact ⟨first, others, rfl, Decimal.isDigit_of_mem_toDigits member⟩

theorem exponentDigits?_toDigits (negative : Bool) (number : Nat) {rest : Source} (ends : Ends rest) :
    exponentDigits? negative ((Nat.toDigits 10 number).map some ++ rest) =
      some (some (negative, Nat.toDigits 10 number), rest) := by
  rw [exponentDigits?, takeDigits_toDigits number ends.digits]
  obtain ⟨first, others, digits, -⟩ := exists_toDigits_cons number
  rw [digits]

/-- How the exponent of a number is spelled. -/
def exponentText : Option (Bool × Nat) → List Char
  | none => []
  | some (negative, value) => 'e' :: (if negative then ['-'] else []) ++ Nat.toDigits 10 value

/-- An exponent is read to its end. -/
theorem exponent?_exponentText (exponent : Option (Bool × Nat)) {rest : Source} (ends : Ends rest) :
    exponent? ((exponentText exponent).map some ++ rest) =
      some (exponent.map fun written => (written.1, Nat.toDigits 10 written.2), rest) := by
  rcases exponent with _ | ⟨negative, power⟩
  · exact ends.exponent
  · have digits := exponentDigits?_toDigits negative power ends
    cases negative with
    | true =>
        show exponent? (some 'e' :: some '-' :: ((Nat.toDigits 10 power).map some ++ rest)) = _
        simpa [exponent?] using digits
    | false =>
        show exponent? (some 'e' :: ((Nat.toDigits 10 power).map some ++ rest)) = _
        obtain ⟨first, others, spelled, digit⟩ := exists_toDigits_cons power
        have plus : first ≠ '+' := fun same => by simp [same] at digit
        have minus : first ≠ '-' := fun same => by simp [same] at digit
        rw [spelled] at digits
        simpa [exponent?, spelled, plus, minus] using digits

/-- What follows the digits before a point is where they end. -/
theorem exponentText_stops (exponent : Option (Bool × Nat)) {rest : Source} (ends : Ends rest) :
    takeDigits ((exponentText exponent).map some ++ rest) =
        ([], (exponentText exponent).map some ++ rest) ∧
      fraction? ((exponentText exponent).map some ++ rest) =
        some ([], (exponentText exponent).map some ++ rest) := by
  rcases exponent with _ | ⟨negative, power⟩
  · exact ⟨ends.digits, ends.fraction⟩
  · exact ⟨rfl, rfl⟩

theorem unsigned?_toDigits (negative : Bool) (number : Nat) (exponent : Option (Bool × Nat))
    {rest : Source} (ends : Ends rest) :
    unsigned? negative
        ((Nat.toDigits 10 number).map some ++ ((exponentText exponent).map some ++ rest)) =
      some (⟨negative, Nat.toDigits 10 number, [],
        exponent.map fun written => (written.1, Nat.toDigits 10 written.2)⟩, rest) := by
  obtain ⟨stops, whole⟩ := exponentText_stops exponent ends
  have zero : ((Nat.toDigits 10 number).isEmpty || ((Nat.toDigits 10 number).head? == some '0' &&
      (Nat.toDigits 10 number).length != 1)) = false := by
    cases led : (Nat.toDigits 10 number).head? == some '0' with
    | false => simp [Nat.toDigits_ne_nil]
    | true =>
        have single := Decimal.length_of_head?_toDigits number (by simpa using led)
        simp [Nat.toDigits_ne_nil, single]
  rw [unsigned?, takeDigits_toDigits number stops]
  simp [zero, whole, exponent?_exponentText exponent ends]

/-- **A number is read to its end.** -/
theorem numeral?_print (value : Number) {rest : Source} (ends : Ends rest) :
    numeral? (value.numeral.print.map some ++ rest) = some (value.numeral, rest) := by
  -- both kinds of numbers are a sign, digits and perhaps an exponent
  obtain ⟨negative, whole, exponent, spelled⟩ : ∃ (negative : Bool) (whole : Nat)
      (exponent : Option (Bool × Nat)), value.numeral = ⟨negative, Nat.toDigits 10 whole, [],
        exponent.map fun written => (written.1, Nat.toDigits 10 written.2)⟩ := by
    cases value with
    | integer value => exact ⟨_, value.natAbs, none, rfl⟩
    | decimal negative digits exponent =>
        exact ⟨negative, digits, some (decide (exponent < 0), exponent.natAbs), rfl⟩
  have printed : value.numeral.print =
      (if negative then ['-'] else []) ++ (Nat.toDigits 10 whole ++ exponentText exponent) := by
    rw [spelled]
    rcases exponent with _ | ⟨sign, digits⟩ <;> simp [Numeral.print, exponentText]
  have read := unsigned?_toDigits negative whole exponent ends
  rw [printed, spelled]
  cases negative with
  | true =>
      simp only [if_pos, List.map_append, List.append_assoc]
      exact read
  | false =>
      obtain ⟨first, others, digits, digit⟩ := exists_toDigits_cons whole
      have minus : first ≠ '-' := fun same => by simp [same] at digit
      simp only [List.map_append, List.append_assoc]
      unfold numeral?
      split
      · rename_i same
        simp [digits, minus] at same
      · exact read

end Provision.Json
