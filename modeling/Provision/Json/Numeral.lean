/-
**JSON numbers as they are spelled.**

A number is a sign, digits before and behind a point, and an exponent. Numbers that are no whole
numbers of sixty-four bits have double precision, and those too large for it are refused. Which ones
are is decided by two steps of rounding: the leading digits are taken for as long as they fit into
sixty-four bits, and these digits and the power of ten that they are multiplied with are rounded
before they are multiplied:

* `Numeral.integer?` and `Numeral.number?` read a numeral;
* `Numeral.scaled` is the digits that are taken, and the power of ten;
* `roundSignificant` rounds to the precision of a double;
* `Number.numeral` spells a number.
-/

import Provision.Json.Value

namespace Provision.Json

/-- A number as it is spelled. -/
structure Numeral where
  negative : Bool
  /-- The digits before the point. -/
  whole : List Char
  /-- The digits after the point, empty without a point. -/
  fraction : List Char
  /-- The sign and the digits of the exponent. -/
  exponent : Option (Bool × List Char)
  deriving DecidableEq, Repr

/-! ## Digits -/

/-- A number with a digit behind its digits. -/
def pushDigit (value : Nat) (digit : Char) : Nat := value * 10 + (digit.toNat - '0'.toNat)

/-- The number that decimal digits spell. -/
def digitsValue (digits : List Char) : Nat := digits.foldl pushDigit 0

/-- A number with as many digits behind it as can follow in sixty-four bits, and how many they
are. -/
def pushDigits (value : Nat) : List Char → Nat × Nat
  | [] => (value, 0)
  | digit :: rest =>
    if pushDigit value digit < Nat.pow 2 64 then
      let (pushed, count) := pushDigits (pushDigit value digit) rest
      (pushed, count + 1)
    else (value, 0)

/-! ## Double precision -/

/-- How many binary digits a double keeps. -/
def precision : Nat := 53

/-- The nearest number whose binary digits behind the first fifty-three are zero; of two that are
equally near, the one with an even last digit. -/
def roundSignificant (value : Nat) : Nat :=
  let unit := Nat.pow 2 (value.log2 + 1 - precision)
  let quotient := value / unit
  let twice := 2 * (value % unit)
  (if unit < twice ∨ unit = twice ∧ quotient % 2 = 1 then quotient + 1 else quotient) * unit

/-- The least number that no double is near enough to: half a step above the greatest double. -/
def tooLarge : Nat := Nat.pow 2 1024 - Nat.pow 2 970

/-- The greatest power of ten that is a double. -/
def greatestPower : Nat := 308

/-- Whether digits times a power of ten are too large, each of them rounded. -/
def overflows (digits : Nat) (exponent : Int) : Bool :=
  if digits = 0 ∨ exponent < 0 then false
  else if greatestPower < exponent then true
  else tooLarge ≤ roundSignificant digits * roundSignificant (Nat.pow 10 exponent.toNat)

/-! ## Reading -/

namespace Numeral

/-- The exponent that is spelled. -/
def written (numeral : Numeral) : Int :=
  match numeral.exponent with
  | none => 0
  | some (true, digits) => -(digitsValue digits : Int)
  | some (false, digits) => digitsValue digits

/-- The digits of the numeral before and after the point. -/
def digits (numeral : Numeral) : Nat := digitsValue (numeral.whole ++ numeral.fraction)

/-- The exponent of ten that belongs to all digits. -/
def scale (numeral : Numeral) : Int := numeral.written - numeral.fraction.length

/-- The digits that are taken and the exponent that belongs to them. A digit before the point that
is not taken raises the exponent, one behind it that is taken lowers it. -/
def scaled (numeral : Numeral) : Nat × Int :=
  let (whole, taken) := pushDigits 0 numeral.whole
  let (all, behind) := pushDigits whole numeral.fraction
  (all, numeral.written + (numeral.whole.length - taken : Nat) - behind)

/-- The whole number that a numeral without point and exponent spells. Negative zero is none. -/
def integer? (numeral : Numeral) : Option Int :=
  if numeral.fraction.isEmpty && numeral.exponent.isNone then
    let value := digitsValue numeral.whole
    if numeral.negative then if value = 0 then none else some (-(value : Int)) else some value
  else none

/-- A whole number that fits into sixty-four bits, signed or unsigned. -/
def word? (numeral : Numeral) : Option Int :=
  numeral.integer?.filter fun value => -9223372036854775808 ≤ value ∧ value < 18446744073709551616

/-- The number that a numeral spells, unless it is too large. -/
def number? (numeral : Numeral) : Option Number :=
  match numeral.word? with
  | some value => some (.integer value)
  | none =>
    let (digits, exponent) := numeral.scaled
    if overflows digits exponent then none
    else some (.decimal numeral.negative numeral.digits numeral.scale)

end Numeral

/-! ## Spelling -/

/-- How a number is spelled. -/
def Number.numeral : Number → Numeral
  | .integer value => ⟨value < 0, Nat.toDigits 10 value.natAbs, [], none⟩
  | .decimal negative digits exponent =>
    ⟨negative, Nat.toDigits 10 digits, [],
      some (exponent < 0, Nat.toDigits 10 exponent.natAbs)⟩

end Provision.Json
