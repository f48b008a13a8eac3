/-
**Instants there and back.**

An instant that is written in the form of RFC 3339 is read back:

* `Nameable` holds of the instants that can be written: the day can be named, and a second goes on
  beyond its end only before a full minute;
* `OnClock` holds of those that a clock shows, and `age_eq` is the time between two of them;
* `ofDigits_padded` reads back a number with zeros in front, `digits?_append` finds its end;
* `date?_clock`, `fraction?_fractionText` and `time?_clock` read back the parts;
* `ofText?_text` is the round trip.
-/

import Provision.Instant.Reading
import Provision.Proofs.Instant.Calendar
import Provision.Proofs.Text.Digits

namespace Provision.Instant

/-- An instant that can be written. -/
structure Nameable (instant : Instant) : Prop where
  nanos : instant.nanos < 1000000000 ∨
    instant.seconds % 60 = 59 ∧ instant.nanos < 2 * 1000000000
  day : isDay (instant.seconds / 86400) = true

/-- The instants of the years 0 to 9999 can be written. -/
theorem nameable_of_bounds {instant : Instant} (first : -62167219200 ≤ instant.seconds)
    (last : instant.seconds < 253402300800) (nanos : instant.nanos < 1000000000) : instant.Nameable where
  nanos := .inl nanos
  day := by
    have before : firstDay ≤ -719528 := by decide
    have after : 2932896 ≤ lastDay := by decide
    simp only [isDay, Bool.and_eq_true, decide_eq_true_eq]
    omega

/-! ### Clocks -/

/-- An instant that a clock shows: it can be written, and clocks know no leap seconds. -/
structure OnClock (instant : Instant) : Prop extends instant.Nameable where
  plain : instant.nanos < 1000000000

/-- An instant in a leap second is on no clock. -/
theorem OnClock.isLeap_eq {instant : Instant} (onClock : instant.OnClock) : instant.isLeap = false :=
  decide_eq_false (Nat.not_le_of_lt onClock.plain)

/-- **Between times of a clock** the age is the difference. -/
theorem age_eq {instant now : Instant} (onClock : instant.OnClock) (onClock' : now.OnClock) :
    instant.age now = now.total - instant.total := by
  simp [age, onClock.isLeap_eq, onClock'.isLeap_eq]

/-- From a leap second to the last second of the next hour it is an hour. -/
example : age ⟨10799, 1000000000⟩ ⟨14399, 0⟩ = hour := by decide

/-! ### Numbers -/

/-- Characters with which no number goes on. -/
def Stops (rest : List Char) : Prop := rest.takeWhile Char.isDigit = []

theorem stops_cons {character : Char} (letter : character.isDigit = false) (rest : List Char) :
    Stops (character :: rest) := by
  rw [Stops, List.takeWhile_cons_of_neg (by simp [letter])]

theorem isDigit_of_mem_padded {width value : Nat} {digit : Char}
    (member : digit ∈ padded width value) : digit.isDigit = true := by
  rcases List.mem_append.mp member with zero | written
  · rw [List.eq_of_mem_replicate zero]
    rfl
  · exact Decimal.isDigit_of_mem_toDigits written

theorem padded_ne_nil (width value : Nat) : padded width value ≠ [] :=
  List.append_ne_nil_of_right_ne_nil _ Nat.toDigits_ne_nil

theorem length_padded (width value : Nat) (positive : 0 < width) (fits : value < Nat.pow 10 width) :
    (padded width value).length = width := by
  have short := (Nat.length_toDigits_le_iff (n := value) (b := 10) (by decide) positive).mpr fits
  simp only [padded, List.length_append, List.length_replicate]
  omega

/-- **Zeros in front do not matter.** -/
theorem ofDigits_padded (width value : Nat) : ofDigits (padded width value) = value := by
  unfold ofDigits padded
  rw [List.foldl_append, Decimal.foldl_replicate_zero]
  exact Decimal.foldl_toDigits value

theorem leadingDigits_append {limit : Nat} {digits rest : List Char}
    (all : ∀ digit ∈ digits, digit.isDigit = true) (fits : digits.length ≤ limit)
    (ends : digits.length = limit ∨ Stops rest) : leadingDigits limit (digits ++ rest) = digits := by
  have behind : (rest.take (limit - digits.length)).takeWhile Char.isDigit = [] := by
    rcases ends with full | stops
    · rw [full, Nat.sub_self, List.take_zero]
      rfl
    · cases rest with
      | nil => simp
      | cons character more =>
          cases limit - digits.length with
          | zero => rfl
          | succ count =>
              cases digit : character.isDigit with
              | false => simp [digit]
              | true => simp [Stops, digit] at stops
  rw [leadingDigits, List.take_append, List.take_of_length_le fits, List.takeWhile_append_of_pos all,
    behind, List.append_nil]

/-- **A number is read to its end.** -/
theorem digits?_append {limit : Nat} {digits rest : List Char} (some : digits ≠ [])
    (all : ∀ digit ∈ digits, digit.isDigit = true) (fits : digits.length ≤ limit)
    (ends : digits.length = limit ∨ Stops rest) :
    digits? limit (digits ++ rest) = .some (ofDigits digits, rest) := by
  have read := leadingDigits_append all fits ends
  simp only [digits?, read, List.isEmpty_iff, if_neg some, List.drop_left]

theorem isBlankChar_of_isDigit {character : Char} (digit : character.isDigit = true) :
    Text.isBlankChar character = false := by
  rw [Char.isDigit_iff_toNat] at digit
  have zero : '0'.toNat = 48 := rfl
  have nine : '9'.toNat = 57 := rfl
  simp only [Text.isBlankChar, Bool.or_eq_false_iff, Bool.and_eq_false_iff, decide_eq_false_iff_not,
    beq_eq_false_iff_ne]
  omega

theorem skipBlanks_cons {character : Char} (visible : Text.isBlankChar character = false)
    (rest : List Char) : skipBlanks (character :: rest) = character :: rest := by
  rw [skipBlanks, List.dropWhile_cons_of_neg (by simp [visible])]

/-- Numbers with zeros in front start with a digit. -/
theorem exists_padded_cons (width value : Nat) :
    ∃ first others, padded width value = first :: others ∧ first.isDigit = true := by
  cases digits : padded width value with
  | nil => exact absurd digits (padded_ne_nil width value)
  | cons first others =>
      have member : first ∈ padded width value := by
        rw [digits]
        exact List.mem_cons_self
      exact ⟨first, others, rfl, isDigit_of_mem_padded member⟩

theorem skipBlanks_padded (width value : Nat) (rest : List Char) :
    skipBlanks (padded width value ++ rest) = padded width value ++ rest := by
  obtain ⟨first, others, digits, digit⟩ := exists_padded_cons width value
  rw [digits]
  exact skipBlanks_cons (isBlankChar_of_isDigit digit) _

/-- A number of two digits is read. -/
theorem field?_padded (value : Nat) (fits : value < 100) (rest : List Char) :
    field? (padded 2 value ++ rest) = some (value, rest) := by
  have length := length_padded 2 value (by decide) fits
  rw [field?, skipBlanks_padded, digits?_append (padded_ne_nil 2 value)
    (fun _ member => isDigit_of_mem_padded member) (Nat.le_of_eq length) (.inl length),
    ofDigits_padded]

/-- A separator is passed. -/
theorem after?_cons {separator : Char} (visible : Text.isBlankChar separator = false)
    (rest : List Char) : after? separator (separator :: rest) = some rest := by
  rw [after?, skipBlanks_cons visible]
  exact if_pos rfl

/-! ### Parts -/

/-- **A year is read to its end**, with or without its sign. -/
theorem year?_yearText (year : Int) {rest : List Char} (stops : Stops rest) :
    year? (yearText year ++ rest) = some (year, rest) := by
  have digits (value : Nat) : ∀ digit ∈ padded 4 value, digit.isDigit = true :=
    fun _ member => isDigit_of_mem_padded member
  have signed (value : Nat) :
      digits? (padded 4 value ++ rest).length (padded 4 value ++ rest) = some (value, rest) := by
    rw [digits?_append (padded_ne_nil 4 value) (digits value) (by simp) (.inr stops),
      ofDigits_padded]
  unfold yearText
  split
  · rename_i plain
    have length := length_padded 4 year.toNat (by decide) (show year.toNat < 10000 by omega)
    have read : digits? 4 (padded 4 year.toNat ++ rest) = some (ofDigits (padded 4 year.toNat), rest) :=
      digits?_append (padded_ne_nil 4 year.toNat) (digits year.toNat) (Nat.le_of_eq length)
        (.inl length)
    obtain ⟨first, others, spelled, digit⟩ := exists_padded_cons 4 year.toNat
    have minus : first ≠ '-' := fun same => by simp [same] at digit
    have plus : first ≠ '+' := fun same => by simp [same] at digit
    unfold year?
    rw [skipBlanks_padded]
    split
    · rename_i same
      rw [spelled] at same
      exact absurd (List.cons.inj same).1 minus
    · rename_i same
      rw [spelled] at same
      exact absurd (List.cons.inj same).1 plus
    · have back : (year.toNat : Int) = year := by omega
      simp only [read, ofDigits_padded, Option.map_some, back]
  · by_cases negative : year < 0
    · have back : -(year.natAbs : Int) = year := by omega
      rw [if_pos negative, List.cons_append]
      show (digits? _ _).map _ = _
      simp only [signed, Option.map_some, back]
    · have back : (year.natAbs : Int) = year := by omega
      rw [if_neg negative, List.cons_append]
      show (digits? _ _).map _ = _
      simp only [signed, Option.map_some, back]

/-- How a date is written. -/
def dateText (date : Date) : List Char :=
  yearText date.year ++ '-' :: padded 2 date.month ++ '-' :: padded 2 date.day

/-- **A date of the calendar is read to its end.** -/
theorem date?_dateText {date : Date} (valid : date.isValid = true) (rest : List Char) :
    date? (dateText date ++ rest) = some (date, rest) := by
  have parts := valid
  simp only [Date.isValid, Bool.and_eq_true, decide_eq_true_eq] at parts
  have long : Date.daysOfMonth date.year date.month ≤ 31 := by
    unfold Date.daysOfMonth
    split
    · split <;> omega
    all_goals omega
  have month := field?_padded date.month (by omega) ('-' :: (padded 2 date.day ++ rest))
  have day := field?_padded date.day (by omega) rest
  have year := year?_yearText date.year
    (stops_cons (rfl : '-'.isDigit = false) (padded 2 date.month ++ '-' :: (padded 2 date.day ++ rest)))
  have dash := fun more => after?_cons (rfl : Text.isBlankChar '-' = false) more
  have source : dateText date ++ rest = yearText date.year ++ '-' :: (padded 2 date.month ++ '-' ::
      (padded 2 date.day ++ rest)) := by
    simp [dateText]
  rw [date?, source, year]
  simp only [Option.bind_eq_bind, Option.bind_some, dash, month, day]
  exact if_pos valid

/-- A fraction of as many digits as it is written with. -/
theorem fraction?_padded {width value unit : Nat} (positive : 0 < width) (most : width ≤ 9)
    (fits : value < Nat.pow 10 width) (scale : Nat.pow 10 (9 - width) = unit) {rest : List Char}
    (stops : Stops rest) (ends : rest.dropWhile Char.isDigit = rest) :
    fraction? ('.' :: (padded width value ++ rest)) = some (value * unit, rest) := by
  have length := length_padded width value positive fits
  have digits : ∀ digit ∈ padded width value, digit.isDigit = true :=
    fun _ member => isDigit_of_mem_padded member
  have read := leadingDigits_append digits (length ▸ most) (.inr stops)
  rw [fraction?, read]
  simp only [List.isEmpty_iff, if_neg (padded_ne_nil width value), ofDigits_padded, length,
    List.dropWhile_append_of_pos digits, ends, scale]

/-- **A fraction of a second is read to its end.** -/
theorem fraction?_fractionText {nanos : Nat} (fits : nanos < 1000000000) :
    fraction? (fractionText nanos ++ ['Z']) = some (nanos, ['Z']) := by
  have stops : Stops ['Z'] := rfl
  unfold fractionText
  split
  · rename_i none
    rw [none]
    rfl
  · split
    · have short : nanos / 1000000 < 1000 := by omega
      have whole : nanos / 1000000 * 1000000 = nanos := by omega
      have scale : Nat.pow 10 (9 - 3) = 1000000 := rfl
      rw [List.cons_append, fraction?_padded (by decide) (by decide) short scale stops rfl, whole]
    · split
      · have short : nanos / 1000 < 1000000 := by omega
        have whole : nanos / 1000 * 1000 = nanos := by omega
        have scale : Nat.pow 10 (9 - 6) = 1000 := rfl
        rw [List.cons_append, fraction?_padded (by decide) (by decide) short scale stops rfl, whole]
      · have scale : Nat.pow 10 (9 - 9) = 1 := rfl
        rw [List.cons_append, fraction?_padded (by decide) (by decide) fits scale stops rfl,
          Nat.mul_one]

/-- How a time of day is written. -/
def timeText (hour minute second nanos : Nat) : List Char :=
  padded 2 hour ++ ':' :: padded 2 minute ++ ':' :: padded 2 second ++ fractionText nanos

/-- **A time of day is read to its end.** Second 60 is read as a leap second. -/
theorem time?_timeText {hour minute second nanos : Nat} (hours : hour ≤ 23) (minutes : minute ≤ 59)
    (seconds : second ≤ 60) (fits : nanos < 1000000000) :
    time? (timeText hour minute second nanos ++ ['Z']) =
      some (if second = 60 then (hour * 3600 + minute * 60 + 59, nanos + 1000000000, ['Z'])
        else (hour * 3600 + minute * 60 + second, nanos, ['Z'])) := by
  have fraction := fraction?_fractionText fits
  have third := field?_padded second (by omega) (fractionText nanos ++ ['Z'])
  have second' := field?_padded minute (by omega)
    (':' :: (padded 2 second ++ (fractionText nanos ++ ['Z'])))
  have first := field?_padded hour (by omega)
    (':' :: (padded 2 minute ++ ':' :: (padded 2 second ++ (fractionText nanos ++ ['Z']))))
  have colon := fun more => after?_cons (rfl : Text.isBlankChar ':' = false) more
  have source : timeText hour minute second nanos ++ ['Z'] = padded 2 hour ++ ':' ::
      (padded 2 minute ++ ':' :: (padded 2 second ++ (fractionText nanos ++ ['Z']))) := by
    simp [timeText]
  have inside : ¬(23 < hour ∨ 59 < minute ∨ 60 < second) := by omega
  rw [time?, source, first]
  simp only [Option.bind_eq_bind, Option.bind_some, colon, second', third, fraction,
    if_neg inside]
  split <;> rfl

/-- The time of day of an instant is read back, a leap second as such. -/
theorem time?_clock {instant : Instant} (nameable : instant.Nameable) :
    time? (timeText ((instant.seconds % 86400).toNat / 3600)
        ((instant.seconds % 86400).toNat / 60 % 60)
        ((instant.seconds % 86400).toNat % 60 + if 1000000000 ≤ instant.nanos then 1 else 0)
        (instant.nanos % 1000000000) ++ ['Z']) =
      some ((instant.seconds % 86400).toNat, instant.nanos, ['Z']) := by
  have seconds : (instant.seconds % 86400).toNat < 86400 := by omega
  rcases nameable.nanos with plain | ⟨last, leap⟩
  · rw [if_neg (by omega), Nat.mod_eq_of_lt plain,
      time?_timeText (by omega) (by omega) (by omega) plain, if_neg (by omega)]
    congr 2
    omega
  · by_cases goesOn : 1000000000 ≤ instant.nanos
    · rw [if_pos goesOn, time?_timeText (by omega) (by omega) (by omega) (by omega), if_pos (by omega)]
      congr 2
      · omega
      · congr 1
        omega
    · rw [if_neg goesOn, time?_timeText (by omega) (by omega) (by omega) (by omega),
        if_neg (by omega)]
      congr 2
      · omega
      · congr 1
        omega

/-- **An instant that was written is read back.** -/
theorem ofText?_text {instant : Instant} (nameable : instant.Nameable) :
    ofText? instant.text = some instant := by
  have date := date?_dateText (Date.isValid_ofDays (instant.seconds / 86400))
  have days := Date.days_ofDays (instant.seconds / 86400)
  have time := time?_clock nameable
  have whole : instant.seconds / 86400 * 86400 + (instant.seconds % 86400).toNat - 0 =
      instant.seconds := by omega
  have source : instant.text.toList =
      dateText (Date.ofDays (instant.seconds / 86400)) ++ 'T' ::
        (timeText ((instant.seconds % 86400).toNat / 3600)
          ((instant.seconds % 86400).toNat / 60 % 60)
          ((instant.seconds % 86400).toNat % 60 + if 1000000000 ≤ instant.nanos then 1 else 0)
          (instant.nanos % 1000000000) ++ ['Z']) := by
    simp [text, clockText, dateText, timeText]
  have offset : offset? (skipBlanks ['Z']) = some (0, []) := rfl
  rw [ofText?, source, ofChars?, date]
  simp only [Option.bind_eq_bind, Option.bind_some, time, offset, days, whole, nameable.day]
  rfl

end Provision.Instant
