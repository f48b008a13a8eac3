/-
**Instants.**

A point in time, to the nanosecond, in universal time:

* `Instant.age` is the time from one instant to another, in nanoseconds;
* `Date.days` and `Date.ofDays` count days in the proleptic Gregorian calendar;
* `Instant.text` writes an instant in the form of RFC 3339.
-/

namespace Provision

/-- A point in time. -/
structure Instant where
  /-- Whole seconds since the start of 1970. -/
  seconds : Int
  /-- Nanoseconds of that second; a leap second continues the count beyond 10⁹. -/
  nanos : Nat := 0
  deriving DecidableEq, Repr

/-- A day of the calendar. -/
structure Date where
  year : Int
  month : Nat
  day : Nat
  deriving DecidableEq, Repr

namespace Date

/-- Whether a year has a twenty-ninth of February. -/
def isLeap (year : Int) : Bool := year % 4 == 0 && (year % 100 != 0 || year % 400 == 0)

/-- The number of days of a month. -/
def daysOfMonth (year : Int) (month : Nat) : Nat :=
  match month with
  | 2 => if isLeap year then 29 else 28
  | 4 | 6 | 9 | 11 => 30
  | _ => 31

/-- Whether a month and a day are in the calendar. -/
def isValid (date : Date) : Bool :=
  1 ≤ date.month && date.month ≤ 12 && 1 ≤ date.day && date.day ≤ daysOfMonth date.year date.month

/-- The days from the start of 1970 to a date. Years are counted from March, so that a leap day
ends its year. -/
def days (date : Date) : Int :=
  let year := if date.month ≤ 2 then date.year - 1 else date.year
  let era := year / 400
  let yearOfEra := year % 400
  let month := (date.month + 9) % 12
  let dayOfYear := (153 * month + 2) / 5 + date.day - 1
  era * 146097 + yearOfEra * 365 + yearOfEra / 4 - yearOfEra / 100 + dayOfYear - 719468

/-- The date that is a number of days after the start of 1970. -/
def ofDays (days : Int) : Date :=
  let shifted := days + 719468
  let era := shifted / 146097
  let dayOfEra := (shifted % 146097).toNat
  let yearOfEra := (dayOfEra - dayOfEra / 1460 + dayOfEra / 36524 - dayOfEra / 146096) / 365
  let dayOfYear := dayOfEra - (365 * yearOfEra + yearOfEra / 4 - yearOfEra / 100)
  let month := (5 * dayOfYear + 2) / 153
  let day := dayOfYear - (153 * month + 2) / 5 + 1
  let civil := if month < 10 then month + 3 else month - 9
  ⟨yearOfEra + era * 400 + (if civil ≤ 2 then 1 else 0), civil, day⟩

end Date

namespace Instant

/-- An instant as nanoseconds since the start of 1970. -/
def total (instant : Instant) : Int := instant.seconds * 1000000000 + instant.nanos

/-- The second of the day that an instant is in. -/
def secondOfDay (instant : Instant) : Int := instant.seconds % 86400

/-- Whether an instant is in a leap second. -/
def isLeap (instant : Instant) : Bool := 1000000000 ≤ instant.nanos

/-- The nanoseconds from an instant to a later one. Whichever of the two has more seconds of its day
comes after the leap second that the other is in. -/
def age (instant now : Instant) : Int :=
  let passed := now.total - instant.total
  if instant.secondOfDay < now.secondOfDay ∧ instant.isLeap then passed + 1000000000
  else if now.secondOfDay < instant.secondOfDay ∧ now.isLeap then passed - 1000000000
  else passed

/-- The nanoseconds of an hour. -/
def hour : Int := 3600 * 1000000000

/-- A number in decimal digits, with zeros in front up to a width. -/
def padded (width value : Nat) : List Char :=
  let digits := Nat.toDigits 10 value
  List.replicate (width - digits.length) '0' ++ digits

/-- A year in four digits; one that needs more, or a negative one, has its sign in front. -/
def yearText (year : Int) : List Char :=
  if 0 ≤ year ∧ year ≤ 9999 then padded 4 year.toNat
  else (if year < 0 then '-' else '+') :: padded 4 year.natAbs

/-- The fraction of a second in three, six or nine digits, as few as are exact. -/
def fractionText (nanos : Nat) : List Char :=
  if nanos = 0 then []
  else if nanos % 1000000 = 0 then '.' :: padded 3 (nanos / 1000000)
  else if nanos % 1000 = 0 then '.' :: padded 6 (nanos / 1000)
  else '.' :: padded 9 nanos

/-- Date and time of an instant, without the zone. -/
def clockText (instant : Instant) : List Char :=
  let date := Date.ofDays (instant.seconds / 86400)
  let second := (instant.seconds % 86400).toNat
  let leap := if 1000000000 ≤ instant.nanos then 1 else 0
  yearText date.year ++ '-' :: padded 2 date.month ++ '-' :: padded 2 date.day ++
    'T' :: padded 2 (second / 3600) ++ ':' :: padded 2 (second / 60 % 60) ++
    ':' :: padded 2 (second % 60 + leap) ++ fractionText (instant.nanos % 1000000000)

/-- An instant in the form of RFC 3339, in universal time. -/
def text (instant : Instant) : String := String.ofList (clockText instant ++ ['Z'])

/-- An instant in the form of RFC 3339 with its offset written out. -/
def offsetText (instant : Instant) : String :=
  String.ofList (clockText instant ++ ['+', '0', '0', ':', '0', '0'])

end Instant

end Provision
