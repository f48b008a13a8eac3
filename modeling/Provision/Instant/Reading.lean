/-
**Reading instants.**

Times are accepted in the form of RFC 3339 and somewhat beyond: numbers may lack their leading zeros,
blanks may stand before a number, before a separator and around the zone, the zone may be `UTC`, and
the minus sign of an offset may be the typographic one.

* `date?`, `time?` and `offset?` read the three parts;
* `ofText?` is the instant that a whole text spells.
-/

import Provision.Instant.Basic
import Provision.Text.Blank

namespace Provision.Instant

/-- Characters without the blanks in front of them. -/
def skipBlanks (characters : List Char) : List Char := characters.dropWhile Text.isBlankChar

/-- The digits in front, at most `limit` of them. -/
def leadingDigits (limit : Nat) (characters : List Char) : List Char :=
  (characters.take limit).takeWhile Char.isDigit

/-- The number that digits spell. -/
def ofDigits (digits : List Char) : Nat :=
  digits.foldl (fun value digit => value * 10 + (digit.toNat - '0'.toNat)) 0

/-- A number of at most `limit` digits, and what follows it. -/
def digits? (limit : Nat) (characters : List Char) : Option (Nat × List Char) :=
  let digits := leadingDigits limit characters
  if digits.isEmpty then none else some (ofDigits digits, characters.drop digits.length)

/-- A number of one or two digits after blanks, and what follows it. -/
def field? (characters : List Char) : Option (Nat × List Char) := digits? 2 (skipBlanks characters)

/-- A year after blanks, and what follows it; with a sign it may have any number of digits. -/
def year? (characters : List Char) : Option (Int × List Char) :=
  match skipBlanks characters with
  | '-' :: rest => (digits? rest.length rest).map fun (value, after) => (-(value : Int), after)
  | '+' :: rest => (digits? rest.length rest).map fun (value, after) => ((value : Int), after)
  | rest => (digits? 4 rest).map fun (value, after) => ((value : Int), after)

/-- What follows a separator, before which blanks may stand. -/
def after? (separator : Char) (characters : List Char) : Option (List Char) :=
  match skipBlanks characters with
  | first :: rest => if first = separator then some rest else none
  | [] => none

/-- A date of the calendar, and what follows it. -/
def date? (characters : List Char) : Option (Date × List Char) := do
  let (year, rest) ← year? characters
  let rest ← after? '-' rest
  let (month, rest) ← field? rest
  let rest ← after? '-' rest
  let (day, rest) ← field? rest
  let date : Date := ⟨year, month, day⟩
  if date.isValid then pure (date, rest) else none

/-- The nanoseconds that the digits after a point spell; those after the ninth do not count. -/
def fraction? : List Char → Option (Nat × List Char)
  | '.' :: rest =>
    let digits := leadingDigits 9 rest
    if digits.isEmpty then none
    else some (ofDigits digits * Nat.pow 10 (9 - digits.length), rest.dropWhile Char.isDigit)
  | rest => some (0, rest)

/-- A time of day as seconds and nanoseconds, and what follows it. Second 60 is a leap second. -/
def time? (characters : List Char) : Option (Nat × Nat × List Char) := do
  let (hour, rest) ← field? characters
  let rest ← after? ':' rest
  let (minute, rest) ← field? rest
  let rest ← after? ':' rest
  let (second, rest) ← field? rest
  let (nanos, rest) ← fraction? rest
  if 23 < hour ∨ 59 < minute ∨ 60 < second then none
  else if second = 60 then pure (hour * 3600 + minute * 60 + 59, nanos + 1000000000, rest)
  else pure (hour * 3600 + minute * 60 + second, nanos, rest)

/-- Hours and minutes of an offset as seconds, and what follows them. -/
def offsetSeconds? : List Char → Option (Nat × List Char)
  | first :: second :: rest =>
    if first.isDigit && second.isDigit then
      match rest.dropWhile fun character => character == ':' || Text.isBlankChar character with
      | third :: fourth :: after =>
        if third.isDigit && fourth.isDigit && third < '6' then
          some (ofDigits [first, second] * 3600 + ofDigits [third, fourth] * 60, after)
        else none
      | _ => none
    else none
  | _ => none

/-- The offset of a zone in seconds, and what follows it. -/
def offset? (characters : List Char) : Option (Int × List Char) :=
  match characters with
  | 'Z' :: rest | 'z' :: rest => some (0, rest)
  | '+' :: rest => (offsetSeconds? rest).map fun (value, after) => ((value : Int), after)
  | '-' :: rest | '−' :: rest =>
    (offsetSeconds? rest).map fun (value, after) => (-(value : Int), after)
  | first :: second :: third :: rest =>
    if [first, second, third].map Char.toUpper = ['U', 'T', 'C'] then some (0, rest) else none
  | _ => none

/-- The first day that can be named. -/
def firstDay : Int := Date.days ⟨-262143, 1, 1⟩

/-- The last day that can be named. -/
def lastDay : Int := Date.days ⟨262142, 12, 31⟩

/-- Whether a day can be named. -/
def isDay (day : Int) : Bool := firstDay ≤ day && day ≤ lastDay

/-- The instant that characters spell. -/
def ofChars? (characters : List Char) : Option Instant := do
  let (date, rest) ← date? characters
  let rest ← match rest with
    | 't' :: rest | 'T' :: rest | ' ' :: rest => some rest
    | _ => none
  let (second, nanos, rest) ← time? rest
  let (offset, rest) ← offset? (skipBlanks rest)
  let seconds := date.days * 86400 + second - offset
  if (skipBlanks rest).isEmpty && offset.natAbs < 86400 && isDay date.days &&
      isDay (seconds / 86400) then
    pure ⟨seconds, nanos⟩
  else none

/-- The instant that a text spells. -/
def ofText? (text : String) : Option Instant := ofChars? text.toList

end Provision.Instant
