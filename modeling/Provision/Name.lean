/-
**Names of resources.**

A name is a function of the landing zone's identifier and of a number that counts the names drawn
before it, so whoever deploys the same landing zone draws the same names in the same order:

* `hashed` is the byte string behind a name, the identifier and the number with a colon between;
* `name` is `lz` and the hexadecimal digest of that string, cut to a length;
* `NameSequence` counts, and `NameSequence.next` draws one name.
-/

import Provision.Sha256

namespace Provision

namespace Naming

/-- What every name starts with. -/
def mark : String := "lz"

/-- No name is shorter. -/
def minimumLength : Nat := 5

/-- The length that a name is cut to where nothing else is asked for. -/
def defaultLength : Nat := 64

/-- The bytes that are hashed for the name with a given number.

The digits of a number hold no colon, so the last colon separates the two parts. -/
def hashed (zone : String) (number : Nat) : Bytes :=
  Utf8.encode (zone.toList ++ ':' :: Nat.toDigits 10 number)

/-- The two hexadecimal digits of a byte. -/
def hexDigits (byte : UInt8) : List Char :=
  [Nat.digitChar (byte.toNat / 16), Nat.digitChar (byte.toNat % 16)]

/-- A byte string in lower-case hexadecimal. -/
def hex (bytes : Bytes) : List Char := bytes.flatMap hexDigits

/-- The longest name with a given number. -/
def fullName (zone : String) (number : Nat) : List Char :=
  mark.toList ++ hex (Sha256.digest (hashed zone number))

/-- The name with a given number, cut to a length that is never below the minimum. -/
def name (zone : String) (number : Nat) (length : Nat) : String :=
  String.ofList ((fullName zone number).take (max length minimumLength))

end Naming

/-- The names of one landing zone, drawn one after the other. -/
structure NameSequence where
  /-- The landing zone's identifier. -/
  zone : String
  /-- The number of the next name; the count starts over after 2⁶⁴ names. -/
  number : UInt64 := 0
  deriving DecidableEq, Repr

namespace NameSequence

/-- The next name, cut to a length, and the sequence after it. -/
def next (names : NameSequence) (length : Nat) : String × NameSequence :=
  (Naming.name names.zone names.number.toNat length, { names with number := names.number + 1 })

/-- The sequence from its start. -/
def reset (names : NameSequence) : NameSequence := { names with number := 0 }

/-- Several names in a row, each cut to the same length. -/
def many : Nat → NameSequence → Nat → List String × NameSequence
  | 0, names, _ => ([], names)
  | count + 1, names, length =>
    let (drawn, rest) := names.next length
    let (others, last) := many count rest length
    (drawn :: others, last)

end NameSequence

end Provision
