/-
**Characters of KDL.**

Which characters are blanks, end lines, make up words, or may not be written at all:

* `isSpace`, `isNewline` and `newline?` tell blanks and line ends;
* `isWordChar` holds of the characters of a word that needs no quotes;
* `isForbidden` holds of the characters that have to be escaped, among which delete is not.
-/

namespace Provision.Kdl

/-- Whether a character is a blank within a line. -/
def isSpace (character : Char) : Bool :=
  let code := character.toNat
  code == 0x09 || code == 0x20 || code == 0xA0 || code == 0x1680 ||
    (0x2000 ≤ code && code ≤ 0x200A) || code == 0x202F || code == 0x205F || code == 0x3000

/-- Whether a character ends a line. -/
def isNewline (character : Char) : Bool :=
  let code := character.toNat
  (0x0A ≤ code && code ≤ 0x0D) || code == 0x85 || code == 0x2028 || code == 0x2029

/-- What follows the end of a line. -/
def newline? : List Char → Option (List Char)
  | '\r' :: '\n' :: rest => some rest
  | first :: rest => if isNewline first then some rest else none
  | [] => none

/-- Whether a character may only be written as an escape. -/
def isForbidden (character : Char) : Bool :=
  let code := character.toNat
  code ≤ 0x08 || (0x0E ≤ code && code ≤ 0x1F) || code == 0x200E || code == 0x200F ||
    (0x202A ≤ code && code ≤ 0x202E) || (0x2066 ≤ code && code ≤ 0x2069) || code == 0xFEFF

/-- The characters that end a word. -/
def isMark (character : Char) : Bool :=
  ['\\', '/', '(', ')', '{', '}', ';', '[', ']', '"', '#', '='].contains character

/-- Whether a character may be part of a word. -/
def isWordChar (character : Char) : Bool :=
  !isSpace character && !isNewline character && !isMark character && !isForbidden character

end Provision.Kdl
