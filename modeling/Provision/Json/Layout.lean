/-
**Laying out JSON text.**

Files and reports hold JSON with one item or member on a line, two blanks further in than what
encloses it; answers on a single line do without blanks:

* `pretty` is the layout over several lines;
* `compact` is the layout on one line.
-/

import Provision.Json.Tree

namespace Provision.Json

/-- A text as a string with its quotes. -/
def quoted (text : String) : List Char := '"' :: spellText text ++ ['"']

/-- A number as text. -/
def Numeral.print (numeral : Numeral) : List Char :=
  (if numeral.negative then ['-'] else []) ++ numeral.whole ++
    (if numeral.fraction.isEmpty then [] else '.' :: numeral.fraction) ++
    match numeral.exponent with
    | none => []
    | some (negative, digits) => 'e' :: (if negative then ['-'] else []) ++ digits

/-- A new line, indented to a level. -/
def newLine (level : Nat) : List Char := '\n' :: List.replicate (2 * level) ' '

mutual

/-- A value over several lines, at a level of indentation. -/
def prettyAt (level : Nat) : Json → List Char
  | .null => ['n', 'u', 'l', 'l']
  | .bool true => ['t', 'r', 'u', 'e']
  | .bool false => ['f', 'a', 'l', 's', 'e']
  | .number value => value.numeral.print
  | .string text => quoted text
  | .array [] => ['[', ']']
  | .array (item :: rest) =>
    '[' :: newLine (level + 1) ++ prettyAt (level + 1) item ++ prettyItems (level + 1) rest ++
      newLine level ++ [']']
  | .object [] => ['{', '}']
  | .object ((key, item) :: rest) =>
    '{' :: newLine (level + 1) ++ quoted key ++ [':', ' '] ++ prettyAt (level + 1) item ++
      prettyMembers (level + 1) rest ++ newLine level ++ ['}']

/-- The items of an array after the first. -/
def prettyItems (level : Nat) : List Json → List Char
  | [] => []
  | item :: rest => ',' :: newLine level ++ prettyAt level item ++ prettyItems level rest

/-- The members of an object after the first. -/
def prettyMembers (level : Nat) : List (String × Json) → List Char
  | [] => []
  | (key, item) :: rest =>
    ',' :: newLine level ++ quoted key ++ [':', ' '] ++ prettyAt level item ++
      prettyMembers level rest

end

/-- A value over several lines. -/
def pretty (value : Json) : String := String.ofList (prettyAt 0 value)

mutual

/-- A value on one line. -/
def compactChars : Json → List Char
  | .null => ['n', 'u', 'l', 'l']
  | .bool true => ['t', 'r', 'u', 'e']
  | .bool false => ['f', 'a', 'l', 's', 'e']
  | .number value => value.numeral.print
  | .string text => quoted text
  | .array [] => ['[', ']']
  | .array (item :: rest) => '[' :: compactChars item ++ compactItems rest ++ [']']
  | .object [] => ['{', '}']
  | .object ((key, item) :: rest) =>
    '{' :: quoted key ++ [':'] ++ compactChars item ++ compactMembers rest ++ ['}']

/-- The items of an array after the first, on one line. -/
def compactItems : List Json → List Char
  | [] => []
  | item :: rest => ',' :: compactChars item ++ compactItems rest

/-- The members of an object after the first, on one line. -/
def compactMembers : List (String × Json) → List Char
  | [] => []
  | (key, item) :: rest => ',' :: quoted key ++ [':'] ++ compactChars item ++ compactMembers rest

end

/-- A value on one line. -/
def compact (value : Json) : String := String.ofList (compactChars value)

end Provision.Json
