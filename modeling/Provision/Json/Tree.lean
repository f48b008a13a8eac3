/-
**JSON as it is spelled.**

A document is read in two steps. The first finds its structure and keeps strings and numbers as they
are spelled; the second reads those leaves that are used. So a document is refused for a lone
surrogate, a byte that is no text, a number too large or a nesting too deep only where these stand in
a part that somebody reads:

* `Json.Tree` is the result of the first step;
* `Json.Tree.text?`, `Json.Tree.integer?` and `Json.Tree.value?` read a leaf or a whole value;
* `Json.tree` spells a value.
-/

import Provision.Json.Numeral
import Provision.Text.Utf8

namespace Provision.Json

/-- The characters of a document, with `none` for a byte that is not part of any. -/
abbrev Source := List (Option Char)

/-- A document as it is spelled. -/
inductive Tree where
  | null
  | bool (value : Bool)
  | number (numeral : Numeral)
  /-- What stands between the quotes. -/
  | string (body : Source)
  | array (items : List Tree)
  | object (members : List (Source × Tree))
  deriving Repr

/-! ## Strings -/

/-- The value of a hexadecimal digit. -/
def hexValue? (character : Char) : Option Nat :=
  if '0' ≤ character ∧ character ≤ '9' then some (character.toNat - '0'.toNat)
  else if 'a' ≤ character ∧ character ≤ 'f' then some (character.toNat - 'a'.toNat + 10)
  else if 'A' ≤ character ∧ character ≤ 'F' then some (character.toNat - 'A'.toNat + 10)
  else none

/-- The value of four hexadecimal digits. -/
def hexUnit? (first second third fourth : Char) : Option Nat := do
  let a ← hexValue? first
  let b ← hexValue? second
  let c ← hexValue? third
  let d ← hexValue? fourth
  pure (((a * 16 + b) * 16 + c) * 16 + d)

/-- The character that a backslash and a letter stand for. -/
def escaped? : Char → Option Char
  | '"' => some '"'
  | '\\' => some '\\'
  | '/' => some '/'
  | 'b' => some '\x08'
  | 'f' => some '\x0c'
  | 'n' => some '\n'
  | 'r' => some '\r'
  | 't' => some '\t'
  | _ => none

/-- The characters that the body of a string stands for. Surrogates have to come in pairs. -/
def unescape? : Source → Option (List Char)
  | [] => some []
  | some '\\' :: some 'u' :: some a :: some b :: some c :: some d :: rest => do
    let unit ← hexUnit? a b c d
    if 0xD800 ≤ unit ∧ unit < 0xDC00 then
      match rest with
      | some '\\' :: some 'u' :: some e :: some f :: some g :: some h :: after => do
        let low ← hexUnit? e f g h
        if 0xDC00 ≤ low ∧ low < 0xE000 then
          let others ← unescape? after
          pure (Char.ofNat (0x10000 + (unit - 0xD800) * 0x400 + (low - 0xDC00)) :: others)
        else none
      | _ => none
    else do
      let character ← Utf8.character? unit
      let others ← unescape? rest
      pure (character :: others)
  | some '\\' :: some letter :: rest => do
    let character ← escaped? letter
    let others ← unescape? rest
    pure (character :: others)
  | some '\\' :: _ => none
  | some character :: rest => do
    let others ← unescape? rest
    pure (character :: others)
  | none :: _ => none

/-- The text that the body of a string stands for. -/
def bodyText? (body : Source) : Option String := (unescape? body).map String.ofList

/-! ## Reading values -/

namespace Tree

/-- The text of a string. -/
def text? : Tree → Option String
  | string body => bodyText? body
  | _ => none

/-- The truth value of a document. -/
def bool? : Tree → Option Bool
  | bool value => some value
  | _ => none

/-- The whole number of a document, if it lies between two bounds. -/
def integer? (least greatest : Int) : Tree → Option Int
  | number numeral => numeral.integer?.filter fun value => least ≤ value ∧ value ≤ greatest
  | _ => none

mutual

/-- The value of a document in which arrays and objects are nested at most `depth` deep. -/
def value? : Nat → Tree → Option Json
  | _, null => some .null
  | _, bool value => some (.bool value)
  | _, number numeral => numeral.number?.map .number
  | _, string body => (bodyText? body).map .string
  | 0, array _ => none
  | depth + 1, array items => (values? depth items).map .array
  | 0, object _ => none
  | depth + 1, object members => (members? depth members).map fun read => .object (sortMembers read)

/-- The values of several documents. -/
def values? : Nat → List Tree → Option (List Json)
  | _, [] => some []
  | depth, item :: rest => do
    let value ← value? depth item
    let others ← values? depth rest
    pure (value :: others)

/-- The members of an object. -/
def members? : Nat → List (Source × Tree) → Option (List (String × Json))
  | _, [] => some []
  | depth, (key, item) :: rest => do
    let key ← bodyText? key
    let value ← value? depth item
    let others ← members? depth rest
    pure ((key, value) :: others)

end

/-- How deep the arrays and objects of a value may be nested. -/
def maximumDepth : Nat := 127

end Tree

/-! ## Spelling values -/

/-- The digits of a byte in lower-case hexadecimal. -/
def hexByte (code : Nat) : List Char := [Nat.digitChar (code / 16 % 16), Nat.digitChar (code % 16)]

/-- How a character is spelled in a string: quotes, backslashes and control characters are
escaped. -/
def spellChar (character : Char) : List Char :=
  match character with
  | '"' => ['\\', '"']
  | '\\' => ['\\', '\\']
  | '\x08' => ['\\', 'b']
  | '\x0c' => ['\\', 'f']
  | '\n' => ['\\', 'n']
  | '\r' => ['\\', 'r']
  | '\t' => ['\\', 't']
  | other =>
    if other.toNat < 0x20 then ['\\', 'u', '0', '0'] ++ hexByte other.toNat else [other]

/-- How a text is spelled in a string. -/
def spellText (text : String) : List Char := text.toList.flatMap spellChar

mutual

/-- How a value is spelled. -/
def tree : Json → Tree
  | .null => .null
  | .bool value => .bool value
  | .number value => .number value.numeral
  | .string text => .string ((spellText text).map some)
  | .array items => .array (trees items)
  | .object members => .object (memberTrees members)

/-- How several values are spelled. -/
def trees : List Json → List Tree
  | [] => []
  | item :: rest => tree item :: trees rest

/-- How the members of an object are spelled. -/
def memberTrees : List (String × Json) → List (Source × Tree)
  | [] => []
  | (key, item) :: rest => ((spellText key).map some, tree item) :: memberTrees rest

end

end Provision.Json
