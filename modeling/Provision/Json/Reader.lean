/-
**Reading JSON text.**

The grammar of JSON, without its leaves: strings and numbers have to be well formed, and what they
mean is left to whoever uses them.

* `stringBody?` and `numeral?` read the leaves;
* `read?` reads a whole document, with nothing but blanks around it;
* `ofText?` and `ofBytes?` read a text and the contents of a file.
-/

import Provision.Json.Tree

namespace Provision.Json

/-- Whether a character may stand between the parts of a document. -/
def isSpace : Option Char → Bool
  | some character =>
    character == ' ' || character == '\n' || character == '\r' || character == '\t'
  | none => false

/-- A document without the blanks in front of it. -/
def skipSpace (source : Source) : Source := source.dropWhile isSpace

/-- The body of a string, read after its opening quote, and what follows its closing quote.

Control characters have to be escaped. The digits of an escape are not weighed yet. -/
def stringBody? : Source → Option (Source × Source)
  | some '"' :: rest => some ([], rest)
  | some '\\' :: some 'u' :: some a :: some b :: some c :: some d :: rest =>
    if (hexUnit? a b c d).isSome then
      (stringBody? rest).map fun (body, after) =>
        (some '\\' :: some 'u' :: some a :: some b :: some c :: some d :: body, after)
    else none
  | some '\\' :: some letter :: rest =>
    if (escaped? letter).isSome then
      (stringBody? rest).map fun (body, after) => (some '\\' :: some letter :: body, after)
    else none
  | some '\\' :: _ => none
  | some character :: rest =>
    if character.toNat < 0x20 then none
    else (stringBody? rest).map fun (body, after) => (some character :: body, after)
  | none :: rest => (stringBody? rest).map fun (body, after) => (none :: body, after)
  | [] => none

/-- The decimal digits in front of a document, and what follows them. -/
def takeDigits : Source → List Char × Source
  | some character :: rest =>
    if character.isDigit then
      let (digits, after) := takeDigits rest
      (character :: digits, after)
    else ([], some character :: rest)
  | source => ([], source)

/-- The digits after a point, and what follows them. -/
def fraction? : Source → Option (List Char × Source)
  | some '.' :: rest =>
    match takeDigits rest with
    | ([], _) => none
    | (digits, after) => some (digits, after)
  | source => some ([], source)

/-- The digits of an exponent after its sign, and what follows them. -/
def exponentDigits? (negative : Bool) (source : Source) :
    Option (Option (Bool × List Char) × Source) :=
  match takeDigits source with
  | ([], _) => none
  | (digits, after) => some (some (negative, digits), after)

/-- The exponent of a number, and what follows it. -/
def exponent? : Source → Option (Option (Bool × List Char) × Source)
  | some letter :: rest =>
    if letter == 'e' || letter == 'E' then
      match rest with
      | some '+' :: digits => exponentDigits? false digits
      | some '-' :: digits => exponentDigits? true digits
      | digits => exponentDigits? false digits
    else some (none, some letter :: rest)
  | source => some (none, source)

/-- A number after its sign, and what follows it. Only zero itself starts with a zero. -/
def unsigned? (negative : Bool) (source : Source) : Option (Numeral × Source) := do
  let (whole, rest) := takeDigits source
  if whole.isEmpty || (whole.head? == some '0' && whole.length != 1) then none
  else
    let (fraction, rest) ← fraction? rest
    let (exponent, rest) ← exponent? rest
    pure (⟨negative, whole, fraction, exponent⟩, rest)

/-- A number and what follows it. -/
def numeral? : Source → Option (Numeral × Source)
  | some '-' :: rest => unsigned? true rest
  | source => unsigned? false source

mutual

/-- A value and what follows it. -/
def readValue? : Nat → Source → Option (Tree × Source)
  | 0, _ => none
  | fuel + 1, source =>
    match skipSpace source with
    | some 'n' :: some 'u' :: some 'l' :: some 'l' :: rest => some (.null, rest)
    | some 't' :: some 'r' :: some 'u' :: some 'e' :: rest => some (.bool true, rest)
    | some 'f' :: some 'a' :: some 'l' :: some 's' :: some 'e' :: rest => some (.bool false, rest)
    | some '"' :: rest => (stringBody? rest).map fun (body, after) => (.string body, after)
    | some '[' :: rest =>
      match skipSpace rest with
      | some ']' :: after => some (.array [], after)
      | items => (readItems? fuel items).map fun (items, after) => (.array items, after)
    | some '{' :: rest =>
      match skipSpace rest with
      | some '}' :: after => some (.object [], after)
      | members => (readMembers? fuel members).map fun (members, after) => (.object members, after)
    | digits => (numeral? digits).map fun (numeral, after) => (.number numeral, after)

/-- The items of an array up to its closing bracket, one at least, and what follows. -/
def readItems? : Nat → Source → Option (List Tree × Source)
  | 0, _ => none
  | fuel + 1, source =>
    match readValue? fuel source with
    | none => none
    | some (item, rest) =>
      match skipSpace rest with
      | some ',' :: others => (readItems? fuel others).map fun (items, after) => (item :: items, after)
      | some ']' :: after => some ([item], after)
      | _ => none

/-- The members of an object up to its closing brace, one at least, and what follows. -/
def readMembers? : Nat → Source → Option (List (Source × Tree) × Source)
  | 0, _ => none
  | fuel + 1, source =>
    match skipSpace source with
    | some '"' :: quoted =>
      match stringBody? quoted with
      | none => none
      | some (key, colon) =>
        match skipSpace colon with
        | some ':' :: value =>
          match readValue? fuel value with
          | none => none
          | some (item, rest) =>
            match skipSpace rest with
            | some ',' :: others =>
              (readMembers? fuel others).map fun (members, after) => ((key, item) :: members, after)
            | some '}' :: after => some ([(key, item)], after)
            | _ => none
        | _ => none
    | _ => none

end

/-- The document that a list of characters spells. Every step of the grammar but one consumes a
character, so twice their number bounds the steps. -/
def read? (source : Source) : Option Tree :=
  match readValue? (2 * source.length + 2) source with
  | some (tree, rest) => if (skipSpace rest).isEmpty then some tree else none
  | none => none

/-- The document that a text spells. -/
def ofText? (text : String) : Option Tree := read? (text.toList.map some)

/-- The document that the contents of a file spell. -/
def ofBytes? (bytes : Bytes) : Option Tree := read? (Utf8.decode bytes)

end Provision.Json
