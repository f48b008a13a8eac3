/-
**Texts and numbers of KDL.**

A text is a word, or stands in quotes with escapes, or in quotes between number signs without them.
With three quotes it may have several lines, which are moved to the left as far as the closing quotes
stand to the right.

* `isWord` and `isNumber` tell what characters without quotes are;
* `unescape?` resolves escapes, `dedent?` moves lines to the left;
* `quoted?` and `raw?` read texts in quotes.
-/

import Provision.Kdl.Character
import Provision.Kdl.Document
import Provision.Text.Utf8

namespace Provision.Kdl

/-! ## Words and numbers -/

/-- Whether a character is a sign of a number. -/
def isSign (character : Char) : Bool := character == '+' || character == '-'

/-- The words that are reserved for values. With a sign in front none of them is. -/
def isReserved (word : List Char) : Bool :=
  ["true", "false", "null", "inf", "nan"].contains (String.ofList word)

/-- Whether characters behind an optional sign start a number. -/
def startsNumber : List Char → Bool
  | '.' :: next :: _ => next.isDigit
  | first :: _ => first.isDigit
  | [] => false

/-- Whether word characters are a word. What starts like a number is none. -/
def isWord (characters : List Char) : Bool :=
  match characters with
  | [] => false
  | first :: rest =>
    !isReserved characters && !startsNumber (if isSign first then rest else characters)

/-- Whether characters are digits, possibly with underscores behind the first. -/
def areDigits (isDigit : Char → Bool) : List Char → Bool
  | [] => false
  | first :: rest => isDigit first && rest.all fun digit => isDigit digit || digit == '_'

/-- Whether a character is a hexadecimal digit. -/
def isHexDigit (character : Char) : Bool :=
  character.isDigit || ('a' ≤ character && character ≤ 'f') ||
    ('A' ≤ character && character ≤ 'F')

/-- A list up to an element that passes a test, and what follows that element. -/
def splitAt? (test : Char → Bool) (characters : List Char) : List Char × Option (List Char) :=
  match characters.dropWhile (!test ·) with
  | [] => (characters, none)
  | _ :: rest => (characters.takeWhile (!test ·), some rest)

/-- Characters without a sign in front. -/
def dropSign : List Char → List Char
  | first :: rest => if isSign first then rest else first :: rest
  | [] => []

/-- The value of digits, whatever stands between them. -/
def digitsValue (base : Nat) (characters : List Char) : Nat :=
  (characters.filter (· != '_')).foldl
    (fun value digit =>
      let code := digit.toLower.toNat
      value * base + (if digit.isDigit then code - '0'.toNat else code - 'a'.toNat + 10)) 0

/-- Whether characters are digits to a base whose value fits into a hundred and twenty-seven
bits. -/
def isWhole (base : Nat) (isDigit : Char → Bool) (characters : List Char) : Bool :=
  areDigits isDigit characters && digitsValue base characters < Nat.pow 2 127

/-- Whether characters are decimal digits whose value fits. -/
def isPlain (characters : List Char) : Bool := isWhole 10 Char.isDigit characters

/-- Whether characters are a decimal number with a point or an exponent. The digits before the
point, behind it and in the exponent have to fit each for themselves. -/
def isDecimal (characters : List Char) : Bool :=
  let (mantissa, exponent) := splitAt? (fun letter => letter == 'e' || letter == 'E') characters
  let (whole, fraction) := splitAt? (· == '.') mantissa
  isPlain whole && fraction.all isPlain && (fraction.isSome || exponent.isSome) &&
    exponent.all fun digits => isPlain (dropSign digits)

/-- Whether word characters are a number. The sign does not change what fits. -/
def isNumber (characters : List Char) : Bool :=
  match dropSign characters with
  | '0' :: 'x' :: digits | '0' :: 'X' :: digits => isWhole 16 isHexDigit digits
  | '0' :: 'o' :: digits | '0' :: 'O' :: digits =>
    isWhole 8 (fun digit => '0' ≤ digit && digit ≤ '7') digits
  | '0' :: 'b' :: digits | '0' :: 'B' :: digits =>
    isWhole 2 (fun digit => digit == '0' || digit == '1') digits
  | digits => isPlain digits || isDecimal digits

/-! ## Escapes -/

/-- The character that a backslash and a letter stand for. -/
def escaped? : Char → Option Char
  | '"' => some '"'
  | '\\' => some '\\'
  | 'b' => some '\x08'
  | 'f' => some '\x0c'
  | 'n' => some '\n'
  | 'r' => some '\r'
  | 't' => some '\t'
  | 's' => some ' '
  | _ => none

/-- The character whose code is given in one to six hexadecimal digits. -/
def ofHex? (digits : List Char) : Option Char :=
  if digits.isEmpty || 6 < digits.length || !digits.all isHexDigit then none
  else Utf8.character? (digitsValue 16 digits)

/-- What the reader of escapes has seen last. -/
inductive Escape where
  | none
  | backslash
  /-- A backslash in front of blanks, which all do not count. -/
  | blanks
  /-- The letter u. -/
  | unicode
  /-- Hexadecimal digits, the last one first. -/
  | digits (digits : List Char)
  deriving DecidableEq

/-- Resolves escapes. -/
def unescapeFrom? : Escape → List Char → Option (List Char)
  | .none, [] | .blanks, [] => some []
  | _, [] => Option.none
  | .backslash, first :: rest =>
    if first == 'u' then unescapeFrom? .unicode rest
    else if isSpace first || isNewline first then unescapeFrom? .blanks rest
    else
      match escaped? first with
      | some character => (unescapeFrom? .none rest).map (character :: ·)
      | Option.none => Option.none
  | .unicode, first :: rest => if first == '{' then unescapeFrom? (.digits []) rest else Option.none
  | .digits digits, first :: rest =>
    if first == '}' then
      match ofHex? digits.reverse with
      | some character => (unescapeFrom? .none rest).map (character :: ·)
      | Option.none => Option.none
    else unescapeFrom? (.digits (first :: digits)) rest
  | .blanks, first :: rest =>
    if isSpace first || isNewline first then unescapeFrom? .blanks rest
    else if first == '\\' then unescapeFrom? .backslash rest
    else if isForbidden first then Option.none
    else (unescapeFrom? .none rest).map (first :: ·)
  | .none, first :: rest =>
    if first == '\\' then unescapeFrom? .backslash rest
    else if isForbidden first then Option.none
    else (unescapeFrom? .none rest).map (first :: ·)

/-- The text that characters with escapes stand for. -/
def unescape? (characters : List Char) : Option (List Char) := unescapeFrom? .none characters

/-- Characters without the blanks that a backslash stands in front of; other escapes stay. -/
def dropEscapedBlanks : Escape → List Char → List Char
  | .backslash, [] => ['\\']
  | _, [] => []
  | .backslash, first :: rest =>
    if isSpace first || isNewline first then dropEscapedBlanks .blanks rest
    else '\\' :: first :: dropEscapedBlanks .none rest
  | .blanks, first :: rest =>
    if isSpace first || isNewline first then dropEscapedBlanks .blanks rest
    else if first == '\\' then dropEscapedBlanks .backslash rest
    else first :: dropEscapedBlanks .none rest
  | _, first :: rest =>
    if first == '\\' then dropEscapedBlanks .backslash rest
    else first :: dropEscapedBlanks .none rest

/-- Whether a line ends where no backslash makes it go on. -/
def hasNewline : Escape → List Char → Bool
  | _, [] => false
  | .backslash, first :: rest =>
    hasNewline (if isSpace first || isNewline first then .blanks else .none) rest
  | .blanks, first :: rest =>
    if isSpace first || isNewline first then hasNewline .blanks rest
    else hasNewline (if first == '\\' then .backslash else .none) rest
  | _, first :: rest =>
    isNewline first || hasNewline (if first == '\\' then .backslash else .none) rest

/-! ## Several lines -/

/-- The lines of a text, of which there is always one more than line ends. -/
def lines : List Char → List (List Char)
  | [] => [[]]
  | '\r' :: '\n' :: rest => [] :: lines rest
  | first :: rest =>
    if isNewline first then [] :: lines rest
    else
      match lines rest with
      | [] => [[first]]
      | line :: others => (first :: line) :: others

/-- A line without the blanks that the last line consists of. A blank line is empty. -/
def dedentLine? (margin line : List Char) : Option (List Char) :=
  if line.all isSpace then some []
  else if margin.isPrefixOf line then some (line.drop margin.length)
  else none

/-- The text of the lines between the line of the opening quotes, on which nothing else may stand,
and the line of the closing quotes, which says how far the others are moved. -/
def dedent? (characters : List Char) : Option (List Char) :=
  match lines characters with
  | [] :: first :: rest =>
    let content := (first :: rest).dropLast
    let margin := (first :: rest).getLastD []
    if margin.all isSpace then
      (content.mapM (dedentLine? margin)).map (List.intercalate ['\n'])
    else none
  | _ => none

/-! ## Quotes -/

/-- Characters up to a closing sequence, and what follows it. With escapes, the character after a
backslash does not count. -/
def until? (escapes : Bool) (close : List Char) : Bool → List Char → Option (List Char × List Char)
  | _, [] => none
  | true, first :: rest =>
    (until? escapes close false rest).map fun (body, after) => (first :: body, after)
  | false, first :: rest =>
    if close.isPrefixOf (first :: rest) then some ([], (first :: rest).drop close.length)
    else
      (until? escapes close (escapes && first == '\\') rest).map fun (body, after) =>
        (first :: body, after)

/-- Three quotes. -/
def threeQuotes : List Char := ['"', '"', '"']

/-- A text in quotes, read after the first of them, and what follows. -/
def quoted? (characters : List Char) : Option (String × List Char) :=
  match characters with
  | '"' :: '"' :: rest => do
    let (body, after) ← until? true threeQuotes false rest
    let text ← dedent? (dropEscapedBlanks .none body)
    let text ← unescape? text
    pure (String.ofList text, after)
  | _ => do
    let (body, after) ← until? true ['"'] false characters
    if hasNewline .none body then none
    else
      let text ← unescape? body
      pure (String.ofList text, after)

/-- Whether a quote is the first thing on one of the lines of a text that are not its last. -/
def startsWithQuote (characters : List Char) : Bool :=
  (lines characters).dropLast.any fun line => (line.dropWhile isSpace).head? == some '"'

/-- A text between number signs, read after the first `count` of them and a quote, and what
follows. Two more quotes belong to the text if no line ends behind them. In a text of several lines,
a quote at the start of a line would be taken for the closing ones. -/
def raw? (count : Nat) (characters : List Char) : Option (String × List Char) :=
  let signs := List.replicate count '#'
  match characters, newline? (characters.drop 2) with
  | '"' :: '"' :: rest, some _ => do
    let (body, after) ← until? false (threeQuotes ++ signs) false rest
    let text ← dedent? body
    if startsWithQuote body || text.any isForbidden then none
    else pure (String.ofList text, after)
  | _, _ => do
    let (body, after) ← until? false ('"' :: signs) false characters
    if body.any fun character => isNewline character || isForbidden character then none
    else pure (String.ofList body, after)

end Provision.Kdl
