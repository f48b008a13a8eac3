/-
**Reading KDL.**

The grammar of version 2 of the format:

* `skipSpace` and `skipLines` pass over blanks, comments and line ends;
* `value?`, `entry?` and `node?` read the parts of a node;
* `nodes?` reads nodes up to the end of the text or to a closing brace, and `read?` a whole document.
-/

import Provision.Kdl.Scalar

namespace Provision.Kdl

/-! ## What does not count -/

/-- What follows the line that characters are on. -/
def afterLine (characters : List Char) : List Char :=
  let rest := characters.dropWhile (!isNewline ·)
  (newline? rest).getD rest

/-- What follows blanks, and comments that may stand in one another, at some depth of comments. A
comment that does not end is no comment: what is left then is the text from its start on. -/
def skipBlanksFrom : List Char → Nat → List Char → List Char
  | _, 0, [] => []
  | start, _ + 1, [] => start
  | _, 0, '/' :: '*' :: rest => skipBlanksFrom ('/' :: '*' :: rest) 1 rest
  | start, 0, first :: rest =>
    if isSpace first then skipBlanksFrom start 0 rest else first :: rest
  | start, depth + 1, '*' :: '/' :: rest => skipBlanksFrom start depth rest
  | start, depth + 1, '/' :: '*' :: rest => skipBlanksFrom start (depth + 2) rest
  | start, depth + 1, _ :: rest => skipBlanksFrom start (depth + 1) rest

/-- What follows the blanks and comments within a line. -/
def skipBlanks (characters : List Char) : List Char := skipBlanksFrom [] 0 characters

/-- What follows a backslash that makes a line go on. -/
def continued? (characters : List Char) : Option (List Char) :=
  match skipBlanks characters with
  | [] => some []
  | '/' :: '/' :: rest => some (afterLine rest)
  | rest => newline? rest

/-- What follows blanks, comments, and a number of lines that go on. -/
def skipSpaceFrom : Nat → List Char → List Char
  | 0, characters => characters
  | fuel + 1, characters =>
    match skipBlanks characters with
    | '\\' :: rest =>
      match continued? rest with
      | some after => skipSpaceFrom fuel after
      | none => '\\' :: rest
    | rest => rest

/-- What follows the space between the parts of a node. -/
def skipSpace (characters : List Char) : List Char :=
  match skipBlanks characters with
  | '\\' :: rest => skipSpaceFrom (rest.length + 1) ('\\' :: rest)
  | rest => rest

/-- Whether characters start with space. -/
def startsSpace : List Char → Bool
  | '\\' :: _ | '/' :: '*' :: _ => true
  | first :: _ => isSpace first
  | [] => false

/-- What follows the end of a line, or a comment up to it. -/
def lineEnd? : List Char → Option (List Char)
  | '/' :: '/' :: rest => some (afterLine rest)
  | characters => newline? characters

/-- What follows the space and a number of empty lines in front of a node. -/
def skipLinesFrom : Nat → List Char → List Char
  | 0, characters => characters
  | fuel + 1, characters =>
    let rest := skipSpace characters
    match lineEnd? rest with
    | some after => skipLinesFrom fuel after
    | none => rest

/-- What follows space and empty lines. -/
def skipLines (characters : List Char) : List Char :=
  let rest := skipSpace characters
  match lineEnd? rest with
  | some after => skipLinesFrom (after.length + 1) after
  | none => rest

/-! ## Values -/

/-- The value that a word behind a number sign stands for, whatever the case of its letters. -/
def keyword? (word : List Char) : Option Value :=
  match String.ofList (word.map Char.toLower) with
  | "true" => some (.bool true)
  | "false" => some (.bool false)
  | "null" => some .null
  | "inf" | "-inf" | "nan" => some (.number ("#" ++ String.ofList word))
  | _ => none

/-- A value without a type, and what follows it. -/
def scalar? (characters : List Char) : Option (Value × List Char) :=
  match characters with
  | '"' :: rest => (quoted? rest).map fun (text, after) => (.string text, after)
  | '#' :: _ =>
    let signs := characters.takeWhile (· == '#')
    match characters.drop signs.length with
    | '"' :: rest => (raw? signs.length rest).map fun (text, after) => (.string text, after)
    | rest =>
      if signs.length = 1 then
        (keyword? (rest.takeWhile isWordChar)).map fun value => (value, rest.dropWhile isWordChar)
      else none
  | _ =>
    let word := characters.takeWhile isWordChar
    let rest := characters.drop word.length
    if isWord word then some (.string (String.ofList word), rest)
    else if isNumber word then some (.number (String.ofList word), rest)
    else none

/-- A text, and what follows it. -/
def string? (characters : List Char) : Option (String × List Char) := do
  let (value, rest) ← scalar? characters
  let text ← value.text?
  pure (text, rest)

/-- What follows the type in front of a value or of a node, if there is one. -/
def skipType? (characters : List Char) : Option (List Char) :=
  match characters with
  | '(' :: rest => do
    let (_, rest) ← string? (skipSpace rest)
    match skipSpace rest with
    | ')' :: after => pure (skipSpace after)
    | _ => none
  | _ => some characters

/-- A value, and what follows it. -/
def value? (characters : List Char) : Option (Value × List Char) := do
  scalar? (← skipType? characters)

/-- An argument or a property, and what follows it. -/
def entry? (characters : List Char) : Option (Entry × List Char) := do
  let (value, rest) ← value? characters
  match value, characters.head?, skipSpace rest with
  | .string _, some '(', _ => pure ({ value := value }, rest)
  | .string key, _, '=' :: after => do
    let (value, rest) ← value? (skipSpace after)
    pure ({ key? := some key, value := value }, rest)
  | _, _, _ => pure ({ value := value }, rest)

/-! ## Nodes -/

/-- What follows the end of a node. Inside of braces the closing one ends it, too. -/
def terminated? (inside : Bool) (characters : List Char) : Option (List Char) :=
  match characters with
  | [] => some []
  | ';' :: rest => some rest
  | '}' :: _ => if inside then some characters else none
  | _ => lineEnd? characters

/-- What follows the end of a node that does not count, which no semicolon ends. -/
def passed? (inside : Bool) (characters : List Char) : Option (List Char) :=
  match characters with
  | ';' :: _ => none
  | _ => terminated? inside characters

mutual

/-- The nodes up to the end of the text, or inside of braces up to the closing one, and what
follows. Behind a slash and a dash a node does not count. -/
def nodes? : Nat → Bool → List Char → Option (List Node × List Char)
  | 0, _, _ => none
  | fuel + 1, inside, characters =>
    match skipLines characters with
    | [] => if inside then none else some ([], [])
    | '}' :: rest => if inside then some ([], rest) else none
    | '/' :: '-' :: rest => do
      let (_, rest) ← node? fuel (skipLines rest)
      nodes? fuel inside (← passed? inside rest)
    | rest => do
      let (node, rest) ← node? fuel rest
      let (others, after) ← nodes? fuel inside (← terminated? inside rest)
      pure (node :: others, after)

/-- A node, and what follows it. -/
def node? : Nat → List Char → Option (Node × List Char)
  | 0, _ => none
  | fuel + 1, characters => do
    let (name, rest) ← string? (← skipType? characters)
    let (entries, rest) ← entries? fuel rest
    let (children, rest) ← children? fuel rest
    pure (.mk name entries children, rest)

/-- The entries of a node, each of which stands apart from what is before it, and what follows them.
Behind a slash and a dash an entry does not count. -/
def entries? : Nat → List Char → Option (List Entry × List Char)
  | 0, _ => none
  | fuel + 1, characters =>
    if !startsSpace characters then some ([], characters)
    else
      match skipSpace characters with
      | '/' :: '-' :: ignored =>
        match skipLines ignored with
        | '{' :: _ => some ([], characters)
        | ignored => do
          let (_, rest) ← entry? ignored
          entries? fuel rest
      | [] => some ([], [])
      | first :: rest =>
        if isNewline first || ['{', '}', ';', '/'].contains first then some ([], first :: rest)
        else do
          let (entry, rest) ← entry? (first :: rest)
          let (others, after) ← entries? fuel rest
          pure (entry :: others, after)

/-- The children of a node, and what follows them. Behind a slash and a dash, which stand apart from
what is before them, children do not count. -/
def children? : Nat → List Char → Option (List Node × List Char)
  | 0, _ => none
  | fuel + 1, characters =>
    match skipSpace characters with
    | '/' :: '-' :: ignored =>
      match startsSpace characters, skipLines ignored with
      | true, '{' :: rest => do
        let (_, rest) ← nodes? fuel true rest
        children? fuel rest
      | _, _ => none
    | '{' :: rest => do
      let (children, rest) ← nodes? fuel true rest
      let rest ← ignored? fuel true rest
      pure (children, rest)
    | rest => some ([], rest)

/-- What follows children that do not count, behind those that do. Only the first of them may stand
directly behind what is before them. -/
def ignored? : Nat → Bool → List Char → Option (List Char)
  | 0, _, _ => none
  | fuel + 1, isFirst, characters =>
    match skipSpace characters with
    | '/' :: '-' :: ignored =>
      match isFirst || startsSpace characters, skipLines ignored with
      | true, '{' :: rest => do
        let (_, rest) ← nodes? fuel true rest
        ignored? fuel false rest
      | _, _ => none
    | rest => some rest

end

/-- The document that a text spells. A mark of the byte order may stand in front. No step but the
one from nodes to a node and from there to its parts leaves the text as long as it is. -/
def read? (text : String) : Option Document :=
  let characters := match text.toList with
    | '\uFEFF' :: rest => rest
    | characters => characters
  (nodes? (4 * characters.length + 8) false characters).map (·.1)

end Provision.Kdl
