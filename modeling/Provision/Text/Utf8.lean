/-
**UTF-8.**

Files hold bytes. Reading them as text keeps apart what is a character and what is not:

* `encode` writes characters as bytes;
* `decode` reads bytes as characters, each byte that belongs to no well-formed sequence on its own;
* `text?` is the text of bytes that are well formed throughout.
-/

namespace Provision

/-- The contents of a file. -/
abbrev Bytes := List UInt8

namespace Utf8

/-- The bytes of a list of characters. -/
def encode (characters : List Char) : Bytes := characters.flatMap String.utf8EncodeChar

/-- Whether a byte can continue a sequence. -/
def isContinuation (byte : UInt8) : Bool := 0x80 ≤ byte && byte < 0xC0

/-- The payload of a byte that continues a sequence. -/
def payload (byte : UInt8) : Nat := byte.toNat % 64

/-- The character with a given code, unless the code is a surrogate or too large. -/
def character? (code : Nat) : Option Char :=
  if code.isValidChar then some (Char.ofNat code) else none

/-- The character that two bytes encode. -/
def two? (first second : UInt8) : Option Char :=
  if 0xC2 ≤ first && first < 0xE0 && isContinuation second then
    character? (first.toNat % 32 * 64 + payload second)
  else none

/-- The character that three bytes encode; a code that two bytes can hold is refused. -/
def three? (first second third : UInt8) : Option Char :=
  let code := first.toNat % 16 * 4096 + payload second * 64 + payload third
  if 0xE0 ≤ first && first < 0xF0 && isContinuation second && isContinuation third &&
      0x800 ≤ code then
    character? code
  else none

/-- The character that four bytes encode; a code that three bytes can hold is refused. -/
def four? (first second third fourth : UInt8) : Option Char :=
  let code := first.toNat % 8 * 262144 + payload second * 4096 + payload third * 64 + payload fourth
  if 0xF0 ≤ first && first < 0xF5 && isContinuation second && isContinuation third &&
      isContinuation fourth && 0x10000 ≤ code then
    character? code
  else none

/-- The characters of a byte string, with `none` for each byte that belongs to no well-formed
sequence. -/
def decode : Bytes → List (Option Char)
  | [] => []
  | first :: rest =>
    if first < 0x80 then some (Char.ofNat first.toNat) :: decode rest
    else
      match rest with
      | [] => [none]
      | second :: rest₂ =>
        match two? first second with
        | some character => some character :: decode rest₂
        | none =>
          match rest₂ with
          | [] => none :: decode [second]
          | third :: rest₃ =>
            match three? first second third with
            | some character => some character :: decode rest₃
            | none =>
              match rest₃ with
              | [] => none :: decode [second, third]
              | fourth :: rest₄ =>
                match four? first second third fourth with
                | some character => some character :: decode rest₄
                | none => none :: decode (second :: third :: fourth :: rest₄)

/-- The characters of a byte string that is well formed throughout. -/
def characters? (bytes : Bytes) : Option (List Char) := (decode bytes).mapM id

/-- The text of a byte string that is well formed throughout. -/
def text? (bytes : Bytes) : Option String := (characters? bytes).map String.ofList

end Utf8

end Provision
