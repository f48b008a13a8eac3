/-
**SHA-256 (FIPS 180-4).**

Resource names are digests, so every machine has to compute the same ones:

* `pad` completes a message to whole blocks of sixty-four bytes;
* `schedule` stretches the sixteen words of a block to sixty-four;
* `compress` folds one block into the chaining state;
* `digest` is the hash of a message, thirty-two bytes long (`digest_length`).
-/

import Provision.Text.Utf8

namespace Provision.Sha256

/-- The eight words that are carried from block to block. -/
structure State where
  a : UInt32
  b : UInt32
  c : UInt32
  d : UInt32
  e : UInt32
  f : UInt32
  g : UInt32
  h : UInt32

/-- The first thirty-two bits of the fractional parts of the square roots of the first eight
primes. -/
def initial : State where
  a := 0x6a09e667
  b := 0xbb67ae85
  c := 0x3c6ef372
  d := 0xa54ff53a
  e := 0x510e527f
  f := 0x9b05688c
  g := 0x1f83d9ab
  h := 0x5be0cd19

/-- The first thirty-two bits of the fractional parts of the cube roots of the first sixty-four
primes. -/
def roundConstants : List UInt32 := [
  0x428a2f98, 0x71374491, 0xb5c0fbcf, 0xe9b5dba5, 0x3956c25b, 0x59f111f1, 0x923f82a4, 0xab1c5ed5,
  0xd807aa98, 0x12835b01, 0x243185be, 0x550c7dc3, 0x72be5d74, 0x80deb1fe, 0x9bdc06a7, 0xc19bf174,
  0xe49b69c1, 0xefbe4786, 0x0fc19dc6, 0x240ca1cc, 0x2de92c6f, 0x4a7484aa, 0x5cb0a9dc, 0x76f988da,
  0x983e5152, 0xa831c66d, 0xb00327c8, 0xbf597fc7, 0xc6e00bf3, 0xd5a79147, 0x06ca6351, 0x14292967,
  0x27b70a85, 0x2e1b2138, 0x4d2c6dfc, 0x53380d13, 0x650a7354, 0x766a0abb, 0x81c2c92e, 0x92722c85,
  0xa2bfe8a1, 0xa81a664b, 0xc24b8b70, 0xc76c51a3, 0xd192e819, 0xd6990624, 0xf40e3585, 0x106aa070,
  0x19a4c116, 0x1e376c08, 0x2748774c, 0x34b0bcb5, 0x391c0cb3, 0x4ed8aa4a, 0x5b9cca4f, 0x682e6ff3,
  0x748f82ee, 0x78a5636f, 0x84c87814, 0x8cc70208, 0x90befffa, 0xa4506ceb, 0xbef9a3f7, 0xc67178f2]

/-- A word turned to the right by fewer than thirty-two bits. -/
def rotate (word amount : UInt32) : UInt32 := (word >>> amount) ||| (word <<< (32 - amount))

/-- The word after the given ones, which are listed newest first. -/
def nextWord (words : List UInt32) : UInt32 :=
  let early := words.getD 14 0
  let late := words.getD 1 0
  words.getD 15 0 + (rotate early 7 ^^^ rotate early 18 ^^^ (early >>> 3)) + words.getD 6 0 +
    (rotate late 17 ^^^ rotate late 19 ^^^ (late >>> 10))

/-- A list of words, newest first, with `count` more words in front. -/
def stretch : Nat → List UInt32 → List UInt32
  | 0, words => words
  | count + 1, words => stretch count (nextWord words :: words)

/-- The sixty-four words of a block that is given as sixteen words. -/
def schedule (block : List UInt32) : List UInt32 := (stretch 48 block.reverse).reverse

/-- One of the sixty-four rounds, for a round constant and a scheduled word. -/
def round (state : State) (step : UInt32 × UInt32) : State :=
  let choice := (state.e &&& state.f) ^^^ (~~~state.e &&& state.g)
  let majority := (state.a &&& state.b) ^^^ (state.a &&& state.c) ^^^ (state.b &&& state.c)
  let first := state.h + (rotate state.e 6 ^^^ rotate state.e 11 ^^^ rotate state.e 25) + choice +
    step.1 + step.2
  let second := (rotate state.a 2 ^^^ rotate state.a 13 ^^^ rotate state.a 22) + majority
  ⟨first + second, state.a, state.b, state.c, state.d + first, state.e, state.f, state.g⟩

/-- The state after one more block of sixteen words. -/
def compress (state : State) (block : List UInt32) : State :=
  let worked := (roundConstants.zip (schedule block)).foldl round state
  ⟨state.a + worked.a, state.b + worked.b, state.c + worked.c, state.d + worked.d,
    state.e + worked.e, state.f + worked.f, state.g + worked.g, state.h + worked.h⟩

/-- A number as bytes, most significant first. -/
def bigEndian : Nat → Nat → Bytes
  | 0, _ => []
  | width + 1, value => bigEndian width (value / 256) ++ [UInt8.ofNat value]

/-- The words that a byte string spells, four bytes each, most significant first. -/
def words : Bytes → List UInt32
  | first :: second :: third :: fourth :: rest =>
    ((first.toUInt32 <<< 24) ||| (second.toUInt32 <<< 16) ||| (third.toUInt32 <<< 8) |||
      fourth.toUInt32) :: words rest
  | _ => []

/-- A message with the bit `1`, the fewest zeros that complete a block, and its length in bits. -/
def pad (message : Bytes) : Bytes :=
  let zeros := (119 - message.length % 64) % 64
  message ++ 0x80 :: List.replicate zeros 0 ++ bigEndian 8 (message.length * 8)

/-- The state after all blocks of a list of words, at most `count` of them. -/
def absorb : Nat → State → List UInt32 → State
  | 0, state, _ => state
  | _, state, [] => state
  | count + 1, state, words => absorb count (compress state (words.take 16)) (words.drop 16)

/-- The bytes of a state, word by word. -/
def State.bytes (state : State) : Bytes :=
  [state.a, state.b, state.c, state.d, state.e, state.f, state.g, state.h].flatMap
    fun word => bigEndian 4 word.toNat

/-- The SHA-256 digest of a message. -/
def digest (message : Bytes) : Bytes :=
  let spelled := words (pad message)
  (absorb spelled.length initial spelled).bytes

theorem bigEndian_length (width value : Nat) : (bigEndian width value).length = width := by
  induction width generalizing value with
  | zero => rfl
  | succ width induction => simp [bigEndian, induction]

/-- A digest has thirty-two bytes. -/
theorem digest_length (message : Bytes) : (digest message).length = 32 := by
  simp [digest, State.bytes, bigEndian_length]

end Provision.Sha256
