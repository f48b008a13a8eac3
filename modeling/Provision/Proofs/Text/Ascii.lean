/-
**Plain characters.**

A character of seven bits takes one byte, so that bytes may be cut off anywhere between them and what
is left is a text:

* `Utf8.IsAscii` holds of lists of such characters;
* **`Utf8.take_encode`** — the first bytes encode the first characters;
* `Utf8.characters?_encode` reads the characters of encoded ones.
-/

import Provision.Proofs.Text.Utf8

namespace Provision.Utf8

/-- All characters have seven bits. -/
def IsAscii (characters : List Char) : Prop := ∀ character ∈ characters, character.toNat < 128

instance (characters : List Char) : Decidable (IsAscii characters) :=
  List.decidableBAll _ characters

namespace IsAscii

theorem nil : IsAscii [] := fun _ member => nomatch member

theorem cons {character : Char} {rest : List Char} (own : character.toNat < 128)
    (others : IsAscii rest) : IsAscii (character :: rest) := List.forall_mem_cons.mpr ⟨own, others⟩

theorem append {first second : List Char} (one : IsAscii first) (two : IsAscii second) :
    IsAscii (first ++ second) := List.forall_mem_append.mpr ⟨one, two⟩

theorem flatMap {characters : List Char} {spell : Char → List Char}
    (each : ∀ character ∈ characters, IsAscii (spell character)) :
    IsAscii (characters.flatMap spell) := by
  intro letter member
  obtain ⟨character, inside, spelled⟩ := List.mem_flatMap.mp member
  exact each character inside letter spelled

theorem replicate (count : Nat) {character : Char} (own : character.toNat < 128) :
    IsAscii (List.replicate count character) := by
  intro other member
  rw [List.eq_of_mem_replicate member]
  exact own

theorem of_isDigit {characters : List Char}
    (digits : ∀ digit ∈ characters, digit.isDigit = true) : IsAscii characters := by
  intro digit member
  have decimal := digits digit member
  rw [Char.isDigit_iff_toNat] at decimal
  have nine : '9'.toNat = 57 := rfl
  omega

end IsAscii

theorem utf8EncodeChar_of_ascii {character : Char} (ascii : character.toNat < 128) :
    String.utf8EncodeChar character = [UInt8.ofNat character.toNat] := by
  have single : character.val.toNat ≤ 127 := Nat.le_of_lt_succ ascii
  unfold String.utf8EncodeChar
  simp only [single, if_true]
  rfl

/-- **The first bytes encode the first characters.** -/
theorem take_encode {characters : List Char} (ascii : IsAscii characters) (count : Nat) :
    (encode characters).take count = encode (characters.take count) := by
  induction characters generalizing count with
  | nil => simp [encode]
  | cons character rest hyp =>
      obtain ⟨own, others⟩ := List.forall_mem_cons.mp ascii
      cases count with
      | zero => rfl
      | succ count =>
          have step := hyp others count
          unfold encode at step ⊢
          rw [List.flatMap_cons, utf8EncodeChar_of_ascii own, List.singleton_append,
            List.take_succ_cons, step, List.take_succ_cons, List.flatMap_cons,
            utf8EncodeChar_of_ascii own, List.singleton_append]

theorem length_encode {characters : List Char} (ascii : IsAscii characters) :
    (encode characters).length = characters.length := by
  induction characters with
  | nil => rfl
  | cons character rest hyp =>
      obtain ⟨own, others⟩ := List.forall_mem_cons.mp ascii
      have step := hyp others
      unfold encode at step ⊢
      rw [List.flatMap_cons, utf8EncodeChar_of_ascii own, List.singleton_append, List.length_cons,
        List.length_cons, step]

/-- Characters that were written are the characters of the bytes. -/
theorem characters?_encode (characters : List Char) :
    characters? (encode characters) = some characters := by
  rw [characters?, decode_encode]
  induction characters with
  | nil => rfl
  | cons character rest hyp =>
      rw [List.map_cons, List.mapM_cons, hyp]
      rfl

end Provision.Utf8
