/-
**What a drawn name looks like.**

A name is a mark and the digits of a hash, cut to a length:

* `Naming.exists_digits` — the digits are hexadecimal, in lower case;
* `Naming.length_name` — no name has fewer than five characters, and none is longer than it has to be;
* `Naming.toList_name` — what is hashed, and how much of it is shown; `Naming.name_prefix_name` — a shorter
  name is the beginning of a longer one;
* `NameSequence.draw_eq` — names that are drawn one after the other are those of the numbers in a row;
* `NameSequence.many_eq` — the same for names of one length, also when the count starts over.
-/

import Provision.Name
import Provision.Text.Blank

namespace Provision

namespace Naming

/-! ### Digits -/

/-- The digits of hexadecimal numbers, in lower case. -/
def lowerDigits : List Char := "0123456789abcdef".toList

theorem digitChar_mem {value : Nat} (small : value < 16) : Nat.digitChar value ∈ lowerDigits := by
  have every : ∀ value < 16, Nat.digitChar value ∈ lowerDigits := by decide
  exact every value small

theorem mem_lowerDigits {bytes : Bytes} {digit : Char} (member : digit ∈ hex bytes) :
    digit ∈ lowerDigits := by
  obtain ⟨byte, -, inside⟩ := List.mem_flatMap.mp member
  have bound := byte.toNat_lt
  have high : byte.toNat / 16 < 16 := by omega
  have low : byte.toNat % 16 < 16 := Nat.mod_lt _ (by decide)
  simp only [hexDigits, List.mem_cons, List.not_mem_nil, or_false] at inside
  rcases inside with rfl | rfl
  · exact digitChar_mem high
  · exact digitChar_mem low

theorem length_hex (bytes : Bytes) : (hex bytes).length = 2 * bytes.length := by
  induction bytes with
  | nil => rfl
  | cons byte rest hyp =>
      show (hexDigits byte ++ hex rest).length = _
      rw [List.length_append, hyp, List.length_cons, hexDigits, List.length_cons, List.length_singleton]
      omega

/-! ### Names -/

variable (zone : String) (number length : Nat)

theorem length_fullName : (fullName zone number).length = 66 := by
  rw [fullName, List.length_append, length_hex, Sha256.digest_length]
  rfl

/-- **A name is as long as it may be**, but never shorter than the minimum. -/
theorem length_name : (name zone number length).length = min (max length minimumLength) 66 := by
  rw [name, String.length_ofList, List.length_take, length_fullName]

/-- **A name is the mark and digits.** -/
theorem exists_digits :
    ∃ digits, (name zone number length).toList = mark.toList ++ digits ∧
      ∀ digit ∈ digits, digit ∈ lowerDigits := by
  have long : mark.toList.length ≤ max length minimumLength :=
    Nat.le_trans (by decide : mark.toList.length ≤ minimumLength) (Nat.le_max_right _ _)
  refine ⟨(hex (Sha256.digest (hashed zone number))).take
    (max length minimumLength - mark.toList.length), ?_, fun digit member =>
    mem_lowerDigits (List.mem_of_mem_take member)⟩
  rw [name, String.toList_ofList, fullName, List.take_append, List.take_of_length_le long]

/-- What is hashed are the bytes of the identifier, a colon and the decimal digits of the number. -/
theorem hashed_eq : hashed zone number =
    Utf8.encode zone.toList ++ (0x3A : UInt8) :: Utf8.encode (toString number).toList := by
  have digits : (toString number).toList = Nat.toDigits 10 number := String.toList_ofList
  rw [digits, hashed, Utf8.encode, List.flatMap_append, List.flatMap_cons]
  rfl

/-- **A name is the mark and the hash, cut to a length**, which is never below five and need not be above
sixty-six. -/
theorem toList_name : (name zone number length).toList =
    (mark.toList ++ hex (Sha256.digest
      (Utf8.encode zone.toList ++ (0x3A : UInt8) :: Utf8.encode (toString number).toList))).take
        (min 66 (max length 5)) := by
  rw [name, String.toList_ofList, ← hashed_eq, ← fullName, List.take_eq_take_min, length_fullName,
    Nat.min_comm, minimumLength]

/-- **A shorter name is the beginning of a longer one.** -/
theorem name_prefix_name {shorter longer : Nat} (le : shorter ≤ longer) :
    (name zone number shorter).toList <+: (name zone number longer).toList := by
  rw [name, name, String.toList_ofList, String.toList_ofList]
  exact List.take_prefix_take_left (by omega)

theorem isBlank_name : Text.isBlank (name zone number length) = false := by
  obtain ⟨digits, spelled, -⟩ := exists_digits zone number length
  rw [Text.isBlank, spelled]
  rfl

end Naming

/-! ### Sequences -/

namespace NameSequence

/-- Several names in a row, each cut to a length of its own. -/
def draw : NameSequence → List Nat → List String
  | _, [] => []
  | names, length :: rest => (names.next length).1 :: draw (names.next length).2 rest

/-- **Names drawn in a row have the numbers in a row**, as long as the count does not start over. -/
theorem draw_eq (names : NameSequence) (lengths : List Nat)
    (fits : names.number.toNat + lengths.length < UInt64.size) :
    names.draw lengths =
      (lengths.zipIdx names.number.toNat).map fun drawn => Naming.name names.zone drawn.2 drawn.1 := by
  induction lengths generalizing names with
  | nil => rfl
  | cons length rest hyp =>
      rw [List.length_cons, UInt64.size] at fits
      have counted : (names.next length).2.number.toNat = names.number.toNat + 1 := by
        show (names.number + 1).toNat = _
        rw [UInt64.toNat_add, UInt64.toNat_one]
        exact Nat.mod_eq_of_lt (by omega)
      have further := hyp (names.next length).2 (by rw [counted, UInt64.size]; omega)
      rw [counted] at further
      rw [draw, further, List.zipIdx_cons, List.map_cons]
      rfl

/-- Several names of one length have the numbers in a row; the numbers may start over. -/
theorem many_eq (zone : String) (number : UInt64) (count length : Nat) :
    (many count ⟨zone, number⟩ length).1 =
      (List.range count).map fun place =>
        (next ⟨zone, number + UInt64.ofNat place⟩ length).1 := by
  induction count generalizing number with
  | zero => rfl
  | succ count hyp =>
      have first : number + UInt64.ofNat 0 = number := UInt64.add_zero number
      rw [List.range_succ_eq_map, List.map_cons, List.map_map, first]
      show _ :: (many count ⟨zone, number + 1⟩ length).1 = _
      rw [hyp]
      refine congrArg _ (List.map_congr_left fun place _ => ?_)
      have later : number + 1 + UInt64.ofNat place = number + UInt64.ofNat (place + 1) := by
        rw [UInt64.ofNat_add, UInt64.add_assoc, UInt64.add_comm 1]
        rfl
      rw [Function.comp_apply, later]

end NameSequence

end Provision
