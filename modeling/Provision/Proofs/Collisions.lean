/-
**Names collide only where digests do.**

What is hashed for a name can be taken apart again, whatever colons and digits the identifier holds: the
last colon stands in front of the number.

* `Naming.hashed_inj` — what is hashed belongs to one identifier and one number;
* `Naming.hex_inj` — hexadecimal digits belong to one byte string, so that names which are not cut are
  equal exactly if the digests are (`Naming.name_eq_iff`);
* `Sha256.Collide` holds of two messages with one digest;
* `uncut_names_collide_with_digests` puts this together for the names that two sequences draw.
-/

import Provision.Proofs.Names
import Provision.Proofs.Text.Digits
import Provision.Proofs.Text.Separators
import Provision.Proofs.Text.Utf8

namespace Provision

/-- Two messages are different and have the same digest. -/
def Sha256.Collide (first second : Bytes) : Prop := first ≠ second ∧ digest first = digest second

namespace Naming

variable {zone other : String} {number count : Nat}

/-! ### What is hashed -/

theorem colon_notMem_toDigits (number : Nat) : ':' ∉ Nat.toDigits 10 number := by
  intro member
  have digit := Decimal.isDigit_of_mem_toDigits member
  exact absurd digit (by decide)

/-- **What is hashed belongs to one identifier and one number.** -/
theorem hashed_inj :
    hashed zone number = hashed other count ↔ zone = other ∧ number = count := by
  refine ⟨fun same => ?_, fun ⟨zones, numbers⟩ => by rw [zones, numbers]⟩
  rw [hashed, hashed, Utf8.encode_inj] at same
  -- no digit is a colon, so both texts are cut at their last one
  obtain ⟨zones, digits⟩ := eq_of_separated same (.inr (colon_notMem_toDigits number))
    (.inr (colon_notMem_toDigits count))
  exact ⟨String.toList_inj.mp zones, Decimal.toDigits_inj.mp digits⟩

/-! ### Names that are not cut -/

theorem digitChar_inj {first second : Nat} (small : first < 16) (other : second < 16)
    (same : Nat.digitChar first = Nat.digitChar second) : first = second := by
  have every : ∀ first < 16, ∀ second < 16,
      Nat.digitChar first = Nat.digitChar second → first = second := by decide
  exact every first small second other same

theorem hexDigits_inj {first second : UInt8} (same : hexDigits first = hexDigits second) :
    first = second := by
  have bound := first.toNat_lt
  have limit := second.toNat_lt
  simp only [hexDigits, List.cons.injEq, and_true] at same
  have high := digitChar_inj (by omega) (by omega) same.1
  have low := digitChar_inj (by omega) (by omega) same.2
  apply UInt8.toNat_inj.mp
  omega

/-- **Hexadecimal digits belong to one byte string.** -/
theorem hex_inj {first second : Bytes} : hex first = hex second ↔ first = second := by
  refine ⟨fun same => ?_, congrArg hex⟩
  induction first generalizing second with
  | nil =>
      cases second with
      | nil => rfl
      | cons head tail => cases same
  | cons byte rest hyp =>
      cases second with
      | nil => cases same
      | cons head tail =>
          have parts : hexDigits byte ++ hex rest = hexDigits head ++ hex tail := same
          obtain ⟨digits, others⟩ := List.append_inj parts rfl
          rw [hexDigits_inj digits, hyp others]

theorem name_of_long {length : Nat} (long : 66 ≤ length) :
    name zone number length = String.ofList (fullName zone number) := by
  rw [name, List.take_of_length_le]
  rw [length_fullName]
  omega

/-- **Names that are not cut are equal exactly if the digests are.** -/
theorem name_eq_iff {length limit : Nat} (long : 66 ≤ length) (wide : 66 ≤ limit) :
    name zone number length = name other count limit ↔
      Sha256.digest (hashed zone number) = Sha256.digest (hashed other count) := by
  rw [name_of_long long, name_of_long wide, String.ofList_inj, fullName, fullName,
    List.append_cancel_left_eq, hex_inj]

end Naming

open Naming in
/-- **Names collide only where digests do.** What is hashed for a name belongs to one identifier and one
number. So two sequences draw the same name, where names are not cut, exactly if they are at the same
number of the same landing zone or if the two messages that they hash collide. -/
theorem uncut_names_collide_with_digests :
    (∀ zone other number count,
      hashed zone number = hashed other count ↔ zone = other ∧ number = count) ∧
    ∀ (first second : NameSequence) (length limit : Nat), 66 ≤ length → 66 ≤ limit →
      ((first.next length).1 = (second.next limit).1 ↔ first = second ∨
        Sha256.Collide (hashed first.zone first.number.toNat)
          (hashed second.zone second.number.toNat)) := by
  refine ⟨fun zone other number count => hashed_inj, fun first second length limit long wide => ?_⟩
  have apart : first = second ↔
      hashed first.zone first.number.toNat = hashed second.zone second.number.toNat := by
    rw [hashed_inj, UInt64.toNat_inj]
    cases first
    cases second
    simp
  have digests : (first.next length).1 = (second.next limit).1 ↔
      Sha256.digest (hashed first.zone first.number.toNat) =
        Sha256.digest (hashed second.zone second.number.toNat) := name_eq_iff long wide
  rw [digests, apart, Sha256.Collide]
  by_cases same : hashed first.zone first.number.toNat = hashed second.zone second.number.toNat <;>
    simp [same]

/-- The first name of an identifier that ends in a colon and a digit, and the eleventh of the identifier
without them: the texts that are hashed differ in the last colon alone. -/
theorem colons_in_zones_are_told_apart :
    let first : NameSequence := ⟨"zone:1", 0⟩
    let second : NameSequence := ⟨"zone", 10⟩
    66 ≤ 66 ∧ 66 ≤ 80 ∧ (first.next 66).1 ≠ (second.next 80).1 ∧
      ¬Sha256.Collide (Naming.hashed "zone:1" 0) (Naming.hashed "zone" 10) := by
  intro first second
  have law := uncut_names_collide_with_digests.2 first second 66 80 (by decide) (by decide)
  have drawn : (first.next 66).1 ≠ (second.next 80).1 := by decide +kernel
  exact ⟨by decide, by decide, drawn, fun collide => drawn (law.mpr (.inr collide))⟩

end Provision
