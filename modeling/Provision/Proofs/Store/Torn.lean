/-
**Lock files that were cut short.**

A lock file whose writer stopped half way holds the beginning of what it was to say. As long as the
name of the holder has plain characters only, so has the file:

* `Document.isAscii_lockInfo` says so;
* **`Document.ofBytes?_take_lockInfo`** — no proper beginning of the file is read, and the whole file
  is;
* `Store.lockInfo_take` — either way the lock counts as held since a known time, if the file was last
  written then.
-/

import Provision.Proofs.Json.Beginnings
import Provision.Proofs.Store.Locks
import Provision.Proofs.Text.Ascii

namespace Provision

open Utf8 (IsAscii)

namespace Json

theorem isAscii_hexByte {code : Nat} (control : code < 0x20) : IsAscii (hexByte code) := by
  have every : ∀ code < 0x20, IsAscii (hexByte code) := by decide
  exact every code control

/-- A plain character is spelled in plain characters. -/
theorem isAscii_spellChar {character : Char} (ascii : character.toNat < 128) :
    IsAscii (spellChar character) := by
  have every (letter : Char) (plain : letter.toNat < 128) : IsAscii ['\\', letter] :=
    .cons (by decide) (.cons plain .nil)
  unfold spellChar
  split
  · exact every _ (by decide)
  · exact every _ (by decide)
  · exact every _ (by decide)
  · exact every _ (by decide)
  · exact every _ (by decide)
  · exact every _ (by decide)
  · exact every _ (by decide)
  · split
    · next control =>
        exact .append (.cons (by decide) (.cons (by decide) (.cons (by decide) (.cons (by decide) .nil))))
          (isAscii_hexByte control)
    · exact .cons ascii .nil

theorem isAscii_quoted {text : String} (ascii : IsAscii text.toList) : IsAscii (quoted text) := by
  have body : IsAscii (spellText text) :=
    .flatMap fun character member => isAscii_spellChar (ascii character member)
  exact .append (.cons (by decide) body) (.cons (by decide) .nil)

theorem isAscii_newLine (level : Nat) : IsAscii (newLine level) :=
  .cons (by decide) (.replicate _ (by decide))

/-- Plain texts are laid out in plain characters. -/
theorem isAscii_prettyMembers (level : Nat) (members : List (String × String))
    (ascii : ∀ member ∈ members, IsAscii member.1.toList ∧ IsAscii member.2.toList) :
    IsAscii (prettyMembers level (members.map fun member => (member.1, .string member.2))) := by
  induction members with
  | nil => exact .nil
  | cons member rest hyp =>
      obtain ⟨key, text⟩ := member
      obtain ⟨⟨named, plain⟩, others⟩ := List.forall_mem_cons.mp ascii
      rw [List.map_cons, prettyMembers, prettyAt]
      exact .append (.append (.append (.append (.cons (by decide) (isAscii_newLine level))
        (isAscii_quoted named)) (.cons (by decide) (.cons (by decide) .nil)))
          (isAscii_quoted plain)) (hyp others)

end Json

namespace Instant

theorem isAscii_padded (width value : Nat) : IsAscii (padded width value) :=
  .of_isDigit fun _ member => isDigit_of_mem_padded member

theorem isAscii_yearText (year : Int) : IsAscii (yearText year) := by
  unfold yearText
  split
  · exact isAscii_padded _ _
  · split
    · exact .cons (by decide) (isAscii_padded _ _)
    · exact .cons (by decide) (isAscii_padded _ _)

theorem isAscii_fractionText (nanos : Nat) : IsAscii (fractionText nanos) := by
  unfold fractionText
  split
  · exact .nil
  split
  · exact .cons (by decide) (isAscii_padded _ _)
  split
  · exact .cons (by decide) (isAscii_padded _ _)
  · exact .cons (by decide) (isAscii_padded _ _)

/-- An instant is written in plain characters. -/
theorem isAscii_text (instant : Instant) : IsAscii instant.text.toList := by
  have part (separator : Char) (plain : separator.toNat < 128) (value : Nat) :
      IsAscii (separator :: padded 2 value) := .cons plain (isAscii_padded 2 value)
  rw [text, String.toList_ofList, clockText]
  refine .append (.append ?_ (isAscii_fractionText _)) (.cons (by decide) .nil)
  exact .append (.append (.append (.append (.append (isAscii_yearText _) (part '-' (by decide) _))
    (part '-' (by decide) _)) (part 'T' (by decide) _)) (part ':' (by decide) _))
      (part ':' (by decide) _)

end Instant

namespace Document

variable {info : LockInfo}

/-- The document of a lock. -/
def lockText (info : LockInfo) : List Char := Json.prettyAt 0 (encode info)

/-- A lock whose holder has a plain name is written in plain characters. -/
theorem isAscii_lockText (ascii : IsAscii info.holder.toList) : IsAscii (lockText info) := by
  have members := Json.isAscii_prettyMembers 1 [("acquired_at", info.since.text)] fun member inside => by
    obtain rfl := List.mem_singleton.mp inside
    have key : IsAscii "acquired_at".toList := by decide
    exact ⟨key, info.since.isAscii_text⟩
  have holder : IsAscii (Json.quoted "holder") := Json.isAscii_quoted (by decide)
  exact .append (.append (.append (.append (.append (.append
    (.cons (by decide) (Json.isAscii_newLine 1)) holder) (.cons (by decide) (.cons (by decide) .nil)))
      (Json.isAscii_quoted ascii)) members) (Json.isAscii_newLine 0)) (.cons (by decide) .nil)

/-- The beginnings of a lock file are texts. -/
theorem characters?_take_lockInfo (ascii : IsAscii info.holder.toList) (count : Nat) :
    (Utf8.characters? ((toBytes info).take count)).isNone = false := by
  rw [show toBytes info = Utf8.encode (lockText info) from rfl,
    Utf8.take_encode (isAscii_lockText ascii), Utf8.characters?_encode]
  rfl

/-- **A lock file that was cut short is not read, a whole one is.** -/
theorem ofBytes?_take_lockInfo (ascii : IsAscii info.holder.toList) (nameable : info.since.Nameable)
    (count : Nat) :
    ofBytes? ((toBytes info).take count) = if count < (toBytes info).length then none else some info := by
  have same : toBytes info = Utf8.encode (lockText info) := rfl
  split
  next proper =>
    rw [same, Utf8.length_encode (isAscii_lockText ascii)] at proper
    rw [ofBytes?, same, Utf8.take_encode (isAscii_lockText ascii), Json.ofBytes?, Utf8.decode_encode]
    have unread : Json.read? (((lockText info).take count).map some) = none :=
      Json.read?_beginning proper
    rw [unread]
    rfl
  next whole =>
    rw [List.take_of_length_le (Nat.le_of_not_lt whole)]
    exact ofBytes?_toBytes (faithful_lockInfo nameable)

end Document

/-- **Whether or not a lock file was cut short, it says since when the lock is held**, if the file was
last written then. -/
theorem Store.lockInfo_take {store : Store} {reader : String} {ticking : Ticking} {info : LockInfo}
    (ascii : IsAscii info.holder.toList) (nameable : info.since.Nameable)
    (written : (Ticking.host reader).disk.modified store.lockPath ticking = (.ok info.since, ticking))
    (count : Nat) :
    ∃ holder, store.lockInfo (Ticking.host reader) ((Document.toBytes info).take count) ticking =
      (.ok (some ⟨holder, info.since⟩), ticking) := by
  unfold lockInfo
  rw [Document.characters?_take_lockInfo ascii, if_neg Bool.false_ne_true,
    Document.ofBytes?_take_lockInfo ascii nameable]
  by_cases proper : count < (Document.toBytes info).length
  · refine ⟨"unknown", ?_⟩
    rw [if_pos proper]
    show ((Ticking.host reader).disk.modified store.lockPath >>= _) ticking = _
    rw [bind_apply, written]
    rfl
  · refine ⟨info.holder, ?_⟩
    rw [if_neg proper]
    rfl

end Provision
