/-
**Texts with separators.**

A text whose parts stand behind separators is taken apart again where the parts hold no separator:

* `eq_of_separated` — a text is cut at a separator in one way, if no cut can be behind the other one;
* `lastSegment_append` and `slash_notMem_lastSegment` — the last segment of a path is what stands behind
  its last slash.
-/

import Provision.Resource.Deployed

namespace Provision

section Cuts

variable {α : Type} {separator : α} {front other between tail rest : List α}

/-- Nothing is between two separators, if the first one is followed by none or none is between. -/
theorem eq_nil_of_separated (same : separator :: tail = between ++ separator :: rest)
    (clean : separator ∉ between ∨ separator ∉ tail) : between = [] ∧ tail = rest := by
  cases between with
  | nil => exact ⟨rfl, (List.cons.inj same).2⟩
  | cons first others =>
      obtain ⟨rfl, behind⟩ := List.cons.inj same
      simp [behind] at clean

/-- **A text is cut at a separator in one way**: of two cuts, the one further on would have a separator
in front of it, and the other one would have it behind. -/
theorem eq_of_separated (same : front ++ separator :: tail = other ++ separator :: rest)
    (ahead : separator ∉ other ∨ separator ∉ tail) (behind : separator ∉ front ∨ separator ∉ rest) :
    front = other ∧ tail = rest := by
  rcases List.append_eq_append_iff.mp same with ⟨between, rfl, cut⟩ | ⟨between, rfl, cut⟩
  · have clean : separator ∉ between ∨ separator ∉ tail :=
      ahead.imp_left fun absent member => absent (List.mem_append_right _ member)
    obtain ⟨rfl, tails⟩ := eq_nil_of_separated cut clean
    exact ⟨(List.append_nil front).symm, tails⟩
  · have clean : separator ∉ between ∨ separator ∉ rest :=
      behind.imp_left fun absent member => absent (List.mem_append_right _ member)
    obtain ⟨rfl, tails⟩ := eq_nil_of_separated cut clean
    exact ⟨List.append_nil other, tails.symm⟩

end Cuts

/-! ### Paths -/

theorem lastSegment_append {tail : List Char} (front : List Char) (clean : '/' ∉ tail) :
    lastSegment (front ++ '/' :: tail) = tail := by
  have kept : ∀ character ∈ tail.reverse, (character != '/') = true := by
    intro character member
    have differs : character ≠ '/' := by
      rintro rfl
      exact clean (List.mem_reverse.mp member)
    simpa using differs
  rw [lastSegment, List.reverse_append, List.reverse_cons, List.append_assoc,
    List.takeWhile_append_of_pos kept]
  simp

theorem slash_notMem_lastSegment (path : List Char) : '/' ∉ lastSegment path := by
  intro member
  have kept := List.all_eq_true.mp List.all_takeWhile '/' (List.mem_reverse.mp member)
  simp at kept

end Provision
