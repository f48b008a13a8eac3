/-
**Paths with a name behind them.**

The path of a file in a directory is that of the directory with the name of the file behind it:

* `Path.IsPlain` holds of names that are one segment;
* `Path.join_cases` says how such a path is spelled;
* `Path.exists_segments_join` says what its segments are.
-/

import Provision.Files.Path

namespace Provision.Path

/-- A name that is one segment of a path. -/
structure IsPlain (name : String) : Prop where
  nonempty : name ≠ ""
  noSlash : '/' ∉ name.toList
  noNul : '\x00' ∉ name.toList

theorem split_ne_nil (text : List Char) : split text ≠ [] := by
  cases text with
  | nil => exact List.cons_ne_nil _ _
  | cons first rest =>
      rw [split]
      split
      · exact List.cons_ne_nil _ _
      · split <;> exact List.cons_ne_nil _ _

theorem split_append (first rest : List Char) :
    split (first ++ '/' :: rest) = split first ++ split rest := by
  induction first with
  | nil => rfl
  | cons character others hyp =>
      rw [List.cons_append, split, split, hyp]
      by_cases slash : character = '/'
      · rw [if_pos slash, if_pos slash, List.cons_append]
      · rw [if_neg slash, if_neg slash]
        obtain ⟨segment, more, same⟩ := List.exists_cons_of_ne_nil (split_ne_nil others)
        rw [same]
        rfl

theorem split_of_notMem {text : List Char} (noSlash : '/' ∉ text) : split text = [text] := by
  induction text with
  | nil => rfl
  | cons character others hyp =>
      rw [List.mem_cons, not_or] at noSlash
      rw [split, if_neg (Ne.symm noSlash.1), hyp noSlash.2]

theorem segments_of_toList {path name : String} {base : List Char}
    (spelled : path.toList = base ++ '/' :: name.toList) :
    segments path = (split base).map String.ofList ++ segments name := by
  rw [segments, spelled, split_append, List.map_append]
  rfl

namespace IsPlain

variable {name : String}

theorem segments_eq (plain : IsPlain name) : segments name = [name] := by
  rw [segments, split_of_notMem plain.noSlash, List.map_singleton, String.ofList_toList]

theorem isAbsolute_eq_false (plain : IsPlain name) : isAbsolute name = false := by
  have noSlash := plain.noSlash
  rw [isAbsolute]
  cases spelled : name.toList with
  | nil => rfl
  | cons character rest =>
      rw [spelled, List.mem_cons, not_or] at noSlash
      simpa using Ne.symm noSlash.1

end IsPlain

/-- How a path and a name behind it are joined. -/
theorem join_cases {name : String} (plain : IsPlain name) (base : String) :
    base = "" ∧ join base name = name ∨
      (∃ stem, base.toList = stem ++ ['/'] ∧ (join base name).toList = stem ++ '/' :: name.toList) ∨
      base ≠ "" ∧ (join base name).toList = base.toList ++ '/' :: name.toList := by
  unfold join
  rw [plain.isAbsolute_eq_false, Bool.false_or]
  by_cases empty : base = ""
  · exact .inl ⟨empty, by rw [empty]; rfl⟩
  rw [if_neg (by simpa using empty)]
  by_cases slash : base.toList.getLast? = some '/'
  · obtain ⟨stem, spelled⟩ := List.getLast?_eq_some_iff.mp slash
    refine .inr (.inl ⟨stem, spelled, ?_⟩)
    rw [if_pos (by simpa using slash), String.toList_append, spelled, List.append_assoc]
    rfl
  · refine .inr (.inr ⟨empty, ?_⟩)
    rw [if_neg (by simpa using slash), String.toList_append, String.toList_append, List.append_assoc]
    rfl

/-- **The name takes the place of the slashes at the end of a path.** -/
theorem exists_segments_join {name : String} (plain : IsPlain name) (base : String) :
    ∃ first slashes, segments base = first ++ slashes ∧ (∀ segment ∈ slashes, segment = "") ∧
      segments (join base name) = first ++ [name] := by
  rcases join_cases plain base with ⟨rfl, same⟩ | ⟨stem, spelled, same⟩ | ⟨-, same⟩
  · refine ⟨[], [""], rfl, by simp, ?_⟩
    rw [same, plain.segments_eq]
    rfl
  · have base' : segments base = (split stem).map String.ofList ++ [""] :=
      segments_of_toList (show base.toList = stem ++ '/' :: "".toList from spelled)
    refine ⟨_, [""], base', by simp, ?_⟩
    rw [segments_of_toList same, plain.segments_eq]
  · refine ⟨segments base, [], (List.append_nil _).symm, by simp, ?_⟩
    rw [segments_of_toList same, plain.segments_eq]
    rfl

theorem isAbsolute_join {name : String} (plain : IsPlain name) (base : String) :
    isAbsolute (join base name) = isAbsolute base := by
  rcases join_cases plain base with ⟨rfl, same⟩ | ⟨stem, spelled, same⟩ | ⟨nonempty, same⟩
  · rw [same]
    exact plain.isAbsolute_eq_false
  · rw [isAbsolute, isAbsolute, spelled, same]
    cases stem <;> rfl
  · rw [isAbsolute, isAbsolute, same]
    cases spelled : base.toList with
    | nil => exact absurd (String.toList_eq_nil_iff.mp spelled) nonempty
    | cons character rest => rfl

theorem mem_toList_join {name : String} (plain : IsPlain name) {base : String} {character : Char}
    (member : character ∈ (join base name).toList) :
    character ∈ base.toList ∨ character = '/' ∨ character ∈ name.toList := by
  rcases join_cases plain base with ⟨rfl, same⟩ | ⟨stem, spelled, same⟩ | ⟨nonempty, same⟩
  · rw [same] at member
    exact .inr (.inr member)
  · rw [same, List.mem_append, List.mem_cons] at member
    rw [spelled, List.mem_append]
    rcases member with before | behind
    · exact .inl (.inl before)
    · exact .inr behind
  · rw [same, List.mem_append, List.mem_cons] at member
    exact member

theorem join_ne_empty {name : String} (plain : IsPlain name) (base : String) :
    join base name ≠ "" := by
  intro empty
  have spelled : (join base name).toList = [] := by rw [empty]; rfl
  rcases join_cases plain base with ⟨-, same⟩ | ⟨stem, -, same⟩ | ⟨-, same⟩
  · exact plain.nonempty (same.symm.trans empty)
  · exact List.append_ne_nil_of_right_ne_nil _ (List.cons_ne_nil _ _) (same.symm.trans spelled)
  · exact List.append_ne_nil_of_right_ne_nil _ (List.cons_ne_nil _ _) (same.symm.trans spelled)

/-- A shorter name makes a shorter path. -/
theorem size_join_le {name other : String} (plain : IsPlain name) (plain' : IsPlain other)
    (shorter : name.utf8ByteSize ≤ other.utf8ByteSize) (base : String) :
    (join base name).utf8ByteSize ≤ (join base other).utf8ByteSize := by
  unfold join
  rw [plain.isAbsolute_eq_false, plain'.isAbsolute_eq_false]
  split
  · exact shorter
  split <;> simp only [String.utf8ByteSize_append] <;> omega

/-- A name makes a path longer. -/
theorem size_le_join {name : String} (plain : IsPlain name) (base : String) :
    base.utf8ByteSize ≤ (join base name).utf8ByteSize := by
  unfold join
  rw [plain.isAbsolute_eq_false, Bool.false_or]
  by_cases empty : base = ""
  · rw [empty]
    exact Nat.zero_le _
  rw [if_neg (by simpa using empty)]
  split <;> simp only [String.utf8ByteSize_append] <;> omega

end Provision.Path
