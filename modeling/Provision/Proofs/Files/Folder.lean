/-
**Folders.**

A path that leads to a directory, which the paths of its files start with:

* `FileTree.Folder` says that a path leads to a directory, and `Folder.resolve_vacant` and
  `Folder.resolve_file` what the paths of its files lead to;
* `Folder.makeDirectory_eq` and `Folder.isDirectory_eq`: a folder need not be made;
* `Folder.mono`: it stays a folder as long as directories and links stay.
-/

import Provision.Proofs.Files.Joins
import Provision.Proofs.Files.Walk

namespace Provision.FileTree

variable {tree : FileTree} {directory route : Route} {path name : String}

/-- A name that a file can have. -/
structure IsFileName (name : String) : Prop extends IsName name, Path.IsPlain name

/-- A path that leads to a directory; an empty one leads to the current directory. -/
structure Folder (tree : FileTree) (directory : Route) (path : String) (route : Route) : Prop where
  walk : Walk tree maximumLinks (start directory path) (Path.segments path) route
  noNul : '\x00' ∉ path.toList

/-- Slashes lead nowhere. -/
theorem Walk.eq_of_slashes {links : Nat} {slashes : List String}
    (walk : Walk tree links directory slashes route) (empty : ∀ segment ∈ slashes, segment = "") :
    directory = route := by
  induction walk with
  | done links directory => rfl
  | idle idle further hyp => exact hyp fun segment member => empty segment (List.mem_cons_of_mem _ member)
  | up further hyp => exact absurd (empty ".." List.mem_cons_self) (by decide)
  | down name below further hyp => exact absurd (empty _ List.mem_cons_self) name.nonempty
  | link name linked nonempty further hyp =>
      exact absurd (empty _ List.mem_cons_self) name.nonempty

theorem resolvePart_eq {ending : Ending} {segments : List String} (noNul : '\x00' ∉ path.toList)
    (nonempty : path ≠ "") (short : path.utf8ByteSize ≤ maximumPath) :
    tree.resolvePart ending directory path segments =
      tree.resolveSegments ending maximumLinks (start directory path) segments := by
  rw [resolvePart, if_neg (by simpa using noNul), if_neg (by simpa using nonempty),
    if_neg (Nat.not_lt.mpr short)]

/-- The last name of a path is followed by nothing but slashes. -/
theorem exists_segments_of_dropWhile {above : List String}
    (stripped : (Path.segments path).reverse.dropWhile (· == "") = name :: above) :
    ∃ slashes, Path.segments path = above.reverse ++ name :: slashes ∧
      (∀ segment ∈ slashes, segment = "") ∧ name ≠ "" := by
  refine ⟨((Path.segments path).reverse.takeWhile (· == "")).reverse, ?_, fun segment member => ?_, ?_⟩
  · have parts := List.takeWhile_append_dropWhile (p := (· == "")) (l := (Path.segments path).reverse)
    rw [stripped] at parts
    have back := congrArg List.reverse parts
    rw [List.reverse_append, List.reverse_cons, List.reverse_reverse, List.append_assoc] at back
    exact back.symm
  · exact eq_of_beq (List.all_eq_true.mp List.all_takeWhile segment (List.mem_reverse.mp member))
  · have written := List.head?_dropWhile_not (· == "") (Path.segments path).reverse
    rw [stripped] at written
    rintro rfl
    exact absurd (show ("" == "") = false from written) (by decide)

namespace Folder

/-- The current directory. -/
theorem here (tree : FileTree) (directory : Route) : Folder tree directory "" directory where
  walk := .idle (.inl rfl) (.done _ _)
  noNul := by decide

theorem of_resolve (leads : tree.resolve .target directory path = .ok (.existing route .directory)) :
    Folder tree directory path route := by
  rw [resolve, resolvePart] at leads
  split at leads
  · cases leads
  next noNul =>
    split at leads
    · cases leads
    split at leads
    · cases leads
    exact ⟨.of_resolveSegments leads, by simpa using noNul⟩

theorem mono {later : FileTree} (folder : Folder tree directory path route)
    (keeps : ∀ (route : Route) (entry : Entry), tree.entry? route = some entry →
      (∀ bytes modified, entry ≠ .file bytes modified) → later.entry? route = some entry) :
    Folder later directory path route := ⟨folder.walk.mono keeps, folder.noNul⟩

/-! ### Files of a folder -/

/-- In any tree the path of a file starts with the segments that lead to the folder in one. -/
theorem exists_walk_join (folder : Folder tree directory path route) (named : IsFileName name)
    (short : (Path.join path name).utf8ByteSize ≤ maximumPath) :
    ∃ first, Walk tree maximumLinks (start directory path) first route ∧
      ∀ (other : FileTree) (ending : Ending), other.resolve ending directory (Path.join path name) =
        other.resolveSegments ending maximumLinks (start directory path) (first ++ [name]) := by
  have plain := named.toIsPlain
  obtain ⟨first, slashes, whole, empty, joined⟩ := Path.exists_segments_join plain path
  have walk := folder.walk
  rw [whole] at walk
  obtain ⟨left, middle, before, behind⟩ := walk.split
  obtain rfl := behind.eq_of_slashes empty
  have noNul : '\x00' ∉ (Path.join path name).toList := fun member => by
    rcases Path.mem_toList_join plain member with inside | slash | inside
    · exact folder.noNul inside
    · exact absurd slash (by decide)
    · exact plain.noNul inside
  have same : start directory (Path.join path name) = start directory path := by
    rw [start, start, Path.isAbsolute_join plain]
  refine ⟨first, before, fun other ending => ?_⟩
  rw [resolve, resolvePart_eq noNul (Path.join_ne_empty plain path) short, joined, same]

/-- The path of a file is followed to the folder. -/
theorem resolve_join (folder : Folder tree directory path route) (named : IsFileName name)
    (short : (Path.join path name).utf8ByteSize ≤ maximumPath) (ending : Ending) :
    ∃ left, tree.resolve ending directory (Path.join path name) =
      tree.resolveSegments ending left route [name] := by
  obtain ⟨first, walk, joined⟩ := folder.exists_walk_join named short
  rw [joined]
  exact walk.resolveSegments_append [name] (.inr ⟨name, List.mem_singleton_self name, named.nonempty⟩)

theorem resolve_vacant (folder : Folder tree directory path route) (named : IsFileName name)
    (short : (Path.join path name).utf8ByteSize ≤ maximumPath)
    (vacant : tree.entry? (route ++ [name]) = none) (ending : Ending) :
    tree.resolve ending directory (Path.join path name) = .ok (.vacant (route ++ [name]) false) := by
  obtain ⟨left, same⟩ := folder.resolve_join named short ending
  exact same.trans (resolveSegments_vacant named.toIsName (Bool.and_false _) vacant)

theorem resolve_file (folder : Folder tree directory path route) (named : IsFileName name)
    (short : (Path.join path name).utf8ByteSize ≤ maximumPath) {bytes : Bytes} {modified : Instant}
    (file : tree.entry? (route ++ [name]) = some (.file bytes modified)) (ending : Ending) :
    tree.resolve ending directory (Path.join path name) =
      .ok (.existing (route ++ [name]) (.file bytes modified)) := by
  obtain ⟨left, same⟩ := folder.resolve_join named short ending
  exact same.trans (resolveSegments_file named.toIsName (Bool.and_false _) file)

/-! ### The folder itself -/

theorem isDirectory_eq (folder : Folder tree directory path route) (nonempty : path ≠ "")
    (short : path.utf8ByteSize ≤ maximumPath) : tree.isDirectory directory path = true := by
  rw [isDirectory, resolve, resolvePart_eq folder.noNul nonempty short, folder.walk.resolveSegments]

/-- **A folder need not be made.** -/
theorem makeDirectory_eq (folder : Folder tree directory path route) (nonempty : path ≠ "")
    (short : path.utf8ByteSize ≤ maximumPath) :
    tree.makeDirectory directory path = .error .alreadyExists := by
  unfold makeDirectory
  cases stripped : (Path.segments path).reverse.dropWhile (· == "") with
  | nil =>
      simp only [nonempty, String.isEmpty_iff, if_false]
  | cons name above =>
      obtain ⟨slashes, whole, -, written⟩ := exists_segments_of_dropWhile stripped
      have walk := folder.walk
      rw [whole] at walk
      obtain ⟨left, middle, before, behind⟩ := walk.split
      have parent : tree.resolveAbove directory path above.reverse = .ok middle := by
        obtain ⟨left, same⟩ := before.resolveSegments_append [""] (.inl rfl)
        rw [resolveAbove, resolvePart_eq folder.noNul nonempty short, same,
          resolveSegments_idle (.inl rfl), resolveSegments_nil]
        rfl
      simp only [parent]
      show (if name = "." ∨ name = ".." then Except.error FileError.alreadyExists
        else if maximumName < name.utf8ByteSize then .error .nameTooLong
        else if (tree.entry? (middle ++ [name])).isSome then .error .alreadyExists
        else .ok (tree.insert (middle ++ [name]) .directory)) = _
      by_cases dots : name = "." ∨ name = ".."
      · rw [if_pos dots]
      rw [if_neg dots]
      cases behind with
      | idle idle further =>
          rcases idle with empty | dot
          · exact absurd empty written
          · exact absurd (.inl dot) dots
      | up further => exact absurd (.inr rfl) dots
      | down named below further => rw [if_neg (Nat.not_lt.mpr named.short), below]; rfl
      | link named linked nonempty further =>
          rw [if_neg (Nat.not_lt.mpr named.short), linked]
          rfl

end Folder

end Provision.FileTree
