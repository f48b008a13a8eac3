/-
**Trees in which directories are made.**

Making directories changes nothing that is there, so that what a path did not lead to before was out of
reach for want of a directory:

* `FileTree.Grows` says that a tree has become another one by making directories, and
  `grows_makeDirectory` that this is what making a directory does;
* `exists_resolve_of_makeDirectory`: the path of a directory that was made leads to it;
* `Walk.of_grows` takes a walk back to the smaller tree;
* `Shelf.read_eq_of_grows`: a file that is missing once its folder has been made was missing before.
-/

import Provision.Proofs.Files.Creation

namespace Provision.FileTree

variable {tree middle later : FileTree} {directory route : Route} {path name : String}

/-- A tree and a later one that has more directories and is the same otherwise. -/
def Grows (tree later : FileTree) : Prop :=
  ∀ route, later.entry? route = tree.entry? route ∨
    tree.entry? route = none ∧ later.entry? route = some .directory

theorem Grows.refl (tree : FileTree) : Grows tree tree := fun _ => .inl rfl

theorem Grows.trans (first : Grows tree middle) (second : Grows middle later) :
    Grows tree later := fun route => by
  rcases second route with same | ⟨free, made⟩
  · rw [same]
    exact first route
  · rcases first route with same | ⟨-, made'⟩
    · exact .inr ⟨same.symm.trans free, made⟩
    · cases free.symm.trans made'

/-- What is not there in the later tree was not there before. -/
theorem Grows.vacant (grows : Grows tree later) (free : later.entry? route = none) :
    tree.entry? route = none := by
  rcases grows route with same | ⟨-, made⟩
  · exact same.symm.trans free
  · cases free.symm.trans made

theorem grows_insert (nonempty : route ≠ []) (free : tree.entry? route = none) :
    Grows tree (tree.insert route .directory) := fun other => by
  rw [entry?_insert nonempty]
  by_cases same : route = other
  · subst same
    exact .inr ⟨free, if_pos rfl⟩
  · exact .inl (if_neg same)

/-- **A directory is made where nothing is**, by the last name of its path, in the directory that the
path before leads to. -/
theorem exists_of_makeDirectory (made : tree.makeDirectory directory path = .ok later) :
    ∃ above first name slashes, Path.segments path = first ++ name :: slashes ∧
      (∀ segment ∈ slashes, segment = "") ∧ IsName name ∧
        tree.resolveAbove directory path first = .ok above ∧
          tree.entry? (above ++ [name]) = none ∧ later = tree.insert (above ++ [name]) .directory := by
  unfold makeDirectory at made
  split at made
  · split at made <;> cases made
  next name above stripped =>
    obtain ⟨slashes, whole, empty, written⟩ := exists_segments_of_dropWhile stripped
    cases parent : tree.resolveAbove directory path above.reverse with
    | error error =>
        rw [parent] at made
        cases made
    | ok route =>
        rw [parent] at made
        change (if name = "." ∨ name = ".." then Except.error FileError.alreadyExists
          else if maximumName < name.utf8ByteSize then .error .nameTooLong
          else if (tree.entry? (route ++ [name])).isSome then .error .alreadyExists
          else .ok (tree.insert (route ++ [name]) .directory)) = .ok later at made
        split at made
        · cases made
        next noDots =>
        split at made
        · cases made
        next short =>
        split at made
        · cases made
        next free =>
          cases made
          obtain ⟨noDot, noDots⟩ := not_or.mp noDots
          exact ⟨route, above.reverse, name, slashes, whole, empty,
            ⟨written, noDot, noDots, Nat.not_lt.mp short⟩, parent, by simpa using free, rfl⟩

/-- **Making a directory changes nothing that is there.** -/
theorem grows_makeDirectory (made : tree.makeDirectory directory path = .ok later) :
    Grows tree later := by
  obtain ⟨above, -, name, -, -, -, -, -, free, rfl⟩ := exists_of_makeDirectory made
  exact grows_insert (List.append_ne_nil_of_right_ne_nil _ (List.cons_ne_nil _ _)) free

/-- **A directory that was made is there.** -/
theorem exists_resolve_of_makeDirectory (made : tree.makeDirectory directory path = .ok later) :
    ∃ route, later.resolve .target directory path = .ok (.existing route .directory) := by
  have grows := grows_makeDirectory made
  obtain ⟨above, first, name, slashes, whole, empty, named, parent, -, rfl⟩ :=
    exists_of_makeDirectory made
  refine ⟨above ++ [name], ?_⟩
  rw [resolveAbove, resolvePart] at parent
  split at parent
  · cases parent
  next noNul =>
  split at parent
  · cases parent
  next nonempty =>
  split at parent
  · cases parent
  next short =>
  rw [resolve, resolvePart_eq (by simpa using noNul) (by simpa using nonempty) (Nat.not_lt.mp short),
    whole]
  cases leads : tree.resolveSegments .target maximumLinks (start directory path) (first ++ [""]) with
  | error error =>
      rw [leads] at parent
      cases parent
  | ok place =>
      rw [leads] at parent
      cases place with
      | vacant route slash => cases parent
      | existing route entry =>
          obtain ⟨rfl, rfl⟩ : entry = .directory ∧ route = above := by
            cases entry <;> cases parent
            exact ⟨rfl, rfl⟩
          obtain ⟨left, middle, before, behind⟩ := (Walk.of_resolveSegments leads).split
          obtain rfl := behind.eq_of_slashes fun segment member => List.mem_singleton.mp member
          have stays : ∀ (other : Route) (entry : Entry), tree.entry? other = some entry →
              (∀ bytes modified, entry ≠ .file bytes modified) →
                entry? (tree.insert (middle ++ [name]) .directory) other = some entry :=
            fun other entry found _ => by
              rcases grows other with same | ⟨free, -⟩
              · exact same.trans found
              · cases free.symm.trans found
          obtain ⟨left, same⟩ :=
            (before.mono stays).resolveSegments_append (name :: slashes) (.inl rfl)
          have below : entry? (tree.insert (middle ++ [name]) .directory) (middle ++ [name]) =
              some .directory :=
            (entry?_insert (List.append_ne_nil_of_right_ne_nil _ (List.cons_ne_nil _ _)) _ _).trans
              (if_pos rfl)
          exact same.trans (Walk.down named below
            ((Walk.done left _).append_slashes empty)).resolveSegments

/-- **A walk in the later tree** is open before, or ends where a directory is missing. -/
theorem Walk.of_grows {links : Nat} {first : List String} (walk : Walk later links directory first route)
    (grows : Grows tree later) (ending : Ending) {rest : List String}
    (named : ∃ segment ∈ rest, segment ≠ "") :
    Walk tree links directory first route ∨
      tree.resolveSegments ending links directory (first ++ rest) = .error .notFound := by
  have allows (first : List String) : ending.Allows (first ++ rest) := .append (.inr named) first
  induction walk with
  | done links directory => exact .inl (.done _ _)
  | idle idle further hyp =>
      exact hyp.imp (.idle idle) ((resolveSegments_idle idle).trans ·)
  | up further hyp => exact hyp.imp .up (resolveSegments_up.trans ·)
  | @down links directory route segment others name below further hyp =>
      rcases grows (directory ++ [segment]) with same | ⟨free, -⟩
      · have below := same.symm.trans below
        exact hyp.imp (.down name below)
          ((resolveSegments_down name (allows others).refuses below).trans ·)
      · obtain ⟨inner, member, nonempty⟩ := named
        have inside := List.mem_append_right others member
        refine .inr ((resolveSegments_vacant name (allows others).refuses free).trans ?_)
        rw [areSlashes_eq_false ⟨inner, inside, nonempty⟩,
          List.isEmpty_eq_false_iff.mpr (List.ne_nil_of_mem inside)]
        rfl
  | @link links directory route segment target others name linked nonempty further hyp =>
      have linked : tree.entry? (directory ++ [segment]) = some (.link target) := by
        rcases grows (directory ++ [segment]) with same | ⟨-, made⟩
        · exact same.symm.trans linked
        · cases made.symm.trans linked
      refine hyp.imp (.link name linked nonempty) fun missing => ?_
      refine (resolveSegments_link name (allows others) linked).trans ?_
      simp only [nonempty, Bool.false_eq_true, if_false, ← List.append_assoc]
      exact missing

/-- **A file that is missing once its folder has been made was missing before.** -/
theorem Shelf.read_eq_of_grows {contents : String → Option Bytes}
    (shelf : Shelf later directory path route contents) (grows : Grows tree later)
    (fits : Fits path name) (free : contents name = none) :
    tree.read directory (Path.join path name) = .error .notFound := by
  have held := shelf.holds name
  rw [free] at held
  have vacant := grows.vacant held
  obtain ⟨first, walk, joined⟩ := shelf.folder.exists_walk_join fits.named fits.short
  have named : ∃ segment ∈ [name], segment ≠ "" :=
    ⟨name, List.mem_singleton_self name, fits.named.nonempty⟩
  rw [read, joined]
  rcases walk.of_grows grows .target named with walk | missing
  · obtain ⟨left, same⟩ := walk.resolveSegments_append [name] (.inr named)
    rw [same, resolveSegments_vacant fits.named.toIsName rfl vacant]
    rfl
  · rw [missing]
    rfl

end Provision.FileTree
