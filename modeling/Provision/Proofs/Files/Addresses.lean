/-
**Trees without links.**

Where there are no symbolic links, a path can be followed without looking: it leads to its address, if it
leads anywhere. What an operation changes can then be told from its path alone:

* `FileTree.LinkFree` is a tree without links, `FileTree.address` the address of a path;
* `FileTree.resolve_standsAt`: what a path leads to stands at its address;
* `FileTree.makeDirectory_eq_ok`, `FileTree.write_eq_ok` and their like say what has become of the tree
  when an operation succeeded.
-/

import Provision.Proofs.Files.Creation

namespace Provision.FileTree

/-- There are no symbolic links in a tree. -/
def LinkFree (tree : FileTree) : Prop := ∀ route target, tree.entry? route ≠ some (.link target)

/-- Where segments lead from a directory as far as they can be told, whatever there is. -/
def follow (directory : Route) (segments : List String) : Route :=
  segments.foldl
    (fun route segment =>
      if segment = "" ∨ segment = "." then route
      else if segment = ".." then route.dropLast
      else route ++ [segment])
    directory

/-- The address of a path. -/
def address (directory : Route) (path : String) : Route :=
  follow (start directory path) (Path.segments path)

/-- What a path has led to stands at a route. Nothing else is said of a directory than that it can be
entered. -/
def Place.StandsAt (tree : FileTree) (route : Route) : Place → Prop
  | .existing other .directory => other = route
  | .existing other entry => other = route ∧ tree.entry? route = some entry
  | .vacant other _ => other = route ∧ tree.entry? route = none

variable {tree later : FileTree} {directory route : Route} {path name : String} {ending : Ending}
  {segments : List String}

/-! ### Building trees without links -/

theorem linkFree_empty : (∅ : FileTree).LinkFree := by
  intro route target found
  cases route with
  | nil => cases found
  | cons segment rest =>
      have missing : entry? (∅ : FileTree) (segment :: rest) = none := Std.ExtTreeMap.getElem?_empty
      cases missing.symm.trans found

theorem LinkFree.insert (free : tree.LinkFree) (nonempty : route ≠ []) {entry : Entry}
    (noLink : ∀ target, entry ≠ .link target) : LinkFree (tree.insert route entry) := by
  intro other target found
  rw [entry?_insert nonempty] at found
  split at found
  · exact noLink target (Option.some.inj found)
  · exact free other target found

theorem LinkFree.make (free : tree.LinkFree) (nonempty : route ≠ []) :
    LinkFree (tree.insert route .directory) :=
  free.insert nonempty fun _ same => nomatch same

/-! ### Following segments -/

theorem follow_append (directory : Route) (first rest : List String) :
    follow directory (first ++ rest) = follow (follow directory first) rest :=
  List.foldl_append

theorem follow_idle {segment : String} (idle : segment = "" ∨ segment = ".") (directory : Route)
    (rest : List String) : follow directory (segment :: rest) = follow directory rest :=
  congrArg (follow · rest) (if_pos idle)

theorem follow_up (directory : Route) (rest : List String) :
    follow directory (".." :: rest) = follow directory.dropLast rest := rfl

theorem follow_name {segment : String} (notIdle : ¬(segment = "" ∨ segment = "."))
    (noDots : segment ≠ "..") (directory : Route) (rest : List String) :
    follow directory (segment :: rest) = follow (directory ++ [segment]) rest :=
  congrArg (follow · rest) ((if_neg notIdle).trans (if_neg noDots))

theorem follow_slashes (empty : ∀ segment ∈ segments, segment = "") (directory : Route) :
    follow directory segments = directory := by
  induction segments with
  | nil => rfl
  | cons segment rest hyp =>
      obtain ⟨own, others⟩ := List.forall_mem_cons.mp empty
      rw [follow_idle (.inl own), hyp others]

/-- The address of a file is that of its directory with its name behind it. -/
theorem address_join (named : IsFileName name) (directory : Route) (path : String) :
    address directory (Path.join path name) = address directory path ++ [name] := by
  obtain ⟨first, slashes, whole, empty, joined⟩ :=
    Path.exists_segments_join named.toIsPlain path
  have same : start directory (Path.join path name) = start directory path := by
    rw [start, start, Path.isAbsolute_join named.toIsPlain]
  rw [address, address, joined, whole, same, follow_append, follow_append, follow_slashes empty,
    follow_name (not_or.mpr ⟨named.nonempty, named.noDot⟩) named.noDots]
  rfl

/-! ### Following paths -/

theorem areSlashes_forall (slashes : areSlashes segments = true) :
    ∀ segment ∈ segments, segment = "" := by
  simp only [areSlashes, Bool.and_eq_true, List.all_eq_true, beq_iff_eq] at slashes
  exact slashes.2

/-- Without links, segments lead to where they seem to. -/
theorem reach_standsAt (free : tree.LinkFree) {place : Place}
    (leads : tree.reach ending directory segments = .place place) :
    place.StandsAt tree (follow directory segments) := by
  induction segments generalizing directory with
  | nil =>
      cases leads
      rfl
  | cons segment rest hyp =>
      unfold reach at leads
      split at leads
      next idle =>
        rw [follow_idle idle]
        exact hyp leads
      next notIdle =>
        split at leads
        next dots =>
          subst dots
          rw [follow_up]
          exact hyp leads
        next noDots =>
          rw [follow_name notIdle noDots]
          split at leads
          · cases leads
          split at leads
          · cases leads
          simp only at leads
          split at leads
          next vacant =>
            split at leads
            next last =>
              cases leads
              have empty : ∀ segment ∈ rest, segment = "" := by
                rcases Bool.or_eq_true_iff.mp last with none | slashes
                · rw [List.isEmpty_iff.mp none]
                  exact fun _ member => nomatch member
                · exact areSlashes_forall slashes
              rw [follow_slashes empty]
              exact ⟨rfl, vacant⟩
            next => cases leads
          next => exact hyp leads
          next file =>
            split at leads
            next last =>
              cases leads
              rw [List.isEmpty_iff.mp last]
              exact ⟨rfl, file⟩
            next => cases leads
          next linked => exact absurd linked (free _ _)

/-- Without links, none is met. -/
theorem reach_ne_link (free : tree.LinkFree) {inside : Route} {target : String} {rest : List String} :
    tree.reach ending directory segments ≠ .link inside target rest := by
  induction segments generalizing directory with
  | nil =>
      intro met
      cases met
  | cons segment others hyp =>
      intro met
      unfold reach at met
      split at met
      · exact hyp met
      split at met
      · exact hyp met
      split at met
      · cases met
      split at met
      · cases met
      simp only at met
      split at met
      · split at met <;> cases met
      · exact hyp met
      · split at met <;> cases met
      next linked => exact absurd linked (free _ _)

theorem resolvePart_standsAt (free : tree.LinkFree) {place : Place}
    (leads : tree.resolvePart ending directory path segments = .ok place) :
    place.StandsAt tree (follow (start directory path) segments) := by
  rw [resolvePart] at leads
  split at leads
  · cases leads
  split at leads
  · cases leads
  split at leads
  · cases leads
  rw [resolveSegments_eq] at leads
  cases reached : tree.reach ending (start directory path) segments with
  | place other =>
      rw [reached] at leads
      cases leads
      exact reach_standsAt free reached
  | stuck error =>
      rw [reached] at leads
      cases leads
  | link inside target rest => exact absurd reached (reach_ne_link free)

/-- **What a path leads to stands at its address.** -/
theorem resolve_standsAt (free : tree.LinkFree) {place : Place}
    (leads : tree.resolve ending directory path = .ok place) :
    place.StandsAt tree (address directory path) :=
  resolvePart_standsAt free leads

theorem Walk.route_eq {links : Nat} (walk : Walk tree links directory segments route)
    (free : tree.LinkFree) : route = follow directory segments := by
  induction walk with
  | done links directory => rfl
  | idle idle further hyp => rw [follow_idle idle, hyp]
  | up further hyp => exact hyp
  | down name below further hyp =>
      rw [follow_name (not_or.mpr ⟨name.nonempty, name.noDot⟩) name.noDots, hyp]
  | link name linked nonempty further hyp => exact absurd linked (free _ _)

/-- A folder is at its address. -/
theorem Folder.route_eq (folder : Folder tree directory path route) (free : tree.LinkFree) :
    route = address directory path :=
  folder.walk.route_eq free

/-! ### Operations -/

/-- An operation that succeeded in two steps succeeded in each of them. -/
theorem exists_of_bind_eq_ok {ε α β : Type} {first : Except ε α} {next : α → Except ε β} {value : β}
    (done : first >>= next = .ok value) : ∃ found, first = .ok found ∧ next found = .ok value := by
  cases first with
  | error error => cases done
  | ok found => exact ⟨found, rfl, done⟩

theorem ne_nil_of_entry?_eq_none (vacant : tree.entry? route = none) : route ≠ [] := by
  rintro rfl
  cases vacant

theorem entry?_ne_directory_of_none (vacant : tree.entry? route = none) :
    tree.entry? route ≠ some .directory := by
  rw [vacant]
  exact fun same => nomatch same

theorem entry?_ne_directory_of_file {bytes : Bytes} {modified : Instant}
    (file : tree.entry? route = some (.file bytes modified)) :
    tree.entry? route ≠ some .directory := by
  rw [file]
  exact fun same => nomatch same

theorem resolveAbove_eq_ok (free : tree.LinkFree)
    (leads : tree.resolveAbove directory path segments = .ok route) :
    route = follow (start directory path) segments := by
  unfold resolveAbove at leads
  obtain ⟨place, resolved, leads⟩ := exists_of_bind_eq_ok leads
  have stands := resolvePart_standsAt free resolved
  rw [follow_append, follow_idle (.inl rfl)] at stands
  cases place with
  | vacant other slash => cases leads
  | existing other entry =>
      cases entry with
      | file bytes modified => cases leads
      | link target => cases leads
      | directory =>
          cases leads
          exact stands

/-- The last name of a path, with what is in front of it and the slashes behind. -/
theorem exists_slashes {above : List String}
    (stripped : segments.reverse.dropWhile (· == "") = name :: above) :
    name ≠ "" ∧ ∃ slashes, segments = above.reverse ++ name :: slashes ∧
      ∀ segment ∈ slashes, segment = "" := by
  constructor
  · have written := List.head?_dropWhile_not (· == "") segments.reverse
    rw [stripped] at written
    simpa using written
  · refine ⟨(segments.reverse.takeWhile (· == "")).reverse, ?_, ?_⟩
    · have parts := List.takeWhile_append_dropWhile (p := (· == "")) (l := segments.reverse)
      rw [stripped] at parts
      have back := congrArg List.reverse parts
      rw [List.reverse_append, List.reverse_cons, List.reverse_reverse, List.append_assoc] at back
      exact back.symm
    · intro segment member
      have all := List.all_takeWhile (p := (· == "")) (l := segments.reverse)
      simpa using List.all_eq_true.mp all segment (List.mem_reverse.mp member)

/-- **A directory is made at its address**, where nothing is. -/
theorem makeDirectory_eq_ok (free : tree.LinkFree)
    (made : tree.makeDirectory directory path = .ok later) :
    tree.entry? (address directory path) = none ∧
      later = tree.insert (address directory path) .directory := by
  unfold makeDirectory at made
  split at made
  · split at made <;> cases made
  next name above stripped =>
    obtain ⟨nonempty, slashes, whole, empty⟩ := exists_slashes stripped
    obtain ⟨route, parent, made⟩ := exists_of_bind_eq_ok made
    change (if name = "." ∨ name = ".." then Except.error FileError.alreadyExists
      else if maximumName < name.utf8ByteSize then .error .nameTooLong
      else if (tree.entry? (route ++ [name])).isSome then .error .alreadyExists
      else .ok (tree.insert (route ++ [name]) .directory)) = .ok later at made
    split at made
    · cases made
    next noDots =>
    split at made
    · cases made
    split at made
    · cases made
    next vacant =>
    have here : address directory path = route ++ [name] := by
      rw [address, whole, follow_append, ← resolveAbove_eq_ok free parent,
        follow_name (not_or.mpr ⟨nonempty, fun dot => noDots (.inl dot)⟩)
          fun dots => noDots (.inr dots), follow_slashes empty]
    rw [here]
    exact ⟨by simpa using vacant, (Except.ok.inj made).symm⟩

/-- A file is written at its address. -/
theorem write_eq_ok (free : tree.LinkFree) {bytes : Bytes} {now : Instant}
    (written : tree.write directory path bytes now = .ok later) :
    tree.entry? (address directory path) ≠ some .directory ∧
      later = tree.insert (address directory path) (.file bytes now) := by
  unfold write at written
  obtain ⟨place, resolved, written⟩ := exists_of_bind_eq_ok written
  have stands := resolve_standsAt free resolved
  cases place with
  | existing other entry =>
      cases entry with
      | directory => cases written
      | link target => cases written
      | file old modified =>
          obtain ⟨rfl, file⟩ := stands
          exact ⟨entry?_ne_directory_of_file file, (Except.ok.inj written).symm⟩
  | vacant other slash =>
      obtain ⟨rfl, vacant⟩ := stands
      cases slash with
      | true => cases written
      | false => exact ⟨entry?_ne_directory_of_none vacant, (Except.ok.inj written).symm⟩

/-- A file is created at its address, where nothing is. -/
theorem create_eq_ok_of_linkFree (free : tree.LinkFree) {bytes : Bytes} {now : Instant}
    (created : tree.create directory path bytes now = .ok later) :
    tree.entry? (address directory path) ≠ some .directory ∧
      later = tree.insert (address directory path) (.file bytes now) := by
  obtain ⟨route, resolved, rfl⟩ := create_eq_ok created
  obtain ⟨rfl, vacant⟩ := resolve_standsAt free resolved
  exact ⟨entry?_ne_directory_of_none vacant, rfl⟩

/-- A copy is written at its own address. -/
theorem copy_eq_ok (free : tree.LinkFree) {source target : String} {now : Instant}
    (copied : tree.copy directory source target now = .ok later) :
    ∃ bytes, tree.entry? (address directory target) ≠ some .directory ∧
      later = tree.insert (address directory target) (.file bytes now) := by
  unfold copy at copied
  obtain ⟨place, -, copied⟩ := exists_of_bind_eq_ok copied
  cases place with
  | vacant other slash => cases copied
  | existing other entry =>
      cases entry with
      | directory => cases copied
      | link target => cases copied
      | file bytes modified => exact ⟨_, write_eq_ok free copied⟩

/-- A file that is given another name is gone from its old address, and is at the new one as it was. -/
theorem rename_eq_ok (free : tree.LinkFree) {source target : String}
    (renamed : tree.rename directory source target = .ok later) :
    ∃ bytes modified, tree.entry? (address directory source) = some (.file bytes modified) ∧
      tree.entry? (address directory target) ≠ some .directory ∧
      later = (tree.erase (address directory source)).insert (address directory target)
        (.file bytes modified) := by
  unfold rename at renamed
  obtain ⟨place, resolved, renamed⟩ := exists_of_bind_eq_ok renamed
  obtain ⟨place', resolved', renamed⟩ := exists_of_bind_eq_ok renamed
  have stands := resolve_standsAt free resolved
  have stands' := resolve_standsAt free resolved'
  cases place with
  | vacant other slash => cases renamed
  | existing other entry =>
      cases entry with
      | directory => cases renamed
      | link target => exact absurd stands.2 (free _ _)
      | file bytes modified =>
          obtain ⟨rfl, file⟩ := stands
          refine ⟨bytes, modified, file, ?_⟩
          cases place' with
          | vacant other' slash =>
              obtain ⟨rfl, vacant⟩ := stands'
              cases slash with
              | true => cases renamed
              | false => exact ⟨entry?_ne_directory_of_none vacant, (Except.ok.inj renamed).symm⟩
          | existing other' entry' =>
              cases entry' with
              | directory => cases renamed
              | link target => exact absurd stands'.2 (free _ _)
              | file old modified' =>
                  obtain ⟨rfl, file'⟩ := stands'
                  exact ⟨entry?_ne_directory_of_file file', (Except.ok.inj renamed).symm⟩

/-- A file is removed from its address. -/
theorem remove_eq_ok (free : tree.LinkFree) (removed : tree.remove directory path = .ok later) :
    tree.entry? (address directory path) ≠ some .directory ∧
      later = tree.erase (address directory path) := by
  unfold remove at removed
  obtain ⟨place, resolved, removed⟩ := exists_of_bind_eq_ok removed
  have stands := resolve_standsAt free resolved
  cases place with
  | vacant other slash => cases removed
  | existing other entry =>
      cases entry with
      | directory => cases removed
      | link target => exact absurd stands.2 (free _ _)
      | file bytes modified =>
          obtain ⟨rfl, file⟩ := stands
          exact ⟨entry?_ne_directory_of_file file, (Except.ok.inj removed).symm⟩

/-- A file that was read is at its address. -/
theorem read_eq_ok (free : tree.LinkFree) {bytes : Bytes} (read : tree.read directory path = .ok bytes) :
    ∃ modified, tree.entry? (address directory path) = some (.file bytes modified) := by
  unfold FileTree.read at read
  obtain ⟨place, resolved, read⟩ := exists_of_bind_eq_ok read
  have stands := resolve_standsAt free resolved
  cases place with
  | vacant other slash => cases read
  | existing other entry =>
      cases entry with
      | directory => cases read
      | link target => cases read
      | file held modified =>
          obtain ⟨rfl, file⟩ := stands
          obtain rfl := Except.ok.inj read
          exact ⟨modified, file⟩

end Provision.FileTree
