/-
**Files that were created.**

Whoever has created a file knows that its path leads to a folder, however the directory came about:

* `Walk.exists_of_vacant` finds the walk behind a path to the end of which nothing stands;
* `Folder.of_create`: the file is in that folder from now on.
-/

import Provision.Proofs.Files.Shelf

namespace Provision

/-- A path starts with that of the directory. -/
theorem Path.prefix_toList_join {name : String} (plain : IsPlain name) (base : String) :
    base.toList <+: (join base name).toList := by
  rcases join_cases plain base with ⟨rfl, -⟩ | ⟨stem, spelled, same⟩ | ⟨-, same⟩
  · exact List.nil_prefix
  · rw [spelled, same]
    exact (List.prefix_append_right_inj stem).mpr (List.cons_prefix_cons.mpr ⟨rfl, List.nil_prefix⟩)
  · rw [same]
    exact List.prefix_append _ _

namespace FileTree

variable {tree later : FileTree} {directory route : Route} {path name : String} {ending : Ending}
  {links : Nat} {first slashes : List String}

namespace Walk

/-- Slashes behind a walk lead nowhere. -/
theorem append_slashes (walk : Walk tree links directory first route)
    (empty : ∀ segment ∈ slashes, segment = "") :
    Walk tree links directory (first ++ slashes) route := by
  induction walk with
  | done links directory =>
      induction slashes with
      | nil => exact .done links directory
      | cons segment rest hyp =>
          exact .idle (.inl (empty segment List.mem_cons_self))
            (hyp fun other member => empty other (List.mem_cons_of_mem _ member))
  | idle idle further hyp => exact .idle idle hyp
  | up further hyp => exact .up hyp
  | down name below further hyp => exact .down name below hyp
  | link name linked nonempty further hyp =>
      rw [List.append_assoc] at hyp
      exact .link name linked nonempty hyp

/-- What stands behind a name at the end of a path, if a link there is not followed. -/
theorem entry?_of_vacant (named : IsName name) (stays : ending.follow = false)
    (leads : tree.resolveSegments ending links directory [name] = .ok (.vacant route false)) :
    route = directory ++ [name] ∧ tree.entry? route = none := by
  have refuses : (ending.make && areSlashes []) = false := Bool.and_false _
  cases entry : tree.entry? (directory ++ [name]) with
  | none =>
      rw [resolveSegments_vacant named refuses entry] at leads
      cases leads
      exact ⟨rfl, entry⟩
  | some found =>
      rw [resolveSegments_eq, reach_name named refuses, entry] at leads
      cases found with
      | directory => cases leads
      | file bytes modified => cases leads
      | link target =>
          rw [stays] at leads
          cases leads

/-- One segment of a path to a vacant name, when there is a walk behind every path that is followed
through fewer links. -/
theorem exists_of_vacant_step (named : IsName name) (stays : ending.follow = false)
    (fewer : ∀ (left : Nat) (directory : Route) (first : List String), links = left + 1 →
      tree.resolveSegments ending left directory (first ++ [name]) = .ok (.vacant route false) →
        ∃ folder, Walk tree left directory first folder ∧ route = folder ++ [name] ∧
          tree.entry? route = none)
    (leads : tree.resolveSegments ending links directory (first ++ [name]) =
      .ok (.vacant route false)) :
    ∃ folder, Walk tree links directory first folder ∧ route = folder ++ [name] ∧
      tree.entry? route = none := by
  have behind : ∃ segment ∈ [name], segment ≠ "" :=
    ⟨name, List.mem_singleton_self name, named.nonempty⟩
  induction first generalizing directory with
  | nil =>
      obtain ⟨same, vacant⟩ := entry?_of_vacant named stays leads
      exact ⟨directory, .done links directory, same, vacant⟩
  | cons segment rest hyp =>
      have allows : ending.Allows (rest ++ [name]) := .append (.inr behind) rest
      rw [List.cons_append] at leads
      by_cases idle : segment = "" ∨ segment = "."
      · rw [resolveSegments_idle idle] at leads
        obtain ⟨folder, walk, found⟩ := hyp leads
        exact ⟨folder, .idle idle walk, found⟩
      by_cases dots : segment = ".."
      · subst dots
        rw [resolveSegments_up] at leads
        obtain ⟨folder, walk, found⟩ := hyp leads
        exact ⟨folder, .up walk, found⟩
      by_cases long : maximumName < segment.utf8ByteSize
      · rw [resolveSegments_eq, reach, if_neg idle, if_neg dots, allows.refuses,
          if_neg Bool.false_ne_true, if_pos long] at leads
        cases leads
      have inner : IsName segment :=
        ⟨fun empty => idle (.inl empty), fun dot => idle (.inr dot), dots, Nat.not_lt.mp long⟩
      cases entry : tree.entry? (directory ++ [segment]) with
      | none =>
          rw [resolveSegments_vacant inner allows.refuses entry] at leads
          have member : name ∈ rest ++ [name] := List.mem_concat_self
          rw [areSlashes_eq_false ⟨name, member, named.nonempty⟩,
            List.isEmpty_eq_false_iff.mpr (List.ne_nil_of_mem member)] at leads
          cases leads
      | some found =>
          cases found with
          | directory =>
              rw [resolveSegments_down inner allows.refuses entry] at leads
              obtain ⟨folder, walk, found⟩ := hyp leads
              exact ⟨folder, .down inner entry walk, found⟩
          | file bytes modified =>
              rw [resolveSegments_file inner allows.refuses entry] at leads
              split at leads <;> cases leads
          | link target =>
              rw [resolveSegments_link inner allows entry] at leads
              cases links with
              | zero => cases leads
              | succ left =>
                  simp only at leads
                  split at leads
                  · cases leads
                  next nonempty =>
                    rw [← List.append_assoc] at leads
                    obtain ⟨folder, walk, found⟩ := fewer left _ _ rfl leads
                    exact ⟨folder, .link inner entry (Bool.eq_false_iff.mpr nonempty) walk, found⟩

/-- **There is a walk behind a path to a vacant name.** -/
theorem exists_of_vacant (named : IsName name) (stays : ending.follow = false)
    (leads : tree.resolveSegments ending links directory (first ++ [name]) =
      .ok (.vacant route false)) :
    ∃ folder, Walk tree links directory first folder ∧ route = folder ++ [name] ∧
      tree.entry? route = none := by
  induction links generalizing directory first with
  | zero =>
      exact exists_of_vacant_step named stays (fun left _ _ impossible => (nomatch impossible)) leads
  | succ links hyp =>
      refine exists_of_vacant_step named stays (fun left directory first same leads => ?_) leads
      obtain rfl := Nat.succ.inj same
      exact hyp leads

end Walk

theorem resolve_eq_ok {place : Place} (leads : tree.resolve ending directory path = .ok place) :
    '\x00' ∉ path.toList ∧ path.utf8ByteSize ≤ maximumPath ∧
      tree.resolveSegments ending maximumLinks (start directory path) (Path.segments path) =
        .ok place := by
  rw [resolve, resolvePart] at leads
  split at leads
  · cases leads
  next noNul =>
    split at leads
    · cases leads
    split at leads
    · cases leads
    next short => exact ⟨by simpa using noNul, Nat.not_lt.mp short, leads⟩

/-- A file is created where nothing is. -/
theorem create_eq_ok {bytes : Bytes} {now : Instant}
    (created : tree.create directory path bytes now = .ok later) :
    ∃ route, tree.resolve .made directory path = .ok (.vacant route false) ∧
      later = tree.insert route (.file bytes now) := by
  unfold create at created
  cases leads : tree.resolve .made directory path with
  | error error =>
      rw [leads] at created
      cases created
  | ok place =>
      rw [leads] at created
      cases place with
      | existing other entry => cases created
      | vacant route slash =>
          cases slash with
          | true => cases created
          | false => exact ⟨route, rfl, (Except.ok.inj created).symm⟩

/-- **A file that was created is in a folder.** -/
theorem Folder.of_create {bytes : Bytes} {now : Instant} (named : IsFileName name)
    (created : tree.create directory (Path.join path name) bytes now = .ok later) :
    Fits path name ∧ ∃ route, Folder later directory path route ∧
      later.entry? (route ++ [name]) = some (.file bytes now) := by
  have plain := named.toIsPlain
  obtain ⟨target, leads, rfl⟩ := create_eq_ok created
  obtain ⟨noNul, short, leads⟩ := resolve_eq_ok leads
  obtain ⟨first, slashes, whole, empty, joined⟩ := Path.exists_segments_join plain path
  rw [joined, start, Path.isAbsolute_join plain] at leads
  obtain ⟨route, walk, rfl, vacant⟩ := Walk.exists_of_vacant named.toIsName rfl leads
  have folder : Folder tree directory path route := by
    refine ⟨?_, fun member => noNul ((Path.prefix_toList_join plain path).subset member)⟩
    rw [whole]
    exact walk.append_slashes empty
  have nonempty : route ++ [name] ≠ [] := List.append_ne_nil_of_right_ne_nil _ (List.cons_ne_nil _ _)
  refine ⟨⟨named, short⟩, route, folder.mono fun other entry found _ => ?_, ?_⟩
  · rw [entry?_insert nonempty, if_neg, found]
    rintro rfl
    cases vacant.symm.trans found
  · rw [entry?_insert nonempty, if_pos rfl]

end FileTree

end Provision
