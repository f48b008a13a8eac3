/-
**Following a path to a directory.**

Segments are followed one at a time: one that leads nowhere is skipped, two dots lead up, the name of a
directory leads into it and a link is replaced by its segments:

* `FileTree.resolveSegments_idle` and its like are the single steps;
* `Walk` says which directory segments lead to, `Walk.of_resolveSegments` finds the walk behind a
  path that leads to a directory;
* `Walk.resolveSegments_append` takes the steps of a walk at once, `Walk.split` cuts it in two;
* `Walk.mono`: a walk is open as long as its directories and links stay.
-/

import Provision.Files.Tree

namespace Provision.FileTree

variable {tree : FileTree} {ending : Ending} {links : Nat} {directory route : Route}
  {segment : String} {first rest : List String}

/-- A segment that names an entry of a directory. -/
structure IsName (segment : String) : Prop where
  nonempty : segment ≠ ""
  noDot : segment ≠ "."
  noDots : segment ≠ ".."
  short : segment.utf8ByteSize ≤ maximumName

/-- Segments behind which a file can be made. -/
def Ending.Allows (ending : Ending) (rest : List String) : Prop :=
  ending = .target ∨ ∃ segment ∈ rest, segment ≠ ""

theorem areSlashes_eq_false (named : ∃ segment ∈ rest, segment ≠ "") : areSlashes rest = false := by
  obtain ⟨segment, member, nonempty⟩ := named
  have other : rest.all (· == "") = false :=
    List.all_eq_false.mpr ⟨segment, member, by simpa using nonempty⟩
  rw [areSlashes, other, Bool.and_false]

namespace Ending.Allows

theorem refuses (allows : ending.Allows rest) : (ending.make && areSlashes rest) = false := by
  rcases allows with rfl | named
  · rfl
  · rw [areSlashes_eq_false named, Bool.and_false]

theorem follows (allows : ending.Allows rest) : (rest.isEmpty && !ending.follow) = false := by
  rcases allows with rfl | ⟨segment, member, -⟩
  · exact Bool.and_false _
  · rw [List.isEmpty_eq_false_iff.mpr (List.ne_nil_of_mem member), Bool.false_and]

theorem append (allows : ending.Allows rest) (first : List String) : ending.Allows (first ++ rest) := by
  rcases allows with same | ⟨segment, member, nonempty⟩
  · exact .inl same
  · exact .inr ⟨segment, List.mem_append_right first member, nonempty⟩

end Ending.Allows

/-! ### Single steps -/

/-- Goes on where a path could not be followed further without following a link. -/
def resume (tree : FileTree) (ending : Ending) : Nat → Reach → FileAnswer Place
  | _, .place place => .ok place
  | _, .stuck error => .error error
  | 0, .link _ _ _ => .error .linkLoop
  | links + 1, .link directory target rest =>
    if target.isEmpty then .error .notFound
    else
      tree.resolveSegments ending links (start directory target) (Path.segments target ++ rest)

theorem resolveSegments_eq (links : Nat) (directory : Route) (segments : List String) :
    tree.resolveSegments ending links directory segments =
      resume tree ending links (tree.reach ending directory segments) := by
  rw [FileTree.resolveSegments]
  cases tree.reach ending directory segments <;> cases links <;> rfl

theorem resolveSegments_nil :
    tree.resolveSegments ending links directory [] = .ok (.existing directory .directory) :=
  resolveSegments_eq links directory []

theorem resolveSegments_idle (idle : segment = "" ∨ segment = ".") :
    tree.resolveSegments ending links directory (segment :: rest) =
      tree.resolveSegments ending links directory rest := by
  rw [resolveSegments_eq, resolveSegments_eq]
  exact congrArg _ (if_pos idle)

theorem resolveSegments_up :
    tree.resolveSegments ending links directory (".." :: rest) =
      tree.resolveSegments ending links directory.dropLast rest := by
  rw [resolveSegments_eq, resolveSegments_eq]
  rfl

/-- What the name of an entry leads to. -/
theorem reach_name (name : IsName segment)
    (refuses : (ending.make && areSlashes rest) = false) :
    tree.reach ending directory (segment :: rest) =
      match tree.entry? (directory ++ [segment]) with
      | none =>
        if rest.isEmpty || areSlashes rest then
          .place (.vacant (directory ++ [segment]) !rest.isEmpty)
        else .stuck .notFound
      | some .directory => tree.reach ending (directory ++ [segment]) rest
      | some (.file bytes modified) =>
        if rest.isEmpty then .place (.existing (directory ++ [segment]) (.file bytes modified))
        else .stuck .notDirectory
      | some (.link target) =>
        if rest.isEmpty && !ending.follow then
          .place (.existing (directory ++ [segment]) (.link target))
        else .link directory target rest := by
  have notIdle : ¬(segment = "" ∨ segment = ".") := not_or.mpr ⟨name.nonempty, name.noDot⟩
  have short : ¬maximumName < segment.utf8ByteSize := Nat.not_lt.mpr name.short
  have refuses : ¬(ending.make && areSlashes rest) = true := by
    rw [refuses]
    exact Bool.false_ne_true
  rw [reach, if_neg notIdle, if_neg name.noDots, if_neg refuses]
  exact if_neg short

theorem resolveSegments_down (name : IsName segment)
    (refuses : (ending.make && areSlashes rest) = false)
    (below : tree.entry? (directory ++ [segment]) = some .directory) :
    tree.resolveSegments ending links directory (segment :: rest) =
      tree.resolveSegments ending links (directory ++ [segment]) rest := by
  rw [resolveSegments_eq, reach_name name refuses, below, resolveSegments_eq]

theorem resolveSegments_vacant (name : IsName segment)
    (refuses : (ending.make && areSlashes rest) = false)
    (vacant : tree.entry? (directory ++ [segment]) = none) :
    resolveSegments tree ending links directory (segment :: rest) =
      if rest.isEmpty || areSlashes rest then
        .ok (.vacant (directory ++ [segment]) !rest.isEmpty)
      else .error .notFound := by
  rw [resolveSegments_eq, reach_name name refuses, vacant]
  cases rest.isEmpty || areSlashes rest <;> rfl

theorem resolveSegments_file (name : IsName segment)
    (refuses : (ending.make && areSlashes rest) = false) {bytes : Bytes} {modified : Instant}
    (file : tree.entry? (directory ++ [segment]) = some (.file bytes modified)) :
    resolveSegments tree ending links directory (segment :: rest) =
      if rest.isEmpty then .ok (.existing (directory ++ [segment]) (.file bytes modified))
      else .error .notDirectory := by
  rw [resolveSegments_eq, reach_name name refuses, file]
  cases rest.isEmpty <;> rfl

theorem resolveSegments_link (name : IsName segment) (allows : ending.Allows rest) {target : String}
    (linked : tree.entry? (directory ++ [segment]) = some (.link target)) :
    resolveSegments tree ending links directory (segment :: rest) =
      match links with
      | 0 => .error .linkLoop
      | left + 1 =>
        if target.isEmpty then .error .notFound
        else
          resolveSegments tree ending left (start directory target)
            (Path.segments target ++ rest) := by
  rw [resolveSegments_eq, reach_name name allows.refuses, linked]
  simp only [allows.follows, Bool.false_eq_true, if_false]
  cases links <;> rfl

/-! ### Walks -/

/-- Segments that lead from a directory to another one, through a number of links at most. -/
inductive Walk (tree : FileTree) : Nat → Route → List String → Route → Prop
  | done (links : Nat) (directory : Route) : Walk tree links directory [] directory
  | idle {links : Nat} {directory route : Route} {segment : String} {rest : List String}
      (idle : segment = "" ∨ segment = ".") (further : Walk tree links directory rest route) :
      Walk tree links directory (segment :: rest) route
  | up {links : Nat} {directory route : Route} {rest : List String}
      (further : Walk tree links directory.dropLast rest route) :
      Walk tree links directory (".." :: rest) route
  | down {links : Nat} {directory route : Route} {segment : String} {rest : List String}
      (name : IsName segment) (below : tree.entry? (directory ++ [segment]) = some .directory)
      (further : Walk tree links (directory ++ [segment]) rest route) :
      Walk tree links directory (segment :: rest) route
  | link {links : Nat} {directory route : Route} {segment target : String} {rest : List String}
      (name : IsName segment) (linked : tree.entry? (directory ++ [segment]) = some (.link target))
      (nonempty : target.isEmpty = false)
      (further : Walk tree links (start directory target) (Path.segments target ++ rest) route) :
      Walk tree (links + 1) directory (segment :: rest) route

namespace Walk

/-- **The segments behind a walk are followed from its end.** -/
theorem resolveSegments_append (walk : Walk tree links directory first route)
    (rest : List String) (allows : ending.Allows rest) :
    ∃ left, resolveSegments tree ending links directory (first ++ rest) =
      resolveSegments tree ending left route rest := by
  induction walk with
  | done links directory => exact ⟨links, rfl⟩
  | idle idle further hyp =>
      obtain ⟨left, same⟩ := hyp
      exact ⟨left, (resolveSegments_idle idle).trans same⟩
  | up further hyp =>
      obtain ⟨left, same⟩ := hyp
      exact ⟨left, resolveSegments_up.trans same⟩
  | down name below further hyp =>
      obtain ⟨left, same⟩ := hyp
      exact ⟨left, (resolveSegments_down name (allows.append _).refuses below).trans same⟩
  | link name linked nonempty further hyp =>
      obtain ⟨left, same⟩ := hyp
      refine ⟨left, (resolveSegments_link name (allows.append _) linked).trans ?_⟩
      simp only [nonempty, Bool.false_eq_true, if_false, ← List.append_assoc]
      exact same

/-- A walk leads to a directory. -/
theorem resolveSegments (walk : Walk tree links directory first route) :
    tree.resolveSegments .target links directory first = .ok (.existing route .directory) := by
  obtain ⟨left, same⟩ := walk.resolveSegments_append [] (.inl rfl)
  rw [List.append_nil] at same
  exact same.trans resolveSegments_nil

/-- A walk can be cut between any two segments. -/
theorem split (walk : Walk tree links directory (first ++ rest) route) :
    ∃ left middle, Walk tree links directory first middle ∧ Walk tree left middle rest route := by
  generalize whole : first ++ rest = segments at walk
  induction walk generalizing first with
  | done links directory =>
      obtain ⟨rfl, rfl⟩ := List.append_eq_nil_iff.mp whole
      exact ⟨links, directory, .done _ _, .done _ _⟩
  | @idle links directory route segment others idle further hyp =>
      rcases List.append_eq_cons_iff.mp whole with ⟨rfl, rfl⟩ | ⟨inner, rfl, rfl⟩
      · exact ⟨links, directory, .done _ _, .idle idle further⟩
      · obtain ⟨left, middle, before, behind⟩ := hyp rfl
        exact ⟨left, middle, .idle idle before, behind⟩
  | @up links directory route others further hyp =>
      rcases List.append_eq_cons_iff.mp whole with ⟨rfl, rfl⟩ | ⟨inner, rfl, rfl⟩
      · exact ⟨links, directory, .done _ _, .up further⟩
      · obtain ⟨left, middle, before, behind⟩ := hyp rfl
        exact ⟨left, middle, .up before, behind⟩
  | @down links directory route segment others name below further hyp =>
      rcases List.append_eq_cons_iff.mp whole with ⟨rfl, rfl⟩ | ⟨inner, rfl, rfl⟩
      · exact ⟨links, directory, .done _ _, .down name below further⟩
      · obtain ⟨left, middle, before, behind⟩ := hyp rfl
        exact ⟨left, middle, .down name below before, behind⟩
  | @link links directory route segment target others name linked nonempty further hyp =>
      rcases List.append_eq_cons_iff.mp whole with ⟨rfl, rfl⟩ | ⟨inner, rfl, rfl⟩
      · exact ⟨links + 1, directory, .done _ _, .link name linked nonempty further⟩
      · obtain ⟨left, middle, before, behind⟩ := hyp (List.append_assoc _ _ _)
        exact ⟨left, middle, .link name linked nonempty before, behind⟩

/-- **A walk is open as long as its directories and links stay.** -/
theorem mono {later : FileTree} (walk : Walk tree links directory first route)
    (keeps : ∀ (route : Route) (entry : Entry), tree.entry? route = some entry →
      (∀ bytes modified, entry ≠ .file bytes modified) → later.entry? route = some entry) :
    Walk later links directory first route := by
  induction walk with
  | done links directory => exact .done links directory
  | idle idle further hyp => exact .idle idle hyp
  | up further hyp => exact .up hyp
  | down name below further hyp =>
      exact .down name (keeps _ _ below fun _ _ => (nofun)) hyp
  | link name linked nonempty further hyp =>
      exact .link name (keeps _ _ linked fun _ _ => (nofun)) nonempty hyp

/-- One segment of a path that leads to a directory, when there is a walk behind every path that is
followed through fewer links. -/
theorem of_resolveSegments_step
    (fewer : ∀ (left : Nat) (directory : Route) (first : List String), links = left + 1 →
      tree.resolveSegments .target left directory first = .ok (.existing route .directory) →
        Walk tree left directory first route)
    (leads : tree.resolveSegments .target links directory first =
      .ok (.existing route .directory)) : Walk tree links directory first route := by
  induction first generalizing directory with
  | nil =>
      rw [resolveSegments_nil] at leads
      cases leads
      exact .done links _
  | cons segment rest hyp =>
      by_cases idle : segment = "" ∨ segment = "."
      · rw [resolveSegments_idle idle] at leads
        exact .idle idle (hyp leads)
      by_cases dots : segment = ".."
      · subst dots
        rw [resolveSegments_up] at leads
        exact .up (hyp leads)
      by_cases long : maximumName < segment.utf8ByteSize
      · rw [FileTree.resolveSegments, reach, if_neg idle, if_neg dots,
          if_neg (show ¬(Ending.target.make && _) = true from Bool.false_ne_true), if_pos long]
          at leads
        cases leads
      have name : IsName segment :=
        ⟨fun empty => idle (.inl empty), fun dot => idle (.inr dot), dots, Nat.not_lt.mp long⟩
      cases entry : tree.entry? (directory ++ [segment]) with
      | none =>
          rw [resolveSegments_vacant name rfl entry] at leads
          split at leads <;> cases leads
      | some found =>
          cases found with
          | directory =>
              rw [resolveSegments_down name rfl entry] at leads
              exact .down name entry (hyp leads)
          | file bytes modified =>
              rw [resolveSegments_file name rfl entry] at leads
              split at leads <;> cases leads
          | link target =>
              rw [resolveSegments_link name (.inl rfl) entry] at leads
              cases links with
              | zero => cases leads
              | succ left =>
                  simp only at leads
                  split at leads
                  · cases leads
                  next nonempty =>
                    exact .link name entry (Bool.eq_false_iff.mpr nonempty) (fewer left _ _ rfl leads)

/-- **There is a walk behind segments that lead to a directory.** -/
theorem of_resolveSegments
    (leads : tree.resolveSegments .target links directory first =
      .ok (.existing route .directory)) : Walk tree links directory first route := by
  induction links generalizing directory first with
  | zero => exact of_resolveSegments_step (fun left _ _ impossible => (nomatch impossible)) leads
  | succ links hyp =>
      refine of_resolveSegments_step (fun left directory first same leads => ?_) leads
      obtain rfl := Nat.succ.inj same
      exact hyp leads

end Walk

end Provision.FileTree
