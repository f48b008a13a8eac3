/-
**Folders of files.**

A folder in which there is nothing but files is known by the contents of each name. The operations on
its files change the contents and nothing else:

* `FileTree.Shelf` gives the contents of such a folder, `Shelf.insert` and `Shelf.erase` change them;
* `Shelf.read_eq` and its like say what each operation does.
-/

import Mathlib.Logic.Function.Basic
import Provision.Proofs.Files.Folder

namespace Provision.FileTree

variable {tree : FileTree} {directory route : Route} {path name other : String}

/-! ### Entries -/

theorem entry?_insert {target : Route} (nonempty : target ≠ []) (entry : Entry) (route : Route) :
    entry? (tree.insert target entry) route =
      if target = route then some entry else tree.entry? route := by
  cases route with
  | nil => rw [if_neg nonempty]; rfl
  | cons segment rest =>
      show (tree.insert target entry)[segment :: rest]? = _
      rw [Std.ExtTreeMap.getElem?_insert]
      simp only [Std.LawfulEqOrd.compare_eq_iff_eq]
      rfl

theorem entry?_erase {target : Route} (nonempty : target ≠ []) (route : Route) :
    entry? (tree.erase target) route = if target = route then none else tree.entry? route := by
  cases route with
  | nil => rw [if_neg nonempty]; rfl
  | cons segment rest =>
      show (tree.erase target)[segment :: rest]? = _
      rw [Std.ExtTreeMap.getElem?_erase]
      simp only [Std.LawfulEqOrd.compare_eq_iff_eq]
      rfl

/-- Whether there is a file with given contents, or nothing. -/
def Holds (tree : FileTree) (route : Route) : Option Bytes → Prop
  | none => tree.entry? route = none
  | some bytes => ∃ modified, tree.entry? route = some (.file bytes modified)

/-- A folder of files with given contents. -/
structure Shelf (tree : FileTree) (directory : Route) (path : String) (route : Route)
    (contents : String → Option Bytes) : Prop where
  folder : Folder tree directory path route
  holds : ∀ name, tree.Holds (route ++ [name]) (contents name)

/-- The name of a file whose path in a folder can be followed. -/
structure Fits (path name : String) : Prop where
  named : IsFileName name
  short : (Path.join path name).utf8ByteSize ≤ maximumPath

theorem append_singleton_inj : route ++ [name] = route ++ [other] ↔ name = other := by
  rw [List.append_cancel_left_eq, List.singleton_inj]

namespace Shelf

variable {contents : String → Option Bytes}

/-- Nothing but a file is replaced, so directories and links stay. -/
theorem keeps (shelf : Shelf tree directory path route contents) (name : String) {later : FileTree}
    (others : ∀ other, route ++ [name] ≠ other → later.entry? other = tree.entry? other)
    (target : Route) (entry : Entry) (found : tree.entry? target = some entry)
    (noFile : ∀ bytes modified, entry ≠ .file bytes modified) : later.entry? target = some entry := by
  rw [others target, found]
  rintro rfl
  have held := shelf.holds name
  cases known : contents name with
  | none =>
      rw [known] at held
      cases held.symm.trans found
  | some bytes =>
      rw [known] at held
      obtain ⟨modified, file⟩ := held
      exact noFile bytes modified (Option.some.inj (found.symm.trans file))

/-- Another tree in which one name has other contents. -/
theorem replace (shelf : Shelf tree directory path route contents) {later : FileTree}
    {content : Option Bytes} (held : later.Holds (route ++ [name]) content)
    (others : ∀ other, route ++ [name] ≠ other → later.entry? other = tree.entry? other) :
    Shelf later directory path route (Function.update contents name content) where
  folder := shelf.folder.mono (shelf.keeps name others)
  holds := fun other => by
    by_cases same : other = name
    · subst same
      rw [Function.update_self]
      exact held
    · have apart : route ++ [name] ≠ route ++ [other] := fun equal =>
        same (append_singleton_inj.mp equal).symm
      rw [Function.update_of_ne same]
      have before := shelf.holds other
      cases known : contents other with
      | none =>
          rw [known] at before
          exact (others _ apart).trans before
      | some bytes =>
          rw [known] at before
          obtain ⟨modified, file⟩ := before
          exact ⟨modified, (others _ apart).trans file⟩

theorem insert (shelf : Shelf tree directory path route contents) (name : String) (bytes : Bytes)
    (now : Instant) :
    Shelf (tree.insert (route ++ [name]) (.file bytes now)) directory path route
      (Function.update contents name (some bytes)) := by
  have nonempty : route ++ [name] ≠ [] := List.append_ne_nil_of_right_ne_nil _ (List.cons_ne_nil _ _)
  refine shelf.replace ⟨now, ?_⟩ fun other different => ?_
  · rw [entry?_insert nonempty, if_pos rfl]
  · rw [entry?_insert nonempty, if_neg different]

theorem erase (shelf : Shelf tree directory path route contents) (name : String) :
    Shelf (tree.erase (route ++ [name])) directory path route
      (Function.update contents name none) := by
  have nonempty : route ++ [name] ≠ [] := List.append_ne_nil_of_right_ne_nil _ (List.cons_ne_nil _ _)
  refine shelf.replace ?_ fun other different => ?_
  · show entry? _ _ = none
    rw [entry?_erase nonempty, if_pos rfl]
  · rw [entry?_erase nonempty, if_neg different]

/-! ### Operations -/

theorem resolve_none (shelf : Shelf tree directory path route contents) (fits : Fits path name)
    (free : contents name = none) (ending : Ending) :
    tree.resolve ending directory (Path.join path name) = .ok (.vacant (route ++ [name]) false) := by
  have held := shelf.holds name
  rw [free] at held
  exact shelf.folder.resolve_vacant fits.named fits.short held ending

theorem resolve_some (shelf : Shelf tree directory path route contents) (fits : Fits path name)
    {bytes : Bytes} (known : contents name = some bytes) :
    ∃ modified, ∀ ending, tree.resolve ending directory (Path.join path name) =
      .ok (.existing (route ++ [name]) (.file bytes modified)) := by
  have held := shelf.holds name
  rw [known] at held
  obtain ⟨modified, file⟩ := held
  exact ⟨modified, shelf.folder.resolve_file fits.named fits.short file⟩

theorem read_eq (shelf : Shelf tree directory path route contents) (fits : Fits path name) :
    tree.read directory (Path.join path name) =
      match contents name with
      | none => .error .notFound
      | some bytes => .ok bytes := by
  cases known : contents name with
  | none =>
      rw [read, shelf.resolve_none fits known]
      rfl
  | some bytes =>
      obtain ⟨modified, same⟩ := shelf.resolve_some fits known
      rw [read, same]
      rfl

theorem exists?_eq (shelf : Shelf tree directory path route contents) (fits : Fits path name) :
    tree.exists? directory (Path.join path name) = .ok (contents name).isSome := by
  cases known : contents name with
  | none =>
      rw [exists?, shelf.resolve_none fits known]
      rfl
  | some bytes =>
      obtain ⟨modified, same⟩ := shelf.resolve_some fits known
      rw [exists?, same]
      rfl

theorem write_eq (shelf : Shelf tree directory path route contents) (fits : Fits path name)
    (bytes : Bytes) (now : Instant) :
    tree.write directory (Path.join path name) bytes now =
      .ok (tree.insert (route ++ [name]) (.file bytes now)) := by
  cases known : contents name with
  | none =>
      rw [write, shelf.resolve_none fits known]
      rfl
  | some bytes =>
      obtain ⟨modified, same⟩ := shelf.resolve_some fits known
      rw [write, same]
      rfl

theorem create_eq (shelf : Shelf tree directory path route contents) (fits : Fits path name)
    (free : contents name = none) (bytes : Bytes) (now : Instant) :
    tree.create directory (Path.join path name) bytes now =
      .ok (tree.insert (route ++ [name]) (.file bytes now)) := by
  rw [create, shelf.resolve_none fits free]
  rfl

theorem remove_eq (shelf : Shelf tree directory path route contents) (fits : Fits path name)
    {bytes : Bytes} (known : contents name = some bytes) :
    tree.remove directory (Path.join path name) = .ok (tree.erase (route ++ [name])) := by
  obtain ⟨modified, same⟩ := shelf.resolve_some fits known
  rw [remove, same]
  rfl

theorem copy_eq (shelf : Shelf tree directory path route contents) (fits : Fits path name)
    (fits' : Fits path other) (different : name ≠ other) {bytes : Bytes}
    (known : contents name = some bytes) (now : Instant) :
    tree.copy directory (Path.join path name) (Path.join path other) now =
      .ok (tree.insert (route ++ [other]) (.file bytes now)) := by
  have apart : tree.leadsTo directory (Path.join path other) (route ++ [name]) = false := by
    rw [leadsTo]
    cases there : contents other with
    | none => rw [shelf.resolve_none fits' there]
    | some held =>
        obtain ⟨modified, same⟩ := shelf.resolve_some fits' there
        rw [same]
        simpa using fun equal => different equal.symm
  obtain ⟨modified, same⟩ := shelf.resolve_some fits known
  rw [copy, same]
  show tree.write directory (Path.join path other) _ now = _
  rw [apart]
  exact shelf.write_eq fits' bytes now

theorem rename_eq (shelf : Shelf tree directory path route contents) (fits : Fits path name)
    (fits' : Fits path other) {bytes : Bytes} (known : contents name = some bytes) :
    ∃ modified, tree.rename directory (Path.join path name) (Path.join path other) =
      .ok ((tree.erase (route ++ [name])).insert (route ++ [other]) (.file bytes modified)) := by
  obtain ⟨modified, same⟩ := shelf.resolve_some fits known
  refine ⟨modified, ?_⟩
  rw [rename, same]
  cases there : contents other with
  | none =>
      rw [shelf.resolve_none fits' there]
      rfl
  | some held =>
      obtain ⟨changed, same'⟩ := shelf.resolve_some fits' there
      rw [same']
      rfl

end Shelf

end Provision.FileTree
