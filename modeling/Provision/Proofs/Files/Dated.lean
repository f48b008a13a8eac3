/-
**Folders of dated files.**

The files of a folder have contents, and each was last written at some time:

* `FileTree.files` finds the files of a directory, and `FileTree.Dated` holds of a folder in which there
  is nothing else;
* `Dated.insert` and `Dated.erase` change one of them, `Dated.modified_eq` reads its time;
* `Dated.files_eq`: the files that are found are those that there are.
-/

import Provision.Proofs.Files.Shelf

namespace Provision.FileTree

/-- The file of a name in a directory, and when it was last written. -/
def files (tree : FileTree) (route : Route) (name : String) : Option (Bytes × Instant) :=
  match tree.entry? (route ++ [name]) with
  | some (.file bytes modified) => some (bytes, modified)
  | _ => none

/-- A folder of files with given contents and times. -/
structure Dated (tree : FileTree) (directory : Route) (path : String) (route : Route)
    (files : String → Option (Bytes × Instant)) : Prop where
  folder : Folder tree directory path route
  entries : ∀ name, tree.entry? (route ++ [name]) = (files name).map fun file => .file file.1 file.2

namespace Dated

variable {tree : FileTree} {directory route : Route} {path name other : String}
  {files : String → Option (Bytes × Instant)}

/-- The contents of the files. -/
theorem shelf (dated : Dated tree directory path route files) :
    Shelf tree directory path route fun name => (files name).map (·.1) where
  folder := dated.folder
  holds := fun name => by
    have entry := dated.entries name
    cases known : files name with
    | none =>
        rw [known] at entry
        exact entry
    | some file =>
        rw [known] at entry
        exact ⟨file.2, entry⟩

/-- A folder in which there are only files. -/
theorem of_folder (folder : Folder tree directory path route)
    (plain : ∀ name entry, tree.entry? (route ++ [name]) = some entry →
      ∃ bytes modified, entry = .file bytes modified) :
    Dated tree directory path route (tree.files route) where
  folder := folder
  entries := fun name => by
    unfold FileTree.files
    cases found : tree.entry? (route ++ [name]) with
    | none => rfl
    | some entry =>
        obtain ⟨bytes, modified, rfl⟩ := plain name entry found
        rfl

theorem files_eq (dated : Dated tree directory path route files) : tree.files route = files := by
  funext name
  unfold FileTree.files
  rw [dated.entries]
  cases files name with
  | none => rfl
  | some file => rfl

/-- Another tree in which one name stands for another file. -/
theorem replace (dated : Dated tree directory path route files) {later : FileTree}
    {file : Option (Bytes × Instant)}
    (held : later.entry? (route ++ [name]) = file.map fun file => .file file.1 file.2)
    (others : ∀ other, route ++ [name] ≠ other → later.entry? other = tree.entry? other) :
    Dated later directory path route (Function.update files name file) where
  folder := dated.folder.mono (dated.shelf.keeps name others)
  entries := fun other => by
    by_cases same : other = name
    · subst same
      rw [Function.update_self]
      exact held
    · rw [Function.update_of_ne same, others _ fun equal => same (append_singleton_inj.mp equal).symm]
      exact dated.entries other

theorem insert (dated : Dated tree directory path route files) (name : String) (bytes : Bytes)
    (now : Instant) :
    Dated (tree.insert (route ++ [name]) (.file bytes now)) directory path route
      (Function.update files name (some (bytes, now))) := by
  have nonempty : route ++ [name] ≠ [] := List.append_ne_nil_of_right_ne_nil _ (List.cons_ne_nil _ _)
  refine dated.replace ?_ fun other different => ?_
  · rw [entry?_insert nonempty, if_pos rfl]
    rfl
  · rw [entry?_insert nonempty, if_neg different]

theorem erase (dated : Dated tree directory path route files) (name : String) :
    Dated (tree.erase (route ++ [name])) directory path route (Function.update files name none) := by
  have nonempty : route ++ [name] ≠ [] := List.append_ne_nil_of_right_ne_nil _ (List.cons_ne_nil _ _)
  refine dated.replace ?_ fun other different => ?_
  · rw [entry?_erase nonempty, if_pos rfl]
    rfl
  · rw [entry?_erase nonempty, if_neg different]

/-- When a file was last written. -/
theorem modified_eq (dated : Dated tree directory path route files) (fits : Fits path name)
    {file : Bytes × Instant} (known : files name = some file) :
    tree.modified directory (Path.join path name) = .ok file.2 := by
  have entry := dated.entries name
  rw [known] at entry
  rw [modified, dated.folder.resolve_file fits.named fits.short entry]
  rfl

end Dated

end Provision.FileTree
