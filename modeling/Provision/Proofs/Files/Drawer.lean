/-
**Directories of any content.**

A directory in which a name may stand for a file, for a directory or for nothing, as it comes. As long
as no name that is used stands for a link, what an operation does can be told from the entries:

* `FileTree.Drawer` gives the entries of a directory, and `Drawer.resolve_eq` says what the path of a name
  leads to;
* `Drawer.write_cases`, `Drawer.copy_cases` and their like say of an operation when it succeeds, what it
  has then changed, and that it fails otherwise;
* `Drawer.create_eq`, `Drawer.rename_eq` and their like are those whose outcome is known.
-/

import Provision.Proofs.Files.Creation

namespace Provision

/-- Whether a file may be put where an entry stands, or nothing. -/
def Entry.Yields : Option Entry → Prop
  | none | some (.file _ _) => True
  | some .directory | some (.link _) => False

theorem Entry.Yields.ne_directory {entry : Option Entry} (yields : Entry.Yields entry) :
    entry ≠ some .directory := by
  rintro rfl
  exact yields

/-- What is read where an entry stands, or nothing. -/
def Entry.read : Option Entry → FileAnswer Bytes
  | none => .error .notFound
  | some (.file bytes _) => .ok bytes
  | some .directory | some (.link _) => .error .isDirectory

namespace FileTree

variable {tree later : FileTree} {directory route : Route} {path name other : String}
  {entries : String → Option Entry} {ending : Ending}

/-- A path that leads to a directory with given entries. -/
structure Drawer (tree : FileTree) (directory : Route) (path : String) (route : Route)
    (entries : String → Option Entry) : Prop where
  folder : Folder tree directory path route
  holds : ∀ name, tree.entry? (route ++ [name]) = entries name

/-- A name of which it is known that it stands for no link. -/
structure Unlinked (entries : String → Option Entry) (name : String) : Prop where
  named : IsFileName name
  noLink : ∀ target, entries name ≠ some (.link target)

/-- What a path leads to at the end of which an entry stands, or nothing. -/
def Place.of (route : Route) : Option Entry → Place
  | none => .vacant route false
  | some entry => .existing route entry

theorem Unlinked.update {bytes : Bytes} {modified : Instant} (unlinked : Unlinked entries name)
    (other : String) : Unlinked (Function.update entries other (some (.file bytes modified))) name where
  named := unlinked.named
  noLink := fun target => by
    by_cases same : name = other
    · subst same
      rw [Function.update_self]
      exact fun linked => nomatch linked
    · rw [Function.update_of_ne same]
      exact unlinked.noLink target

namespace Drawer

/-- Any directory has some entries. -/
theorem of_folder (folder : Folder tree directory path route) :
    Drawer tree directory path route fun name => tree.entry? (route ++ [name]) := ⟨folder, fun _ => rfl⟩

/-- **The path of a name leads to what it stands for**, unless it is too long. -/
theorem resolve_eq (drawer : Drawer tree directory path route entries) (unlinked : Unlinked entries name)
    (ending : Ending) :
    tree.resolve ending directory (Path.join path name) =
      if (Path.join path name).utf8ByteSize ≤ maximumPath then
        .ok (.of (route ++ [name]) (entries name))
      else .error .nameTooLong := by
  have named := unlinked.named
  split
  next short =>
    obtain ⟨left, same⟩ := drawer.folder.resolve_join named short ending
    have held := drawer.holds name
    rw [same]
    cases known : entries name with
    | none => exact resolveSegments_vacant named.toIsName (Bool.and_false _) (held.trans known)
    | some entry =>
        cases entry with
        | directory =>
            rw [resolveSegments_down named.toIsName (Bool.and_false _) (held.trans known),
              resolveSegments_nil]
            rfl
        | file bytes modified =>
            exact resolveSegments_file named.toIsName (Bool.and_false _) (held.trans known)
        | link target => exact absurd known (unlinked.noLink target)
  next long =>
    have noNul : '\x00' ∉ (Path.join path name).toList := fun member => by
      rcases Path.mem_toList_join named.toIsPlain member with inside | slash | inside
      · exact drawer.folder.noNul inside
      · exact absurd slash (by decide)
      · exact named.noNul inside
    rw [resolve, resolvePart, if_neg (by simpa using noNul),
      if_neg (by simpa using Path.join_ne_empty named.toIsPlain path), if_pos (Nat.not_le.mp long)]

theorem resolve_of_fits (drawer : Drawer tree directory path route entries)
    (unlinked : Unlinked entries name) (fits : Fits path name) (ending : Ending) :
    tree.resolve ending directory (Path.join path name) = .ok (.of (route ++ [name]) (entries name)) :=
  (drawer.resolve_eq unlinked ending).trans (if_pos fits.short)

/-- Where the path of a name is followed it is short enough. -/
theorem resolve_cases (drawer : Drawer tree directory path route entries)
    (unlinked : Unlinked entries name) :
    Fits path name ∧ (∀ ending, tree.resolve ending directory (Path.join path name) =
        .ok (.of (route ++ [name]) (entries name))) ∨
      ¬Fits path name ∧ ∀ ending, tree.resolve ending directory (Path.join path name) =
        .error .nameTooLong := by
  by_cases short : (Path.join path name).utf8ByteSize ≤ maximumPath
  · exact .inl ⟨⟨unlinked.named, short⟩, fun ending =>
      (drawer.resolve_eq unlinked ending).trans (if_pos short)⟩
  · exact .inr ⟨fun fits => short fits.short, fun ending =>
      (drawer.resolve_eq unlinked ending).trans (if_neg short)⟩

/-! ### Changes -/

/-- Another tree in which a file, or what was not there, is replaced. -/
theorem replace (drawer : Drawer tree directory path route entries) {entry : Option Entry}
    (yields : Entry.Yields (entries name)) (held : later.entry? (route ++ [name]) = entry)
    (others : ∀ other, route ++ [name] ≠ other → later.entry? other = tree.entry? other) :
    Drawer later directory path route (Function.update entries name entry) where
  folder := drawer.folder.mono fun target found same noFile => by
    rw [others target, same]
    rintro rfl
    rw [← drawer.holds, same] at yields
    cases found with
    | file bytes modified => exact noFile bytes modified rfl
    | directory => exact yields
    | link target => exact yields
  holds := fun other => by
    by_cases same : other = name
    · subst same
      rw [Function.update_self, held]
    · rw [Function.update_of_ne same,
        others _ fun equal => same (append_singleton_inj.mp equal).symm, drawer.holds]

theorem insert (drawer : Drawer tree directory path route entries)
    (yields : Entry.Yields (entries name)) (bytes : Bytes) (now : Instant) :
    Drawer (tree.insert (route ++ [name]) (.file bytes now)) directory path route
      (Function.update entries name (some (.file bytes now))) := by
  have nonempty : route ++ [name] ≠ [] := List.append_ne_nil_of_right_ne_nil _ (List.cons_ne_nil _ _)
  refine drawer.replace yields ?_ fun other different => ?_
  · rw [entry?_insert nonempty, if_pos rfl]
  · rw [entry?_insert nonempty, if_neg different]

theorem erase (drawer : Drawer tree directory path route entries)
    (yields : Entry.Yields (entries name)) :
    Drawer (tree.erase (route ++ [name])) directory path route (Function.update entries name none) := by
  have nonempty : route ++ [name] ≠ [] := List.append_ne_nil_of_right_ne_nil _ (List.cons_ne_nil _ _)
  refine drawer.replace yields ?_ fun other different => ?_
  · rw [entry?_erase nonempty, if_pos rfl]
  · rw [entry?_erase nonempty, if_neg different]

/-! ### Operations that may fail -/

/-- **A file is written** where nothing but a file stands. -/
theorem write_cases (drawer : Drawer tree directory path route entries)
    (unlinked : Unlinked entries name) (bytes : Bytes) (now : Instant) :
    (Fits path name ∧ Entry.Yields (entries name)) ∧
        tree.write directory (Path.join path name) bytes now =
          .ok (tree.insert (route ++ [name]) (.file bytes now)) ∨
      ¬(Fits path name ∧ Entry.Yields (entries name)) ∧
        ∃ error, tree.write directory (Path.join path name) bytes now = .error error := by
  rcases drawer.resolve_cases unlinked with ⟨fits, leads⟩ | ⟨long, fails⟩
  · rw [write, leads]
    have noLink := unlinked.noLink
    cases known : entries name with
    | none => exact .inl ⟨⟨fits, trivial⟩, rfl⟩
    | some entry =>
        cases entry with
        | file held modified => exact .inl ⟨⟨fits, trivial⟩, rfl⟩
        | directory => exact .inr ⟨fun both => both.2, _, rfl⟩
        | link target => exact absurd known (noLink target)
  · rw [write, fails]
    exact .inr ⟨fun both => long both.1, _, rfl⟩

/-- Whether there is anything of a name. -/
theorem exists?_cases (drawer : Drawer tree directory path route entries)
    (unlinked : Unlinked entries name) :
    Fits path name ∧ tree.exists? directory (Path.join path name) = .ok (entries name).isSome ∨
      ¬Fits path name ∧ ∃ error, tree.exists? directory (Path.join path name) = .error error := by
  rcases drawer.resolve_cases unlinked with ⟨fits, leads⟩ | ⟨long, fails⟩
  · rw [exists?, leads]
    cases entries name <;> exact .inl ⟨fits, rfl⟩
  · rw [exists?, fails]
    exact .inr ⟨long, _, rfl⟩

/-- **A file is copied** to where nothing but a file stands. -/
theorem copy_cases (drawer : Drawer tree directory path route entries)
    (unlinked : Unlinked entries name) (unlinked' : Unlinked entries other) (different : name ≠ other)
    (now : Instant) :
    (∃ bytes modified, entries name = some (.file bytes modified) ∧
        (Fits path name ∧ Fits path other ∧ Entry.Yields (entries other)) ∧
        tree.copy directory (Path.join path name) (Path.join path other) now =
          .ok (tree.insert (route ++ [other]) (.file bytes now))) ∨
      ¬((∃ bytes modified, entries name = some (.file bytes modified)) ∧ Fits path name ∧
          Fits path other ∧ Entry.Yields (entries other)) ∧
        ∃ error, tree.copy directory (Path.join path name) (Path.join path other) now =
          .error error := by
  have apart : tree.leadsTo directory (Path.join path other) (route ++ [name]) = false := by
    rw [leadsTo]
    rcases drawer.resolve_cases unlinked' with ⟨-, leads⟩ | ⟨-, fails⟩
    · rw [leads]
      cases entries other with
      | none => rfl
      | some entry => simpa [Place.of] using Ne.symm different
    · rw [fails]
  rcases drawer.resolve_cases unlinked with ⟨fits, leads⟩ | ⟨long, fails⟩
  · cases known : entries name with
    | none =>
        rw [copy, leads, known]
        refine .inr ⟨fun all => ?_, _, rfl⟩
        obtain ⟨⟨bytes, modified, file⟩, -⟩ := all
        cases file
    | some entry =>
        cases entry with
        | file bytes modified =>
            have copied : tree.copy directory (Path.join path name) (Path.join path other) now =
                tree.write directory (Path.join path other) bytes now := by
              rw [copy, leads, known]
              show tree.write _ _ (if tree.leadsTo directory _ _ then [] else bytes) now = _
              rw [apart]
              rfl
            rw [copied]
            rcases drawer.write_cases unlinked' bytes now with
              ⟨⟨fits', yields⟩, written⟩ | ⟨not, failed⟩
            · exact .inl ⟨bytes, modified, rfl, ⟨fits, fits', yields⟩, written⟩
            · exact .inr ⟨fun all => not all.2.2, failed⟩
        | directory =>
            rw [copy, leads, known]
            refine .inr ⟨fun all => ?_, _, rfl⟩
            obtain ⟨⟨bytes, modified, file⟩, -⟩ := all
            cases file
        | link target => exact absurd known (unlinked.noLink target)
  · rw [copy, fails]
    exact .inr ⟨fun all => long all.2.1, _, rfl⟩

/-- What a file holds, unless its path is too long. -/
theorem read_cases (drawer : Drawer tree directory path route entries)
    (unlinked : Unlinked entries name) :
    Fits path name ∧ tree.read directory (Path.join path name) = Entry.read (entries name) ∨
      ¬Fits path name ∧ tree.read directory (Path.join path name) = .error .nameTooLong := by
  rcases drawer.resolve_cases unlinked with ⟨fits, leads⟩ | ⟨long, fails⟩
  · rw [read, leads]
    refine .inl ⟨fits, ?_⟩
    cases entries name with
    | none => rfl
    | some entry => cases entry <;> rfl
  · rw [read, fails]
    exact .inr ⟨long, rfl⟩

/-! ### Operations whose outcome is known -/

theorem modified_eq (drawer : Drawer tree directory path route entries)
    (unlinked : Unlinked entries name) (fits : Fits path name) {bytes : Bytes} {modified : Instant}
    (known : entries name = some (.file bytes modified)) :
    tree.modified directory (Path.join path name) = .ok modified := by
  rw [FileTree.modified, drawer.resolve_of_fits unlinked fits, known]
  rfl

/-- **A file takes another name** under which nothing but a file stands. -/
theorem rename_eq (drawer : Drawer tree directory path route entries)
    (unlinked : Unlinked entries name) (unlinked' : Unlinked entries other) (fits : Fits path name)
    (fits' : Fits path other) {bytes : Bytes} {modified : Instant}
    (known : entries name = some (.file bytes modified)) (yields : Entry.Yields (entries other)) :
    tree.rename directory (Path.join path name) (Path.join path other) =
      .ok ((tree.erase (route ++ [name])).insert (route ++ [other]) (.file bytes modified)) := by
  rw [rename, drawer.resolve_of_fits unlinked fits, drawer.resolve_of_fits unlinked' fits', known]
  cases there : entries other with
  | none => rfl
  | some entry =>
      rw [there] at yields
      cases entry with
      | file held written => rfl
      | directory | link target => exact yields.elim

theorem create_eq (drawer : Drawer tree directory path route entries)
    (unlinked : Unlinked entries name) (fits : Fits path name) (vacant : entries name = none)
    (bytes : Bytes) (now : Instant) :
    tree.create directory (Path.join path name) bytes now =
      .ok (tree.insert (route ++ [name]) (.file bytes now)) := by
  rw [create, drawer.resolve_of_fits unlinked fits, vacant]
  rfl

theorem remove_eq (drawer : Drawer tree directory path route entries)
    (unlinked : Unlinked entries name) (fits : Fits path name) {bytes : Bytes} {modified : Instant}
    (known : entries name = some (.file bytes modified)) :
    tree.remove directory (Path.join path name) = .ok (tree.erase (route ++ [name])) := by
  rw [remove, drawer.resolve_of_fits unlinked fits, known]
  rfl

end Drawer

end FileTree

end Provision
