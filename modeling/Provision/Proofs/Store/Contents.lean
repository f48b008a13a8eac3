/-
**The directory of a store, whatever is in it.**

The files of a store may be missing, hold anything at all, or be directories; they are no links. The
directory itself may be missing, or be a file:

* `Ticking.isThere_of_makeDirectories` and `Ticking.makeDirectories_apply` say what comes of making a
  directory and those above it;
* `Store.Contains` gives the entries of the directory, on a machine whose clock shows times of one kind,
  and `Contains.write_cases` and its like say what the operations of the machine make of them;
* `Store.Placed` says where the directory of a store is once it has been made, and `Store.RunsThrough`
  that its path runs through one of its files, as that of `resources.json/..` does;
* **`Placed.makeDirectories_cases`**: making it touches no other file;
* `depotWith` is a machine with a single file in such a directory.
-/

import Provision.Proofs.Assertions
import Provision.Proofs.Files.Ascent
import Provision.Proofs.Files.Drawer
import Provision.Proofs.Refinement

namespace Provision

open FileTree

/-! ### Making directories -/

namespace Ticking

variable {path name : String} {ticking later : Ticking} {answer : FileAnswer Unit}

/-- Whether a path leads to a directory. -/
def IsThere (path : String) (ticking : Ticking) : Prop :=
  ∃ route, ticking.machine.tree.resolve .target ticking.machine.directory path =
    .ok (.existing route .directory)

theorem isThere_of_makeDirectory (made : disk.makeDirectory path ticking = (.ok (), later)) :
    later.IsThere path := by
  change onMachine (Machine.change (·.makeDirectory · path)) ticking = _ at made
  cases outcome : ticking.machine.tree.makeDirectory ticking.machine.directory path with
  | error error =>
      rw [change_apply_error (·.makeDirectory · path) outcome] at made
      cases made
  | ok tree =>
      rw [change_apply (·.makeDirectory · path) outcome] at made
      cases made
      exact exists_resolve_of_makeDirectory outcome

theorem isThere_of_settleDirectory (there : answer = .ok () → ticking.IsThere path)
    (settled : disk.settleDirectory path answer ticking = (.ok (), later)) : later.IsThere path := by
  cases answer with
  | ok =>
      cases settled
      exact there rfl
  | error error =>
      change (if ticking.machine.tree.isDirectory ticking.machine.directory path then pure (.ok ())
        else pure (.error error) : StateM Ticking (FileAnswer Unit)) ticking = _ at settled
      split at settled
      next isThere =>
        cases settled
        unfold isDirectory at isThere
        split at isThere
        next route leads => exact ⟨route, leads⟩
        next => cases isThere
      next => cases settled

/-- **A directory that was made along with those above it is there.** -/
theorem isThere_of_makeDirectories (made : disk.makeDirectories path ticking = (.ok (), later)) :
    path = "" ∨ later.IsThere path := by
  unfold Disk.makeDirectories Disk.makeDirectoriesFrom at made
  split at made
  next empty => exact .inl (String.isEmpty_iff.mp empty)
  next nonempty =>
    refine .inr ?_
    rw [bind_apply] at made
    rcases outcome : disk.makeDirectory path ticking with ⟨answer, middle⟩
    rw [outcome] at made
    simp only at made
    split at made
    next =>
      rw [bind_apply] at made
      rcases above : disk.makeDirectoriesFrom (Path.parents path) middle with ⟨error | ⟨⟩, opened⟩
      all_goals rw [above] at made
      · cases made
      · change (disk.makeDirectory path >>= _ : StateM Ticking (FileAnswer Unit)) opened = _ at made
        rw [bind_apply] at made
        exact isThere_of_settleDirectory (fun done => isThere_of_makeDirectory (Prod.ext done rfl)) made
    next =>
      exact isThere_of_settleDirectory (fun done => isThere_of_makeDirectory (done ▸ outcome)) made

/-- **Making a directory and those above it** makes directories where nothing is, of names that are on
its path, and leaves everything else alone. -/
theorem makeDirectories_apply (path : String) (ticking : Ticking) :
    ∃ answer tree, disk.makeDirectories path ticking = (answer, ticking.withTree tree) ∧
      FileTree.Grows ticking.machine.tree tree ∧
      ∀ (above : Route) (name : String), name ≠ "" → name ≠ "." → name ∉ Path.segments path →
        tree.entry? (above ++ [name]) = ticking.machine.tree.entry? (above ++ [name]) := by
  obtain ⟨answer, tree, grows, made⟩ := grows_makeDirectoriesFrom (path :: Path.parents path)
    ticking.machine.tree ticking.machine.directory
  have done : disk.makeDirectories path ticking = (answer, ticking.withTree tree) := made ticking rfl rfl
  refine ⟨answer, tree, done, grows, fun above name written noDot apart => ?_⟩
  have keeps : Keeps (fun later : Ticking => later.machine.tree.entry? (above ++ [name]) =
      ticking.machine.tree.entry? (above ++ [name])) (disk.makeDirectories path) := by
    refine Disk.keeps_makeDirectoriesFrom (fun _ _ => id) _ fun other member before same => ?_
    change (onMachine (Machine.change (·.makeDirectory · other)) before).2.machine.tree.entry? _ = _
    cases outcome : before.machine.tree.makeDirectory before.machine.directory other with
    | error error => rw [change_apply_error (·.makeDirectory · other) outcome, same]
    | ok tree =>
        rw [change_apply (·.makeDirectory · other) outcome, ← same]
        obtain ⟨route, first, segment, slashes, whole, -, named, -, -, rfl⟩ :=
          exists_of_makeDirectory outcome
        have inside : segment ∈ Path.segments other := by
          rw [whole]
          exact List.mem_append_right _ List.mem_cons_self
        have onPath : segment ∈ Path.segments path := by
          rcases List.mem_cons.mp member with rfl | member
          · exact inside
          · rcases Path.mem_segments_of_mem_parents member inside with empty | dot | onPath
            · exact absurd empty named.nonempty
            · exact absurd dot named.noDot
            · exact onPath
        refine (entry?_insert (List.append_ne_nil_of_right_ne_nil _ (List.cons_ne_nil _ _)) _ _).trans
          (if_neg fun equal => apart ?_)
        obtain rfl : segment = name := (List.append_inj' equal rfl).2 |> List.singleton_inj.mp
        exact onPath
  have same := keeps ticking rfl
  rw [done] at same
  exact same

/-- What comes of making a directory and those above it depends on the files alone. -/
theorem makeDirectories_of_tree (path : String) (tree : later.machine.tree = ticking.machine.tree)
    (directory : later.machine.directory = ticking.machine.directory) :
    ∃ answer grown, disk.makeDirectories path ticking = (answer, ticking.withTree grown) ∧
      disk.makeDirectories path later = (answer, later.withTree grown) := by
  obtain ⟨answer, grown, -, made⟩ := grows_makeDirectoriesFrom (path :: Path.parents path)
    ticking.machine.tree ticking.machine.directory
  exact ⟨answer, grown, made ticking rfl rfl, made later tree directory⟩

end Ticking

/-! ### Entries -/

/-- What stands at a route, by the names there. -/
def Ticking.entries (route : Route) (ticking : Ticking) (name : String) : Option Entry :=
  ticking.machine.tree.entry? (route ++ [name])

namespace Store

variable {store : Store} {shows : Instant → Prop} {route : Route} {entries : String → Option Entry}
  {ticking : Ticking} {name other : String}

/-- The directory of a store in which given entries stand. No file of the store is a link, and the clock
shows times of one kind. -/
structure Contains (store : Store) (shows : Instant → Prop) (route : Route)
    (entries : String → Option Entry) (ticking : Ticking) : Prop where
  drawer : Drawer ticking.machine.tree ticking.machine.directory store.directory route entries
  noLink : ∀ name ∈ fileNames, ∀ target, entries name ≠ some (.link target)
  times : ∀ index, shows (ticking.readings index)

namespace Contains

variable (holder : String)

theorem unlinked (contains : store.Contains shows route entries ticking) (member : name ∈ fileNames) :
    Unlinked entries name := ⟨isFileName member, contains.noLink name member⟩

theorem entries_eq (contains : store.Contains shows route entries ticking) :
    ticking.entries route = entries := funext contains.drawer.holds

/-- Another tree, in which one entry is a different one, and no link. -/
theorem update (contains : store.Contains shows route entries ticking) {tree : FileTree}
    {entry : Option Entry}
    (drawer : Drawer tree ticking.machine.directory store.directory route
      (Function.update entries name entry)) (noLink : ∀ target, entry ≠ some (.link target)) :
    store.Contains shows route (Function.update entries name entry) (ticking.withTree tree) where
  drawer := drawer
  noLink := fun other member => by
    by_cases same : other = name
    · subst same
      rw [Function.update_self]
      exact noLink
    · rw [Function.update_of_ne same]
      exact contains.noLink other member
  times := contains.times

theorem now_apply (contains : store.Contains shows route entries ticking) :
    ∃ later, (Ticking.host holder).now ticking = (ticking.readings 0, later) ∧
      shows (ticking.readings 0) ∧ store.Contains shows route entries later :=
  ⟨_, rfl, contains.times 0, contains.drawer, contains.noLink, fun index => contains.times (index + 1)⟩

theorem read_cases (contains : store.Contains shows route entries ticking) (member : name ∈ fileNames) :
    FileTree.Fits store.directory name ∧
        (Ticking.host holder).disk.read (Path.join store.directory name) ticking =
          (Entry.read (entries name), ticking) ∨
      ¬FileTree.Fits store.directory name ∧
        (Ticking.host holder).disk.read (Path.join store.directory name) ticking =
          (.error .nameTooLong, ticking) :=
  (contains.drawer.read_cases (contains.unlinked member)).imp
    (And.imp_right (congrArg (·, ticking))) (And.imp_right (congrArg (·, ticking)))

theorem exists?_cases (contains : store.Contains shows route entries ticking)
    (member : name ∈ fileNames) :
    FileTree.Fits store.directory name ∧
        (Ticking.host holder).disk.exists? (Path.join store.directory name) ticking =
          (.ok (entries name).isSome, ticking) ∨
      ¬FileTree.Fits store.directory name ∧ ∃ error,
        (Ticking.host holder).disk.exists? (Path.join store.directory name) ticking =
          (.error error, ticking) :=
  (contains.drawer.exists?_cases (contains.unlinked member)).imp (And.imp_right (congrArg (·, ticking)))
    (And.imp_right fun ⟨error, failed⟩ => ⟨error, congrArg (·, ticking) failed⟩)

theorem write_cases (contains : store.Contains shows route entries ticking) (member : name ∈ fileNames)
    (bytes : Bytes) :
    (FileTree.Fits store.directory name ∧ Entry.Yields (entries name)) ∧ (∃ later,
        (Ticking.host holder).disk.write (Path.join store.directory name) bytes ticking =
          (.ok (), later) ∧ later.machine.now = ticking.machine.now ∧
        store.Contains shows route
          (Function.update entries name (some (.file bytes ticking.machine.now))) later) ∨
      ¬(FileTree.Fits store.directory name ∧ Entry.Yields (entries name)) ∧ ∃ error,
        (Ticking.host holder).disk.write (Path.join store.directory name) bytes ticking =
          (.error error, ticking) := by
  rcases contains.drawer.write_cases (contains.unlinked member) bytes ticking.machine.now with
    ⟨done, written⟩ | ⟨not, error, failed⟩
  · exact .inl ⟨done, _, Ticking.change_apply _ written, rfl,
      contains.update (contains.drawer.insert done.2 _ _) fun _ => nofun⟩
  · exact .inr ⟨not, error, Ticking.change_apply_error _ failed⟩

theorem copy_cases (contains : store.Contains shows route entries ticking) (member : name ∈ fileNames)
    (member' : other ∈ fileNames) (different : name ≠ other) :
    (∃ bytes modified later, entries name = some (.file bytes modified) ∧
        (FileTree.Fits store.directory name ∧ FileTree.Fits store.directory other ∧
          Entry.Yields (entries other)) ∧
        (Ticking.host holder).disk.copy (Path.join store.directory name)
          (Path.join store.directory other) ticking = (.ok (), later) ∧
        later.machine.now = ticking.machine.now ∧
        store.Contains shows route
          (Function.update entries other (some (.file bytes ticking.machine.now))) later) ∨
      ¬((∃ bytes modified, entries name = some (.file bytes modified)) ∧
          FileTree.Fits store.directory name ∧ FileTree.Fits store.directory other ∧
            Entry.Yields (entries other)) ∧ ∃ error,
        (Ticking.host holder).disk.copy (Path.join store.directory name)
          (Path.join store.directory other) ticking = (.error error, ticking) := by
  rcases contains.drawer.copy_cases (contains.unlinked member) (contains.unlinked member') different
    ticking.machine.now with ⟨bytes, modified, known, done, copied⟩ | ⟨not, error, failed⟩
  · exact .inl ⟨bytes, modified, _, known, done, Ticking.change_apply _ copied, rfl,
      contains.update (contains.drawer.insert done.2.2 _ _) fun _ => nofun⟩
  · exact .inr ⟨not, error, Ticking.change_apply_error _ failed⟩

theorem rename_apply (contains : store.Contains shows route entries ticking) (member : name ∈ fileNames)
    (member' : other ∈ fileNames) (different : name ≠ other)
    (fits : FileTree.Fits store.directory name) (fits' : FileTree.Fits store.directory other)
    {bytes : Bytes} {modified : Instant} (known : entries name = some (.file bytes modified))
    (yields : Entry.Yields (entries other)) :
    ∃ later, (Ticking.host holder).disk.rename (Path.join store.directory name)
        (Path.join store.directory other) ticking = (.ok (), later) ∧
      store.Contains shows route
        (Function.update (Function.update entries name none) other (some (.file bytes modified)))
        later := by
  have renamed := contains.drawer.rename_eq (contains.unlinked member) (contains.unlinked member') fits
    fits' known yields
  have gives : Entry.Yields (entries name) := by
    rw [known]
    trivial
  have erased := contains.update (contains.drawer.erase gives) fun _ => nofun
  rw [← Function.update_of_ne (Ne.symm different) none entries] at yields
  exact ⟨_, Ticking.change_apply (·.rename · _ _) renamed,
    erased.update (erased.drawer.insert yields _ _) fun _ => nofun⟩

theorem create_apply (contains : store.Contains shows route entries ticking) (member : name ∈ fileNames)
    (fits : FileTree.Fits store.directory name) (vacant : entries name = none) (bytes : Bytes) :
    ∃ modified later, (Ticking.host holder).disk.create (Path.join store.directory name) bytes ticking =
        (.ok (), later) ∧
      store.Contains shows route (Function.update entries name (some (.file bytes modified))) later := by
  have created := contains.drawer.create_eq (contains.unlinked member) fits vacant bytes
    ticking.machine.now
  have yields : Entry.Yields (entries name) := by
    rw [vacant]
    trivial
  exact ⟨_, _, Ticking.change_apply _ created,
    contains.update (contains.drawer.insert yields _ _) fun _ => nofun⟩

theorem remove_apply (contains : store.Contains shows route entries ticking) (member : name ∈ fileNames)
    (fits : FileTree.Fits store.directory name) {bytes : Bytes} {modified : Instant}
    (known : entries name = some (.file bytes modified)) :
    ∃ later, (Ticking.host holder).disk.remove (Path.join store.directory name) ticking =
        (.ok (), later) ∧ store.Contains shows route (Function.update entries name none) later := by
  have removed := contains.drawer.remove_eq (contains.unlinked member) fits known
  have yields : Entry.Yields (entries name) := by
    rw [known]
    trivial
  exact ⟨_, Ticking.change_apply (·.remove · _) removed,
    contains.update (contains.drawer.erase yields) fun _ => nofun⟩

end Contains

/-! ### Places -/

/-- A directory that was made is somewhere. -/
theorem exists_leads {later : Ticking}
    (made : Ticking.disk.makeDirectories store.directory ticking = (.ok (), later)) :
    ∃ route, store.Leads route later := by
  rcases Ticking.isThere_of_makeDirectories made with here | ⟨route, leads⟩
  · exact ⟨_, .inl ⟨here, rfl⟩⟩
  · exact ⟨route, .inr leads⟩

theorem Leads.of_tree (leads : store.Leads route ticking) {later : Ticking}
    (tree : later.machine.tree = ticking.machine.tree)
    (directory : later.machine.directory = ticking.machine.directory) : store.Leads route later := by
  unfold Leads
  rw [tree, directory]
  exact leads

/-- A directory that is there need not be made. -/
theorem Leads.makeDirectories_apply (leads : store.Leads route ticking) :
    Ticking.disk.makeDirectories store.directory ticking = (.ok (), ticking) := by
  refine Disk.makeDirectories_apply _ ?_
  by_cases empty : store.directory = ""
  · exact .inl empty
  have folder := leads.folder
  rcases leads with ⟨here, -⟩ | leads
  · exact absurd here empty
  have short := (resolve_eq_ok leads).2.1
  have there := folder.makeDirectory_eq empty short
  have isThere := folder.isDirectory_eq empty short
  exact .inr ⟨Ticking.change_apply_error (·.makeDirectory · _) there, congrArg (·, ticking) isThere⟩

/-- A folder whose path is not too long is where the path leads to. -/
theorem leads_of_folder
    (folder : Folder ticking.machine.tree ticking.machine.directory store.directory route)
    (short : store.directory.utf8ByteSize ≤ maximumPath) : store.Leads route ticking := by
  by_cases empty : store.directory = ""
  · have walk := folder.walk
    rw [empty] at walk
    exact .inl ⟨empty, (walk.eq_of_slashes (by decide)).symm⟩
  · refine .inr ?_
    rw [resolve, resolvePart_eq folder.noNul empty short]
    exact folder.walk.resolveSegments

/-- The directory of a store with a file whose path is not too long. -/
theorem Contains.leads (contains : store.Contains shows route entries ticking)
    (fits : FileTree.Fits store.directory name) : store.Leads route ticking :=
  leads_of_folder contains.drawer.folder
    (Nat.le_trans (Path.size_le_join fits.named.toIsPlain store.directory) fits.short)

/-- Where the directory of a store is once it has been made, if it can be made. No file of the store is a
link, and the clock shows times of one kind. -/
structure Placed (store : Store) (shows : Instant → Prop) (route : Route) (ticking : Ticking) :
    Prop where
  leads : ∀ opened, Ticking.disk.makeDirectories store.directory ticking = (.ok (), opened) →
    store.Leads route opened
  noLink : ∀ name ∈ fileNames, ∀ target, ticking.entries route name ≠ some (.link target)
  times : ∀ index, shows (ticking.readings index)

/-- The path of the directory of a store runs through a file of it that is missing: making the directory
makes a directory of the name of that file, as for `resources.json/..`. -/
def RunsThrough (store : Store) (route : Route) (ticking : Ticking) (name : String) : Prop :=
  ticking.entries route name = none ∧
    (Ticking.disk.makeDirectories store.directory ticking).2.entries route name = some .directory

/-- What stands under a name once the directory of a store has been made: what stood there before, or a
directory through which the path runs. -/
def Leaves (store : Store) (route : Route) (ticking : Ticking) (name : String) (entry : Option Entry) :
    Prop :=
  entry = ticking.entries route name ∨
    store.RunsThrough route ticking name ∧ entry = some .directory

section Paths

variable {entry : Option Entry}

/-- A directory that is there has no path through a file that is missing. -/
theorem Leads.not_runsThrough (leads : store.Leads route ticking) (name : String) :
    ¬store.RunsThrough route ticking name := by
  rintro ⟨missing, made⟩
  rw [leads.makeDirectories_apply] at made
  cases missing.symm.trans made

/-- A path without the name of a file does not run through it. -/
theorem not_runsThrough_of_segments (member : name ∈ fileNames)
    (apart : name ∉ Path.segments store.directory) : ¬store.RunsThrough route ticking name := by
  rintro ⟨missing, made⟩
  obtain ⟨answer, tree, done, -, spared⟩ := Ticking.makeDirectories_apply store.directory ticking
  have named := isFileName member
  have same : (ticking.withTree tree).entries route name = ticking.entries route name :=
    spared route name named.nonempty named.noDot apart
  rw [done] at made
  cases missing.symm.trans (same.symm.trans made)

/-- Where a path runs through depends on the files alone. -/
theorem runsThrough_of_tree {later : Ticking} (tree : later.machine.tree = ticking.machine.tree)
    (directory : later.machine.directory = ticking.machine.directory)
    (through : store.RunsThrough route later name) : store.RunsThrough route ticking name := by
  obtain ⟨missing, made⟩ := through
  obtain ⟨answer, grown, here, there⟩ :=
    Ticking.makeDirectories_of_tree store.directory tree directory
  refine ⟨?_, ?_⟩
  · unfold Ticking.entries at missing ⊢
    rwa [← tree]
  · rw [there] at made
    rw [here]
    exact made

theorem Leaves.eq (leaves : store.Leaves route ticking name entry)
    (apart : ¬store.RunsThrough route ticking name) : entry = ticking.entries route name :=
  leaves.resolve_right fun through => apart through.1

/-- Where no directory stands the path does not run through. -/
theorem Leaves.eq_of_ne_directory (leaves : store.Leaves route ticking name entry)
    (noDirectory : entry ≠ some .directory) : entry = ticking.entries route name :=
  leaves.resolve_right fun through => noDirectory through.2

end Paths

namespace Placed

/-- A directory that is there is placed. -/
theorem of_leads (leads : store.Leads route ticking)
    (noLink : ∀ name ∈ fileNames, ∀ target, ticking.entries route name ≠ some (.link target))
    (times : ∀ index, shows (ticking.readings index)) : store.Placed shows route ticking where
  leads := fun opened made => by
    cases made.symm.trans leads.makeDirectories_apply
    exact leads
  noLink := noLink
  times := times

/-- Where a store is placed depends on the files alone. -/
theorem of_tree (placed : store.Placed shows route ticking) {later : Ticking}
    (tree : later.machine.tree = ticking.machine.tree)
    (directory : later.machine.directory = ticking.machine.directory)
    (times : ∀ index, shows (later.readings index)) : store.Placed shows route later where
  leads := fun opened made => by
    obtain ⟨answer, grown, here, there⟩ :=
      Ticking.makeDirectories_of_tree store.directory tree directory
    cases there.symm.trans made
    exact (placed.leads _ here).of_tree rfl directory
  noLink := by
    unfold Ticking.entries
    rw [tree]
    exact placed.noLink
  times := times

/-- **Any store is placed somewhere**, unless there are links of the names of its files. -/
theorem exists_of_noLink
    (noLink : ∀ route, ∀ name ∈ fileNames, ∀ target, ticking.entries route name ≠ some (.link target))
    (times : ∀ index, shows (ticking.readings index)) : ∃ route, store.Placed shows route ticking := by
  rcases made : Ticking.disk.makeDirectories store.directory ticking with ⟨error | ⟨⟩, opened⟩
  · refine ⟨[], fun other made' => ?_, noLink [], times⟩
    cases made.symm.trans made'
  · obtain ⟨route, leads⟩ := exists_leads made
    refine ⟨route, fun other made' => ?_, noLink route, times⟩
    cases made.symm.trans made'
    exact leads

/-- A store that is ready for use is placed. -/
theorem of_ready {opened : Ticking} (ready : store.Ready route ticking opened) :
    store.Placed Instant.Nameable route ticking := by
  obtain ⟨answer, tree, done, grows, -⟩ := Ticking.makeDirectories_apply store.directory ticking
  cases done.symm.trans ready.made
  refine ⟨fun other made => ?_, fun name _ target => ?_, ready.timely⟩
  · cases ready.made.symm.trans made
    exact ready.leads
  · unfold Ticking.entries
    rw [grows.vacant (ready.empty name)]
    exact nofun

/-- **Making the directory of a store touches no file** but one through which its path runs. -/
theorem makeDirectories_cases (placed : store.Placed shows route ticking) :
    (∃ entries tree,
        Ticking.disk.makeDirectories store.directory ticking = (.ok (), ticking.withTree tree) ∧
        store.Contains shows route entries (ticking.withTree tree) ∧
        ∀ name, store.Leaves route ticking name (entries name)) ∨
      ∃ error tree,
        Ticking.disk.makeDirectories store.directory ticking = (.error error, ticking.withTree tree) ∧
        ∀ name, store.Leaves route ticking name ((ticking.withTree tree).entries route name) := by
  obtain ⟨answer, tree, made, grows, -⟩ := Ticking.makeDirectories_apply store.directory ticking
  have leaves (name : String) :
      store.Leaves route ticking name ((ticking.withTree tree).entries route name) := by
    rcases grows (route ++ [name]) with same | ⟨missing, directory⟩
    · exact .inl same
    · exact .inr ⟨⟨missing, made ▸ directory⟩, directory⟩
  cases answer with
  | error error => exact .inr ⟨error, tree, made, leaves⟩
  | ok =>
      refine .inl ⟨_, tree, made, ⟨.of_folder (placed.leads _ made).folder, ?_, placed.times⟩, leaves⟩
      intro name member target linked
      rcases leaves name with same | ⟨-, directory⟩
      · exact placed.noLink name member target (same.symm.trans linked)
      · cases directory.symm.trans linked

end Placed

end Store

/-! ### A directory with one file, or none -/

theorem depotMachine_placed : Store.Placed ⟨"state"⟩ (fun _ => True) ["state"] depotMachine :=
  { Store.Placed.of_ready depotMachine_ready with times := fun _ => trivial }

/-- A machine with a directory in which there is one file. -/
def depotWith (name : String) (bytes : Bytes) (modified : Instant) : Ticking :=
  depotOpened.withTree (depotOpened.machine.tree.insert ["state", name] (.file bytes modified))

variable (name : String) (bytes : Bytes) (modified : Instant)

theorem depotWith_contains : Store.Contains ⟨"state"⟩ Instant.Nameable ["state"]
    (Function.update (fun _ => none) name (some (.file bytes modified)))
    (depotWith name bytes modified) := by
  have ready := depotMachine_ready
  have drawer : Drawer depotOpened.machine.tree depotOpened.machine.directory "state" ["state"]
      (fun _ => none) := ⟨ready.leads.folder, ready.empty⟩
  have contains : Store.Contains ⟨"state"⟩ Instant.Nameable ["state"] (fun _ => none) depotOpened :=
    ⟨drawer, fun _ _ _ => nofun, ready.timely⟩
  exact contains.update (drawer.insert trivial bytes modified) fun _ => nofun

theorem depotWith_leads : Store.Leads ⟨"state"⟩ ["state"] (depotWith name bytes modified) :=
  (depotWith_contains name bytes modified).leads
    (depotMachine_ready.fits.file Store.stateName (by decide))

theorem depotWith_placed :
    Store.Placed ⟨"state"⟩ Instant.Nameable ["state"] (depotWith name bytes modified) :=
  have contains := depotWith_contains name bytes modified
  .of_leads (depotWith_leads name bytes modified) (contains.entries_eq ▸ contains.noLink) contains.times

end Provision
