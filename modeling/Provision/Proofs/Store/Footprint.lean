/-
**What a store leaves behind.**

A store is used in a tree without links, whatever is in it: its directory may be missing, or hold files
that are none of the store. Whatever becomes of a call, all it can have changed is told from the path of
the directory:

* `Store.Footprint` says of two trees that nothing differs but the files of a store and directories above
  them, and that its state file is as it was or spells more resources, unless it is itself on the way to
  the directory and has become one;
* `Store.Guarded` is a machine on which nothing else has happened since, and `Guarded.replace` and
  `Guarded.make` go on from there;
* `Store.acquire_ensures`, `Store.save_ensures` and their like are the steps of a call;
* **`Store.keeps_create`** and `Store.keeps_find`: the calls of a deployment leave a footprint and nothing
  else.
-/

import Provision.Proofs.Assertions
import Provision.Proofs.Files.Addresses
import Provision.Proofs.Store.States

namespace Provision

open FileTree

namespace Store

/-! ### Footprints -/

/-- Where the directory of a store is. -/
def home (store : Store) (directory : Route) : Route := address directory store.directory

/-- Where a file of a store is. -/
def fileRoute (store : Store) (directory : Route) (name : String) : Route :=
  store.home directory ++ [name]

/-- A route at which the directory of a store is, or one above it. -/
def IsAbove (store : Store) (directory route : Route) : Prop :=
  ∃ path ∈ store.directory :: Path.parents store.directory, route = address directory path

/-- Contents of a state file that spell the resources of the one that is there, followed by others. -/
def Succeeds (before : Option Entry) (bytes : Bytes) : Prop :=
  ∃ old new, Reads before old ∧ stateOf bytes = .ok new ∧ old.resources <+: new.resources

/-- A state file is as it was, or has been succeeded. -/
def Continues (before after : Option Entry) : Prop :=
  after = before ∨ ∃ bytes modified, after = some (.file bytes modified) ∧ Succeeds before bytes

/-- Nothing has changed but the files of a store, and directories that were missing have been made where
its own directory is and above; no directory is gone. Its state file is continued, unless it was missing
and is itself above the directory, and one has been made there. -/
structure Footprint (store : Store) (directory : Route) (before after : FileTree) : Prop where
  frame : ∀ route, after.entry? route = before.entry? route ∨
    (∃ name ∈ fileNames, route = store.fileRoute directory name) ∨
    store.IsAbove directory route ∧ before.entry? route = none ∧ after.entry? route = some .directory
  directories : ∀ route, before.entry? route = some .directory → after.entry? route = some .directory
  state : Continues (before.entry? (store.fileRoute directory stateName))
      (after.entry? (store.fileRoute directory stateName)) ∨
    store.IsAbove directory (store.fileRoute directory stateName) ∧
      before.entry? (store.fileRoute directory stateName) = none ∧
      after.entry? (store.fileRoute directory stateName) = some .directory

theorem Succeeds.trans {before : Option Entry} {bytes bytes' : Bytes} {modified : Instant}
    (first : Succeeds before bytes) (second : Succeeds (some (.file bytes modified)) bytes') :
    Succeeds before bytes' := by
  obtain ⟨old, new, reads, spells, more⟩ := first
  obtain ⟨old', new', reads', spells', more'⟩ := second
  obtain rfl := Except.ok.inj (spells.symm.trans reads')
  exact ⟨old, new', reads, spells', more.trans more'⟩

theorem Continues.trans {before middle after : Option Entry} (first : Continues before middle)
    (second : Continues middle after) : Continues before after := by
  rcases first with rfl | ⟨bytes, modified, rfl, succeeds⟩
  · exact second
  rcases second with rfl | ⟨bytes', modified', rfl, succeeds'⟩
  · exact .inr ⟨bytes, modified, rfl, succeeds⟩
  · exact .inr ⟨bytes', modified', rfl, succeeds.trans succeeds'⟩

/-- In the place of a directory nothing is continued but the directory. -/
theorem Continues.eq_of_directory {after : Option Entry}
    (continues : Continues (some .directory) after) : after = some .directory := by
  refine continues.resolve_right ?_
  rintro ⟨bytes, modified, -, old, new, reads, -⟩
  exact reads.ne_directory rfl

variable {store : Store} {directory : Route} {before tree later : FileTree} {ticking : Ticking}
  {name other : String}

theorem Footprint.refl (store : Store) (directory : Route) (tree : FileTree) :
    store.Footprint directory tree tree := ⟨fun _ => .inl rfl, fun _ => id, .inl (.inl rfl)⟩

theorem fileRoute_ne (different : name ≠ other) :
    store.fileRoute directory name ≠ store.fileRoute directory other :=
  fun same => different (append_singleton_inj.mp same)

theorem fileRoute_ne_nil : store.fileRoute directory name ≠ [] :=
  List.append_ne_nil_of_right_ne_nil _ (List.cons_ne_nil _ _)

/-- What stands where a file of the store has been written. -/
theorem entry?_insert_file (name : String) (bytes : Bytes) (now : Instant) (route : Route) :
    entry? (tree.insert (store.fileRoute directory name) (.file bytes now)) route =
      if store.fileRoute directory name = route then some (.file bytes now) else tree.entry? route :=
  entry?_insert fileRoute_ne_nil _ _

/-- A file of the store is replaced. -/
theorem Footprint.replace (footprint : store.Footprint directory before tree) (member : name ∈ fileNames)
    (noDirectory : tree.entry? (store.fileRoute directory name) ≠ some .directory)
    (others : ∀ route, route ≠ store.fileRoute directory name → later.entry? route = tree.entry? route)
    (continues : Continues (tree.entry? (store.fileRoute directory stateName))
      (later.entry? (store.fileRoute directory stateName))) :
    store.Footprint directory before later where
  frame := fun route => by
    by_cases here : route = store.fileRoute directory name
    · exact .inr (.inl ⟨name, member, here⟩)
    · rw [others route here]
      exact footprint.frame route
  directories := fun route held => by
    have stays := footprint.directories route held
    by_cases here : route = store.fileRoute directory name
    · exact absurd (here ▸ stays) noDirectory
    · rw [others route here, stays]
  state := by
    rcases footprint.state with kept | ⟨above, missing, made⟩
    · exact .inl (kept.trans continues)
    · rw [made] at continues
      exact .inr ⟨above, missing, continues.eq_of_directory⟩

/-- A directory is made above the files of the store. -/
theorem Footprint.make (footprint : store.Footprint directory before tree) {route : Route}
    (above : store.IsAbove directory route) (vacant : tree.entry? route = none) :
    store.Footprint directory before (tree.insert route .directory) where
  frame := fun other => by
    rw [entry?_insert (ne_nil_of_entry?_eq_none vacant)]
    by_cases same : route = other
    · subst same
      rw [if_pos rfl]
      rcases footprint.frame route with kept | file | ⟨-, -, made⟩
      · exact .inr (.inr ⟨above, kept.symm.trans vacant, rfl⟩)
      · exact .inr (.inl file)
      · cases vacant.symm.trans made
    · rw [if_neg same]
      exact footprint.frame other
  directories := fun other held => by
    rw [entry?_insert (ne_nil_of_entry?_eq_none vacant), footprint.directories other held, ite_self]
  state := by
    rw [entry?_insert (ne_nil_of_entry?_eq_none vacant)]
    by_cases same : route = store.fileRoute directory stateName
    · rw [if_pos same]
      rw [same] at above vacant
      rcases footprint.state with (kept | ⟨bytes, modified, written, -⟩) | ⟨-, -, made⟩
      · exact .inr ⟨above, kept.symm.trans vacant, rfl⟩
      · cases vacant.symm.trans written
      · cases vacant.symm.trans made
    · rw [if_neg same]
      exact footprint.state

/-! ### Guarded machines -/

/-- A machine without links, whose clock shows times that can be written, and on which a store has left
its footprint since there was another tree. -/
structure Guarded (store : Store) (directory : Route) (before : FileTree) (ticking : Ticking) : Prop where
  here : ticking.machine.directory = directory
  timely : ∀ index, (ticking.readings index).Nameable
  linkFree : ticking.machine.tree.LinkFree
  footprint : store.Footprint directory before ticking.machine.tree

namespace Guarded

theorem tick (guarded : store.Guarded directory before ticking) :
    store.Guarded directory before (Ticking.now ticking).2 :=
  ⟨guarded.here, fun index => guarded.timely (index + 1), guarded.linkFree, guarded.footprint⟩

/-- A file of the store is replaced by another one, or removed. -/
theorem replace (guarded : store.Guarded directory before ticking) (member : name ∈ fileNames)
    (noDirectory : ticking.machine.tree.entry? (store.fileRoute directory name) ≠ some .directory)
    (others : ∀ route, route ≠ store.fileRoute directory name →
      later.entry? route = ticking.machine.tree.entry? route)
    (noLink : ∀ target, later.entry? (store.fileRoute directory name) ≠ some (.link target))
    (continues : Continues (ticking.machine.tree.entry? (store.fileRoute directory stateName))
      (later.entry? (store.fileRoute directory stateName))) :
    store.Guarded directory before (ticking.withTree later) where
  here := guarded.here
  timely := guarded.timely
  linkFree := fun route target => by
    by_cases here : route = store.fileRoute directory name
    · rw [here]
      exact noLink target
    · rw [Ticking.withTree_tree, others route here]
      exact guarded.linkFree route target
  footprint := guarded.footprint.replace member noDirectory others continues

theorem insert (guarded : store.Guarded directory before ticking) (name : String)
    (member : name ∈ fileNames)
    (noDirectory : ticking.machine.tree.entry? (store.fileRoute directory name) ≠ some .directory)
    (bytes : Bytes) (now : Instant)
    (succeeds : name = stateName →
      Succeeds (ticking.machine.tree.entry? (store.fileRoute directory stateName)) bytes) :
    store.Guarded directory before
      (ticking.withTree (ticking.machine.tree.insert (store.fileRoute directory name)
        (.file bytes now))) := by
  refine guarded.replace member noDirectory (fun route different => ?_) (fun target => ?_) ?_
  · rw [entry?_insert_file, if_neg different.symm]
  · rw [entry?_insert_file, if_pos rfl]
    exact fun same => nomatch same
  · by_cases state : name = stateName
    · subst state
      rw [entry?_insert_file, if_pos rfl]
      exact .inr ⟨bytes, now, rfl, succeeds rfl⟩
    · rw [entry?_insert_file, if_neg (fileRoute_ne state)]
      exact .inl rfl

theorem erase (guarded : store.Guarded directory before ticking) (name : String)
    (member : name ∈ fileNames)
    (noDirectory : ticking.machine.tree.entry? (store.fileRoute directory name) ≠ some .directory)
    (state : name ≠ stateName) :
    store.Guarded directory before
      (ticking.withTree (ticking.machine.tree.erase (store.fileRoute directory name))) := by
  have others (route : Route) (different : route ≠ store.fileRoute directory name) :
      entry? (ticking.machine.tree.erase (store.fileRoute directory name)) route =
        ticking.machine.tree.entry? route := by
    rw [entry?_erase fileRoute_ne_nil, if_neg different.symm]
  refine guarded.replace member noDirectory others (fun target => ?_)
    (.inl (others _ (fileRoute_ne state.symm)))
  rw [entry?_erase fileRoute_ne_nil, if_pos rfl]
  exact fun same => nomatch same

theorem make (guarded : store.Guarded directory before ticking) {route : Route}
    (above : store.IsAbove directory route) (vacant : ticking.machine.tree.entry? route = none) :
    store.Guarded directory before
      (ticking.withTree (ticking.machine.tree.insert route .directory)) where
  here := guarded.here
  timely := guarded.timely
  linkFree := guarded.linkFree.make (ne_nil_of_entry?_eq_none vacant)
  footprint := guarded.footprint.make above vacant

end Guarded

end Store

/-! ### Operations on files -/

namespace Ticking

variable {before : Ticking → Prop} {after : FileAnswer Unit → Ticking → Prop}

/-- An operation that changes files, unless it fails. -/
theorem ensures_change (operation : FileTree → Route → FileAnswer FileTree)
    (fails : ∀ ticking error, before ticking → after (.error error) ticking)
    (done : ∀ ticking tree, before ticking →
      operation ticking.machine.tree ticking.machine.directory = .ok tree →
        after (.ok ()) (ticking.withTree tree)) :
    Ensures before (onMachine (Machine.change operation)) after := by
  intro ticking fulfilled
  cases answer : operation ticking.machine.tree ticking.machine.directory with
  | error error =>
      rw [change_apply_error operation answer]
      exact fails ticking error fulfilled
  | ok tree =>
      rw [change_apply operation answer]
      exact done ticking tree fulfilled answer

/-- An operation that changes files at the time that the machine shows, unless it fails. -/
theorem ensures_changeNow (operation : FileTree → Route → Instant → FileAnswer FileTree)
    (fails : ∀ ticking error, before ticking → after (.error error) ticking)
    (done : ∀ ticking tree, before ticking →
      operation ticking.machine.tree ticking.machine.directory ticking.machine.now = .ok tree →
        after (.ok ()) (ticking.withTree tree)) :
    Ensures before (onMachine (Machine.changeNow operation)) after := fun ticking fulfilled =>
  ensures_change (fun tree directory => operation tree directory ticking.machine.now)
    (fun _ error same => same ▸ fails ticking error fulfilled)
    (fun _ tree same answer => by
      subst same
      exact done _ tree fulfilled answer) ticking (Eq.refl ticking)

end Ticking

namespace Store

section Operations

variable {store : Store} {directory : Route} {before : FileTree} {name : String}
  (holder : String)

/-- The state file is still to be replaced by one that succeeds it; a directory in its place is not. -/
def Awaits (store : Store) (directory : Route) (before : FileTree) (bytes : Bytes) (ticking : Ticking) :
    Prop :=
  store.Guarded directory before ticking ∧
    (ticking.machine.tree.entry? (store.fileRoute directory stateName) ≠ some .directory →
      Succeeds (ticking.machine.tree.entry? (store.fileRoute directory stateName)) bytes)

/-- The file that is to replace the state file has been written. -/
def Prepares (store : Store) (directory : Route) (before : FileTree) (bytes : Bytes)
    (ticking : Ticking) : Prop :=
  store.Awaits directory before bytes ticking ∧ ∃ modified,
    ticking.machine.tree.entry? (store.fileRoute directory scratchName) = some (.file bytes modified)

theorem address_file (member : name ∈ fileNames) :
    address directory (Path.join store.directory name) = store.fileRoute directory name :=
  address_join (isFileName member) directory store.directory

/-- Another file than the state file is written. -/
theorem Awaits.insert {bytes : Bytes} {ticking : Ticking}
    (awaits : store.Awaits directory before bytes ticking) (name : String) (member : name ∈ fileNames)
    (noDirectory : ticking.machine.tree.entry? (store.fileRoute directory name) ≠ some .directory)
    (different : name ≠ stateName) (contents : Bytes) (now : Instant) :
    store.Awaits directory before bytes
      (ticking.withTree (ticking.machine.tree.insert (store.fileRoute directory name)
        (.file contents now))) := by
  refine ⟨awaits.1.insert name member noDirectory contents now fun same => absurd same different, ?_⟩
  rw [Ticking.withTree_tree, entry?_insert_file, if_neg (fileRoute_ne different)]
  exact awaits.2

/-- A directory is made above the files of the store. -/
theorem Awaits.make {bytes : Bytes} {ticking : Ticking}
    (awaits : store.Awaits directory before bytes ticking) {route : Route}
    (above : store.IsAbove directory route) (vacant : ticking.machine.tree.entry? route = none) :
    store.Awaits directory before bytes
      (ticking.withTree (ticking.machine.tree.insert route .directory)) := by
  refine ⟨awaits.1.make above vacant, ?_⟩
  rw [Ticking.withTree_tree, entry?_insert (ne_nil_of_entry?_eq_none vacant)]
  split
  · exact absurd rfl
  · exact awaits.2

theorem write_ensures (bytes : Bytes) :
    Ensures (store.Awaits directory before bytes)
      ((Ticking.host holder).disk.write store.scratchPath bytes)
      fun answer => match answer with
        | .ok () => store.Prepares directory before bytes
        | .error _ => store.Guarded directory before := by
  refine Ticking.ensures_changeNow (·.write · store.scratchPath bytes ·)
    (fun ticking error awaits => awaits.1) fun ticking tree awaits written => ?_
  have written : ticking.machine.tree.write ticking.machine.directory
    (Path.join store.directory scratchName) bytes ticking.machine.now = .ok tree := written
  obtain ⟨noDirectory, rfl⟩ := write_eq_ok awaits.1.linkFree written
  rw [awaits.1.here, address_file (by decide)] at noDirectory ⊢
  refine ⟨awaits.insert scratchName (by decide) noDirectory (by decide) bytes ticking.machine.now,
    ticking.machine.now, ?_⟩
  exact (entry?_insert_file _ _ _ _).trans (if_pos rfl)

theorem keeps_copy (bytes : Bytes) :
    Keeps (store.Prepares directory before bytes)
      ((Ticking.host holder).disk.copy store.statePath store.backupPath) := by
  refine Ticking.ensures_changeNow (·.copy · store.statePath store.backupPath ·)
    (fun ticking error prepares => prepares) fun ticking tree prepares copied => ?_
  have copied : ticking.machine.tree.copy ticking.machine.directory store.statePath
    (Path.join store.directory backupName) ticking.machine.now = .ok tree := copied
  obtain ⟨contents, noDirectory, rfl⟩ := copy_eq_ok prepares.1.1.linkFree copied
  rw [prepares.1.1.here, address_file (by decide)] at noDirectory ⊢
  obtain ⟨awaits, modified, written⟩ := prepares
  refine ⟨awaits.insert backupName (by decide) noDirectory (by decide) contents ticking.machine.now,
    modified, ?_⟩
  exact ((entry?_insert_file _ _ _ _).trans (if_neg (fileRoute_ne (by decide)))).trans written

/-- **The state file is replaced**, or stays as it is. -/
theorem rename_ensures (bytes : Bytes) :
    Ensures (store.Prepares directory before bytes)
      ((Ticking.host holder).disk.rename store.scratchPath store.statePath)
      fun _ => store.Guarded directory before := by
  refine Ticking.ensures_change (·.rename · store.scratchPath store.statePath)
    (fun ticking error prepares => prepares.1.1) fun ticking tree prepares renamed => ?_
  have renamed : ticking.machine.tree.rename ticking.machine.directory
    (Path.join store.directory scratchName) (Path.join store.directory stateName) = .ok tree := renamed
  obtain ⟨⟨guarded, succeeds⟩, stamp, written⟩ := prepares
  obtain ⟨held, modified, file, noDirectory, rfl⟩ := rename_eq_ok guarded.linkFree renamed
  rw [guarded.here, address_file (by decide)] at file noDirectory ⊢
  rw [address_file (by decide)]
  cases file.symm.trans written
  have erased := guarded.erase scratchName (by decide) (entry?_ne_directory_of_file file) (by decide)
  have others : entry? (ticking.machine.tree.erase (store.fileRoute directory scratchName))
      (store.fileRoute directory stateName) =
        ticking.machine.tree.entry? (store.fileRoute directory stateName) := by
    rw [entry?_erase fileRoute_ne_nil, if_neg (fileRoute_ne (by decide))]
  refine erased.insert stateName (by decide) (others ▸ noDirectory) bytes stamp fun _ => ?_
  rw [Ticking.withTree_tree, others]
  exact succeeds noDirectory

/-- A directory of the store is made, or one above it. -/
theorem keeps_makeDirectory {holds : Ticking → Prop}
    (guards : ∀ ticking, holds ticking → store.Guarded directory before ticking)
    (makes : ∀ ticking route, holds ticking → store.IsAbove directory route →
      ticking.machine.tree.entry? route = none →
        holds (ticking.withTree (ticking.machine.tree.insert route .directory)))
    {path : String} (member : path ∈ store.directory :: Path.parents store.directory) :
    Keeps holds (Ticking.disk.makeDirectory path) := by
  refine Ticking.ensures_change (·.makeDirectory · path) (fun ticking error => id)
    fun ticking tree fulfilled made => ?_
  obtain ⟨vacant, rfl⟩ := makeDirectory_eq_ok (guards ticking fulfilled).linkFree made
  refine makes ticking _ fulfilled ⟨path, member, ?_⟩ vacant
  rw [(guards ticking fulfilled).here]

theorem keeps_makeDirectories {holds : Ticking → Prop}
    (guards : ∀ ticking, holds ticking → store.Guarded directory before ticking)
    (makes : ∀ ticking route, holds ticking → store.IsAbove directory route →
      ticking.machine.tree.entry? route = none →
        holds (ticking.withTree (ticking.machine.tree.insert route .directory))) :
    Keeps holds ((Ticking.host holder).disk.makeDirectories store.directory) :=
  Disk.keeps_makeDirectoriesFrom (fun _ _ => id) _ fun _ member => keeps_makeDirectory guards makes member

/-- **Saving a state that continues the one on disk leaves a footprint**, wherever it fails. -/
theorem save_ensures (state : StoreState) :
    Ensures (α := Except StoreError Unit) (store.Awaits directory before (Document.toBytes state))
      (store.save (Ticking.host holder) state) fun _ => store.Guarded directory before := by
  have makes : Keeps (store.Awaits directory before (Document.toBytes state))
      ((Ticking.host holder).disk.makeDirectories store.directory) :=
    keeps_makeDirectories holder (fun _ awaits => awaits.1) fun _ _ awaits above vacant =>
      awaits.make above vacant
  have writes : Ensures (α := Except StoreError Unit)
      (store.Awaits directory before (Document.toBytes state))
      (step ((Ticking.host holder).disk.write store.scratchPath (Document.toBytes state)))
      fun answer => match answer with
        | .ok () => store.Prepares directory before (Document.toBytes state)
        | .error _ => store.Guarded directory before :=
    step_ensures (write_ensures holder _) (fun _ _ => id) fun _ _ => id
  have looks : Keeps (α := Except StoreError Bool)
      (store.Prepares directory before (Document.toBytes state))
      (step ((Ticking.host holder).disk.exists? store.statePath)) := keeps_step fun _ => id
  have renames : Ensures (α := Except StoreError Unit)
      (store.Prepares directory before (Document.toBytes state))
      (step ((Ticking.host holder).disk.rename store.scratchPath store.statePath))
      fun _ => store.Guarded directory before :=
    step_ensures (rename_ensures holder _) (fun _ _ => id) fun _ _ => id
  refine Ensures.bindOk (keeps_step makes) (fun _ _ awaits => awaits.1) fun _ => ?_
  refine Ensures.bindOk writes (fun _ _ => id) fun _ => ?_
  refine Ensures.bindOk looks (fun _ _ prepares => prepares.1.1) fun found => ?_
  cases found with
  | false => exact renames
  | true =>
      exact Ensures.bindOk (keeps_step (keeps_copy holder _)) (fun _ _ prepares => prepares.1.1)
        fun _ => renames

/-- The directory of a store can be entered. -/
def Opened (store : Store) (ticking : Ticking) : Prop :=
  ∃ route, Folder ticking.machine.tree ticking.machine.directory store.directory route

/-- A file that is missing in a directory that can be entered is not there. -/
theorem vacant_of_read {tree : FileTree} {route : Route}
    (folder : Folder tree directory store.directory route) (free : tree.LinkFree)
    (member : name ∈ fileNames)
    (missing : tree.read directory (Path.join store.directory name) = .error .notFound) :
    tree.entry? (store.fileRoute directory name) = none := by
  have named := isFileName member
  obtain rfl := folder.route_eq free
  unfold FileTree.read at missing
  cases resolved : tree.resolve .target directory (Path.join store.directory name) with
  | ok place =>
      have stands := resolve_standsAt free resolved
      rw [address_file member] at stands
      rw [resolved] at missing
      cases place with
      | vacant route slash => exact stands.2
      | existing route entry => cases entry <;> cases missing
  | error error =>
      rw [resolved] at missing
      cases missing
      -- neither is the path malformed, nor does it end in a directory or a file
      have short : (Path.join store.directory name).utf8ByteSize ≤ maximumPath := by
        rw [resolve, resolvePart] at resolved
        split at resolved
        · cases resolved
        split at resolved
        next empty => exact absurd (by simpa using empty) (Path.join_ne_empty named.toIsPlain _)
        split at resolved
        · cases resolved
        next short => exact Nat.not_lt.mp short
      obtain ⟨left, followed⟩ := folder.resolve_join named short .target
      rw [resolved] at followed
      cases entry : tree.entry? (store.fileRoute directory name) with
      | none => rfl
      | some found =>
          cases found with
          | link target => exact absurd entry (free _ _)
          | file bytes modified =>
              cases followed.trans (resolveSegments_file named.toIsName rfl entry)
          | directory =>
              cases followed.trans
                ((resolveSegments_down named.toIsName rfl entry).trans resolveSegments_nil)

/-- A machine on which the directory of a store can be entered. -/
def Entered (store : Store) (directory : Route) (before : FileTree) (ticking : Ticking) : Prop :=
  store.Guarded directory before ticking ∧ store.Opened ticking

/-- The state that was loaded is offered by the state file. -/
def Loaded (store : Store) (directory : Route) (before : FileTree) {ε : Type} :
    Except ε StoreState → Ticking → Prop
  | .ok state => fun ticking => store.Guarded directory before ticking ∧
    Reads (ticking.machine.tree.entry? (store.fileRoute directory stateName)) state
  | .error _ => store.Guarded directory before

theorem read_ensures :
    Ensures (store.Entered directory before) ((Ticking.host holder).disk.read store.statePath)
      fun answer ticking => store.Guarded directory before ticking ∧
        match answer with
        | .ok bytes => ∃ modified,
          ticking.machine.tree.entry? (store.fileRoute directory stateName) =
            some (.file bytes modified)
        | .error error => error = .notFound →
          ticking.machine.tree.entry? (store.fileRoute directory stateName) = none := by
  rintro ticking ⟨guarded, route, folder⟩
  refine ⟨guarded, ?_⟩
  have here := guarded.here
  subst here
  show match ticking.machine.tree.read ticking.machine.directory store.statePath with
    | .ok bytes => ∃ modified, ticking.machine.tree.entry? _ = some (.file bytes modified)
    | .error error => error = .notFound → ticking.machine.tree.entry? _ = none
  cases answer : ticking.machine.tree.read ticking.machine.directory store.statePath with
  | ok bytes =>
      obtain ⟨modified, file⟩ := read_eq_ok guarded.linkFree answer
      exact ⟨modified, by rw [← address_file (by decide)]; exact file⟩
  | error error =>
      rintro rfl
      exact vacant_of_read folder guarded.linkFree (by decide) answer

/-- **What is loaded is what the state file spells.** -/
theorem load_ensures :
    Ensures (store.Entered directory before) (store.load (Ticking.host holder))
      (store.Loaded directory before) := by
  refine (read_ensures holder).bind fun answer => ?_
  cases answer with
  | ok bytes =>
      refine ensures_pure fun ticking held => ?_
      cases spells : stateOf bytes with
      | error error => exact held.1
      | ok state =>
          obtain ⟨guarded, modified, file⟩ := held
          refine ⟨guarded, ?_⟩
          rw [file]
          exact spells
  | error error =>
      by_cases same : error = .notFound
      · subst same
        rintro ticking ⟨guarded, missing⟩
        refine ⟨guarded.tick, ?_⟩
        show Reads (ticking.machine.tree.entry? _) _
        rw [missing rfl]
        exact ⟨_, rfl⟩
      · have fails : Ensures (fun ticking => store.Guarded directory before ticking ∧
            (error = .notFound →
              ticking.machine.tree.entry? (store.fileRoute directory stateName) = none))
            (pure (.error (.file error)) : StateM Ticking (Except StoreError StoreState))
            (store.Loaded directory before) :=
          ensures_pure fun ticking held => held.1
        cases error <;> first | exact fails | exact absurd rfl same

/-! ### Calls -/

theorem keeps_now : Keeps (store.Guarded directory before) (Ticking.host holder).now :=
  fun _ guarded => guarded.tick

/-- The lock file is removed, if it is there. -/
theorem keeps_clear :
    Keeps (store.Guarded directory before) ((Ticking.host holder).clear store.lockPath) := by
  have removes : Keeps (store.Guarded directory before)
      ((Ticking.host holder).disk.remove store.lockPath) := by
    refine Ticking.ensures_change (·.remove · store.lockPath) (fun ticking error => id)
      fun ticking tree guarded removed => ?_
    have removed : ticking.machine.tree.remove ticking.machine.directory
      (Path.join store.directory lockName) = .ok tree := removed
    obtain ⟨noDirectory, rfl⟩ := remove_eq_ok guarded.linkFree removed
    rw [guarded.here, address_file (by decide)] at noDirectory ⊢
    exact guarded.erase lockName (by decide) noDirectory (by decide)
  refine removes.bind fun answer => ?_
  split <;> exact keeps_pure _

theorem keeps_lockInfo (bytes : Bytes) :
    Keeps (store.Guarded directory before) (store.lockInfo (Ticking.host holder) bytes) := by
  unfold lockInfo
  split
  · exact keeps_pure _
  split
  · exact keeps_pure _
  have looks : Keeps (store.Guarded directory before)
    ((Ticking.host holder).disk.modified store.lockPath) := fun _ => id
  refine looks.bind fun answer => ?_
  split <;> exact keeps_pure _

theorem keeps_clearLock :
    Keeps (store.Guarded directory before) (store.clearLock (Ticking.host holder)) := by
  have reads : Keeps (store.Guarded directory before)
    ((Ticking.host holder).disk.read store.lockPath) := fun _ => id
  refine reads.bind fun answer => ?_
  split
  · exact keeps_pure _
  · exact keeps_pure _
  refine (keeps_lockInfo holder _).bind fun answer => ?_
  split
  · exact keeps_pure _
  · exact keeps_pure _
  refine (keeps_now holder).bind fun now => ?_
  split
  · exact keeps_clear holder
  · exact keeps_pure _

/-- What it is to have taken the lock of a store, or not. -/
def Takes (store : Store) (directory : Route) (before : FileTree) :
    Except StoreError Lock → Ticking → Prop
  | .ok lock => fun ticking => lock = ⟨store.lockPath⟩ ∧ store.Entered directory before ticking
  | .error _ => store.Guarded directory before

theorem writeLock_ensures :
    Ensures (store.Guarded directory before) (store.writeLock (Ticking.host holder))
      (store.Takes directory before) := by
  refine (keeps_now holder).bind fun now => ?_
  have creates : Ensures (store.Guarded directory before)
      ((Ticking.host holder).disk.create store.lockPath
        (Document.toBytes (LockInfo.mk (Ticking.host holder).holder now)))
      fun answer => match answer with
        | .ok () => store.Takes directory before (.ok ⟨store.lockPath⟩)
        | .error _ => store.Guarded directory before := by
    refine Ticking.ensures_changeNow (·.create · store.lockPath _ ·) (fun ticking error => id)
      fun ticking tree guarded created => ?_
    have created : ticking.machine.tree.create ticking.machine.directory
      (Path.join store.directory lockName) _ ticking.machine.now = .ok tree := created
    obtain ⟨-, route, folder, -⟩ := Folder.of_create (isFileName (by decide)) created
    obtain ⟨noDirectory, rfl⟩ := create_eq_ok_of_linkFree guarded.linkFree created
    rw [guarded.here, address_file (by decide)] at folder noDirectory ⊢
    have later := guarded.insert lockName (by decide) noDirectory
      (Document.toBytes (LockInfo.mk (Ticking.host holder).holder now)) ticking.machine.now
      fun same => absurd same (by decide)
    exact ⟨rfl, later, route, by rw [later.here]; exact folder⟩
  refine creates.bind fun answer => ?_
  cases answer with
  | ok => exact ensures_pure fun _ => id
  | error error => cases error <;> exact ensures_pure fun _ => id

theorem acquire_ensures :
    Ensures (α := Except StoreError Lock) (store.Guarded directory before)
      (store.acquire (Ticking.host holder)) (store.Takes directory before) := by
  have makes : Keeps (store.Guarded directory before)
      ((Ticking.host holder).disk.makeDirectories store.directory) :=
    keeps_makeDirectories holder (fun _ => id) fun _ _ guarded above vacant => guarded.make above vacant
  have clears : Keeps (α := Except StoreError Unit) (store.Guarded directory before)
    (ExceptT.mk (store.clearLock (Ticking.host holder))) := keeps_clearLock holder
  refine Ensures.bindOk (keeps_step makes) (fun _ _ => id) fun _ => ?_
  exact Ensures.bindOk clears (fun _ _ => id) fun _ => writeLock_ensures holder

/-- A change of a state that adds a resource at its end. -/
def Appends {α : Type} (edit : StoreState.Edit α) : Prop :=
  ∀ state change, edit state = .ok change → ∀ created updated, ∃ stored : StoredResource,
    stored.createdAt = created ∧ (change created updated).2 = state.push stored updated

theorem appends_create (group : ResourceGroup) (definition : ResourceDefinition) (tags : Tags) :
    Appends (StoreState.create group definition tags) := by
  intro state change made created updated
  obtain ⟨-, rfl⟩ := StoreState.create_eq_ok_iff.mp made
  exact ⟨StoredResource.ofDefinition group definition tags created, rfl, rfl⟩

/-- A state with one more resource succeeds the state file from which it was read. -/
theorem succeeds_push {entry : Option Entry} {state : StoreState} (reads : Reads entry state)
    {stored : StoredResource} {updated : Instant} (created : stored.createdAt.Nameable)
    (nameable : updated.Nameable) : Succeeds entry (Document.toBytes (state.push stored updated)) := by
  obtain ⟨contents, offers⟩ := reads.offers
  exact ⟨state, _, reads, stateOf_push offers created nameable, List.prefix_append _ _⟩

theorem Loaded.awaits {ε α : Type} {edit : StoreState.Edit α} (appends : Appends edit)
    {state : StoreState} {change : Instant → Instant → α × StoreState} (made : edit state = .ok change)
    {created updated : Instant} (nameable : created.Nameable) (nameable' : updated.Nameable)
    {ticking : Ticking} (loaded : store.Loaded directory before (.ok (ε := ε) state) ticking) :
    store.Awaits directory before (Document.toBytes (change created updated).2) ticking := by
  obtain ⟨stored, rfl, same⟩ := appends state change made created updated
  rw [same]
  exact ⟨loaded.1, fun _ => succeeds_push loaded.2 nameable nameable'⟩

/-- **A state that is loaded, changed and saved leaves a footprint.** -/
theorem update_ensures {α : Type} {edit : StoreState.Edit α} (appends : Appends edit) :
    Ensures (α := Except CloudError α) (store.Entered directory before)
      (store.update (Ticking.host holder) edit) fun _ => store.Guarded directory before := by
  have loads : Ensures (α := Except CloudError StoreState) (store.Entered directory before)
      (toCloud (store.load (Ticking.host holder))) (store.Loaded directory before) :=
    toCloud_ensures (load_ensures holder) (fun _ _ => id) fun _ _ => id
  have saves (changed : StoreState) : Ensures (α := Except CloudError Unit)
      (store.Awaits directory before (Document.toBytes changed))
      (toCloud (store.save (Ticking.host holder) changed)) fun _ => store.Guarded directory before :=
    toCloud_ensures (save_ensures holder changed) (fun _ _ => id) fun _ _ => id
  have decides (state : StoreState) : Ensures (α := Except CloudError (Instant → Instant → α × StoreState))
      (store.Loaded directory before (ε := CloudError) (.ok state))
      (ExceptT.mk (pure (edit state)) : ExceptT CloudError (StateM Ticking) _)
      fun answer ticking => edit state = answer ∧
        store.Loaded directory before (ε := CloudError) (.ok state) ticking :=
    fun _ loaded => ⟨rfl, loaded⟩
  have clock (state : StoreState) : Ensures (α := Except CloudError Instant)
      (store.Loaded directory before (ε := CloudError) (.ok state))
      (liftM (Ticking.host holder).now : ExceptT CloudError (StateM Ticking) Instant)
      fun answer ticking => (∀ now, answer = .ok now → now.Nameable) ∧
        store.Loaded directory before (ε := CloudError) (.ok state) ticking := by
    refine Ensures.lift fun ticking loaded => ⟨fun now same => ?_, loaded.1.tick, loaded.2⟩
    obtain rfl := Except.ok.inj same
    exact loaded.1.timely 0
  refine Ensures.bindOk loads (fun _ _ => id) fun state => ?_
  refine Ensures.bindOk (decides state) (fun _ _ held => held.2.1) fun change => ?_
  refine ensures_of_fact fun made => ?_
  refine Ensures.bindOk (clock state) (fun _ _ ticked => ticked.2.1) fun created => ?_
  refine ensures_of_fact fun timely => ?_
  refine Ensures.bindOk (clock state) (fun _ _ ticked => ticked.2.1) fun updated => ?_
  refine ensures_of_fact fun timely' => ?_
  have saved : Ensures (α := Except CloudError Unit)
      (store.Loaded directory before (ε := CloudError) (.ok state))
      (toCloud (store.save (Ticking.host holder) (change created updated).2))
      fun _ => store.Guarded directory before := fun ticking loaded =>
    saves _ ticking (loaded.awaits appends made (timely created rfl) (timely' updated rfl))
  exact Ensures.bindOk saved (fun _ _ => id) fun _ => ensures_pure fun _ => id

/-- **A change under the lock leaves a footprint**, whatever comes of it. -/
theorem keeps_change {α : Type} {edit : StoreState.Edit α} (appends : Appends edit) :
    Keeps (store.Guarded directory before) (store.change (Ticking.host holder) edit) := by
  refine Ensures.bind (acquire_ensures holder) fun answer => ?_
  cases answer with
  | error error => exact ensures_pure fun _ => id
  | ok lock =>
      refine ensures_of_fact fun taken => ?_
      subst taken
      refine Ensures.bind (update_ensures holder appends) fun answer => ?_
      cases answer with
      | error error => exact ((keeps_clear holder).bind fun _ => keeps_pure _).bind fun _ => keeps_pure _
      | ok value =>
          refine (keeps_clear holder).bind fun answer => ?_
          cases answer <;> exact keeps_pure _

variable (group : ResourceGroup)

/-- **A resource that is created leaves a footprint**, and so does one that is not. -/
theorem keeps_create (definition : ResourceDefinition) (tags : Tags) :
    Keeps (store.Guarded directory before)
      (store.create (Ticking.host holder) group definition tags) := by
  unfold create
  split
  · exact keeps_pure _
  · exact keeps_change holder (appends_create group definition tags)

/-- Looking a resource up leaves nothing. -/
theorem keeps_find (kind : ResourceKind) (name : String) :
    Keeps (store.Guarded directory before)
      ((store.provider (Ticking.host holder)).find group kind name) :=
  store.keeps_ask (fun _ _ => id) (keeps_now holder) _

end Operations

end Store

end Provision
