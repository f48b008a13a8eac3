/-
**The files of a store.**

A store is used on a machine whose clock moves on whenever it is read, while nobody else touches its
directory:

* `Ticking.host` is such a machine, and `Ticking.Grows` says of operations that they make directories
  at most;
* `Store.Desk` gives the contents of the files of a store, and `Desk.read_apply` and its like say what
  each operation of the machine does to them;
* `Store.Untouched` is a store that nobody has used, whose directory may be missing;
* `ok_bind_apply` goes on behind an operation that succeeds.
-/

import Provision.Files.Host
import Provision.Proofs.Deployment
import Provision.Proofs.Files.Growth
import Provision.Proofs.Instant.Texts
import Provision.Store.Lock

namespace Provision

open FileTree

/-- A machine whose clock shows another time at every reading. -/
structure Ticking where
  machine : Machine
  /-- What the clock is going to show. -/
  readings : Nat → Instant

namespace Ticking

/-- An operation of the machine, which takes no reading of the clock. -/
def onMachine {α : Type} (operation : StateM Machine α) : StateM Ticking α := fun ticking =>
  ((operation ticking.machine).1, { ticking with machine := (operation ticking.machine).2 })

/-- A reading of the clock, which is the time of the machine up to the next one. -/
def now : StateM Ticking Instant := fun ticking =>
  (ticking.readings 0,
    { machine := { ticking.machine with now := ticking.readings 0 }
      readings := fun index => ticking.readings (index + 1) })

/-- The operations on the files of the machine. -/
def disk : Disk (StateM Ticking) := Machine.disk.map onMachine

/-- The machine on which a program runs. -/
def host (holder : String) : Host (StateM Ticking) where
  disk := disk
  now := now
  holder := holder

/-- The same machine with another tree of files. -/
def withTree (ticking : Ticking) (tree : FileTree) : Ticking :=
  { ticking with machine := { ticking.machine with tree := tree } }

@[simp]
theorem withTree_tree (ticking : Ticking) (tree : FileTree) :
    (ticking.withTree tree).machine.tree = tree := rfl

end Ticking

section Steps

variable {σ ε α β : Type} {state later : σ}

/-- Behind an operation that succeeds goes on what comes next. -/
theorem ok_bind_apply {first : ExceptT ε (StateM σ) α} {value : α}
    (answer : first state = (.ok value, later)) (next : α → ExceptT ε (StateM σ) β) :
    (first >>= next) state = next value later := by
  show ExceptT.bindCont next (first state).1 (first state).2 = _
  rw [answer]
  rfl

/-- An operation that fails is the last one. -/
theorem error_bind_apply {first : ExceptT ε (StateM σ) α} {error : ε}
    (answer : first state = (.error error, later)) (next : α → ExceptT ε (StateM σ) β) :
    (first >>= next) state = (.error error, later) := by
  show ExceptT.bindCont next (first state).1 (first state).2 = _
  rw [answer]
  rfl

/-- Behind an operation that cannot fail goes on what comes next. -/
theorem lift_bind_apply {first : StateM σ α} {value : α} (answer : first state = (value, later))
    (next : α → ExceptT ε (StateM σ) β) :
    ((liftM first : ExceptT ε (StateM σ) α) >>= next) state = next value later := by
  show next (first state).1 (first state).2 = _
  rw [answer]

theorem Store.step_apply {operation : StateM σ (FileAnswer α)} {value : α}
    (answer : operation state = (.ok value, later)) :
    Store.step operation state = (.ok value, later) := by
  unfold Store.step
  show (operation >>= _) state = _
  rw [bind_apply, answer]
  rfl

/-- A directory that cannot be made because it is there need not be made. -/
theorem Disk.makeDirectories_apply (disk : Disk (StateM σ)) {path : String}
    (made : path = "" ∨ disk.makeDirectory path state = (.error .alreadyExists, state) ∧
      disk.isDirectory path state = (true, state)) :
    disk.makeDirectories path state = (.ok (), state) := by
  unfold makeDirectories makeDirectoriesFrom
  rcases made with rfl | ⟨there, isThere⟩
  · rfl
  by_cases empty : path.isEmpty = true
  · rw [if_pos empty]
    rfl
  rw [if_neg empty, bind_apply, there]
  show (disk.isDirectory path >>= _) state = _
  rw [bind_apply, isThere]
  rfl

end Steps

namespace Ticking

variable {tree : FileTree} {ticking : Ticking}

/-- An operation that cannot change the tree of files. -/
theorem change_apply_error (operation : FileTree → Route → FileAnswer FileTree) {error : FileError}
    (answer : operation ticking.machine.tree ticking.machine.directory = .error error) :
    onMachine (Machine.change operation) ticking = (.error error, ticking) := by
  unfold onMachine Machine.change
  rw [answer]

/-- An operation that changes the tree of files. -/
theorem change_apply (operation : FileTree → Route → FileAnswer FileTree)
    (answer : operation ticking.machine.tree ticking.machine.directory = .ok tree) :
    onMachine (Machine.change operation) ticking = (.ok (), ticking.withTree tree) := by
  unfold onMachine Machine.change
  rw [answer]
  rfl

/-- An operation that makes directories at most. What it does depends on the files alone. -/
def Grows {α : Type} (operation : StateM Ticking α) : Prop :=
  ∀ (tree : FileTree) (directory : Route), ∃ value later, FileTree.Grows tree later ∧
    ∀ ticking : Ticking, ticking.machine.tree = tree → ticking.machine.directory = directory →
      operation ticking = (value, ticking.withTree later)

theorem grows_pure {α : Type} (value : α) : Grows (pure value) := fun tree directory => by
  refine ⟨value, tree, .refl tree, ?_⟩
  rintro ticking rfl rfl
  rfl

theorem Grows.bind {α β : Type} {first : StateM Ticking α} {next : α → StateM Ticking β}
    (grows : Grows first) (grows' : ∀ value, Grows (next value)) : Grows (first >>= next) :=
  fun tree directory => by
    obtain ⟨value, middle, one, same⟩ := grows tree directory
    obtain ⟨value', later, two, same'⟩ := grows' value middle directory
    refine ⟨value', later, one.trans two, fun ticking here there => ?_⟩
    rw [bind_apply, same ticking here there]
    exact same' _ rfl there

theorem grows_makeDirectory (path : String) : Grows (disk.makeDirectory path) :=
  fun tree directory => by
    cases made : tree.makeDirectory directory path with
    | error error =>
        refine ⟨.error error, tree, .refl tree, ?_⟩
        rintro ticking rfl rfl
        exact change_apply_error (·.makeDirectory · path) made
    | ok later =>
        refine ⟨.ok (), later, FileTree.grows_makeDirectory made, ?_⟩
        rintro ticking rfl rfl
        exact change_apply (·.makeDirectory · path) made

theorem grows_isDirectory (path : String) : Grows (disk.isDirectory path) :=
  fun tree directory => by
    refine ⟨tree.isDirectory directory path, tree, .refl tree, ?_⟩
    rintro ticking rfl rfl
    rfl

theorem grows_settleDirectory (path : String) (answer : FileAnswer Unit) :
    Grows (disk.settleDirectory path answer) := by
  cases answer with
  | ok => exact grows_pure _
  | error error =>
      refine (grows_isDirectory path).bind fun isThere => ?_
      cases isThere
      · exact grows_pure _
      · exact grows_pure _

/-- **Making a directory and those above it** makes directories at most. -/
theorem grows_makeDirectoriesFrom (paths : List String) : Grows (disk.makeDirectoriesFrom paths) := by
  induction paths with
  | nil => exact grows_pure _
  | cons path parents hyp =>
      unfold Disk.makeDirectoriesFrom
      split
      · exact grows_pure _
      refine (grows_makeDirectory path).bind fun answer => ?_
      split
      · refine hyp.bind fun answer => ?_
        split
        · exact grows_pure _
        · exact (grows_makeDirectory path).bind (grows_settleDirectory path)
      · exact grows_settleDirectory path _

end Ticking

namespace Store

variable {store : Store} {route : Route} {contents : String → Option Bytes} {ticking : Ticking}
  {name other : String}

/-- The directory of a store whose files have given contents, on a machine whose clock shows times
that can be written. -/
structure Desk (store : Store) (route : Route) (contents : String → Option Bytes)
    (ticking : Ticking) : Prop where
  shelf : Shelf ticking.machine.tree ticking.machine.directory store.directory route contents
  timely : ∀ index, (ticking.readings index).Nameable

namespace Desk

variable (holder : String)

theorem now_apply (desk : Desk store route contents ticking) :
    ∃ now later, (Ticking.host holder).now ticking = (now, later) ∧ now.Nameable ∧
      Desk store route contents later :=
  ⟨_, _, rfl, desk.timely 0, desk.shelf, fun index => desk.timely (index + 1)⟩

theorem read_apply (desk : Desk store route contents ticking) (fits : Fits store.directory name) :
    (Ticking.host holder).disk.read (Path.join store.directory name) ticking =
      (match contents name with
        | none => .error .notFound
        | some bytes => .ok bytes, ticking) :=
  congrArg (·, ticking) (desk.shelf.read_eq fits)

theorem exists?_apply (desk : Desk store route contents ticking) (fits : Fits store.directory name) :
    (Ticking.host holder).disk.exists? (Path.join store.directory name) ticking =
      (.ok (contents name).isSome, ticking) :=
  congrArg (·, ticking) (desk.shelf.exists?_eq fits)

theorem write_apply (desk : Desk store route contents ticking) (fits : Fits store.directory name)
    (bytes : Bytes) :
    ∃ later, (Ticking.host holder).disk.write (Path.join store.directory name) bytes ticking =
      (.ok (), later) ∧ Desk store route (Function.update contents name (some bytes)) later :=
  ⟨_, Ticking.change_apply _ (desk.shelf.write_eq fits bytes ticking.machine.now),
    desk.shelf.insert name bytes _, desk.timely⟩

theorem create_apply (desk : Desk store route contents ticking) (fits : Fits store.directory name)
    (free : contents name = none) (bytes : Bytes) :
    ∃ later, (Ticking.host holder).disk.create (Path.join store.directory name) bytes ticking =
      (.ok (), later) ∧ Desk store route (Function.update contents name (some bytes)) later :=
  ⟨_, Ticking.change_apply _ (desk.shelf.create_eq fits free bytes ticking.machine.now),
    desk.shelf.insert name bytes _, desk.timely⟩

theorem remove_apply (desk : Desk store route contents ticking) (fits : Fits store.directory name)
    {bytes : Bytes} (known : contents name = some bytes) :
    ∃ later, (Ticking.host holder).disk.remove (Path.join store.directory name) ticking =
      (.ok (), later) ∧ Desk store route (Function.update contents name none) later :=
  ⟨_, Ticking.change_apply (·.remove · _) (desk.shelf.remove_eq fits known),
    desk.shelf.erase name, desk.timely⟩

theorem copy_apply (desk : Desk store route contents ticking) (fits : Fits store.directory name)
    (fits' : Fits store.directory other) (different : name ≠ other) {bytes : Bytes}
    (known : contents name = some bytes) :
    ∃ later, (Ticking.host holder).disk.copy (Path.join store.directory name)
      (Path.join store.directory other) ticking = (.ok (), later) ∧
        Desk store route (Function.update contents other (some bytes)) later :=
  ⟨_, Ticking.change_apply _ (desk.shelf.copy_eq fits fits' different known ticking.machine.now),
    desk.shelf.insert other bytes _, desk.timely⟩

theorem rename_apply (desk : Desk store route contents ticking) (fits : Fits store.directory name)
    (fits' : Fits store.directory other) {bytes : Bytes} (known : contents name = some bytes) :
    ∃ later, (Ticking.host holder).disk.rename (Path.join store.directory name)
      (Path.join store.directory other) ticking = (.ok (), later) ∧
        Desk store route
          (Function.update (Function.update contents name none) other (some bytes)) later := by
  obtain ⟨modified, same⟩ := desk.shelf.rename_eq fits fits' known
  exact ⟨_, Ticking.change_apply (·.rename · _ _) same,
    (desk.shelf.erase name).insert other bytes modified, desk.timely⟩

theorem makeDirectories_apply (desk : Desk store route contents ticking)
    (short : store.directory.utf8ByteSize ≤ maximumPath) :
    (Ticking.host holder).disk.makeDirectories store.directory ticking = (.ok (), ticking) := by
  refine Disk.makeDirectories_apply _ ?_
  by_cases empty : store.directory = ""
  · exact .inl empty
  have there := desk.shelf.folder.makeDirectory_eq empty short
  have isThere := desk.shelf.folder.isDirectory_eq empty short
  exact .inr ⟨Ticking.change_apply_error (·.makeDirectory · _) there,
    congrArg (·, ticking) isThere⟩

end Desk

/-- A store that nobody has used: once its directory has been made, there are no files in it. -/
def Untouched (store : Store) (route : Route) (ticking : Ticking) : Prop :=
  ∃ later, Ticking.disk.makeDirectories store.directory ticking = (.ok (), later) ∧
    Desk store route (fun _ => none) later

namespace Untouched

/-- The directory is made in any machine with the same files. -/
theorem exists_shelf (untouched : store.Untouched route ticking) :
    ∃ tree, Grows ticking.machine.tree tree ∧
      Shelf tree ticking.machine.directory store.directory route (fun _ => none) ∧
      (∀ index, (ticking.readings index).Nameable) ∧
      ∀ other : Ticking, other.machine.tree = ticking.machine.tree →
        other.machine.directory = ticking.machine.directory →
          Ticking.disk.makeDirectories store.directory other = (.ok (), other.withTree tree) := by
  obtain ⟨later, made, desk⟩ := untouched
  obtain ⟨answer, tree, grows, same⟩ := Ticking.grows_makeDirectoriesFrom
    (store.directory :: Path.parents store.directory) ticking.machine.tree ticking.machine.directory
  obtain ⟨rfl, rfl⟩ := Prod.mk.inj ((same ticking rfl rfl).symm.trans made)
  exact ⟨tree, grows, desk.shelf, desk.timely, same⟩

variable (holder : String)

theorem now_apply (untouched : store.Untouched route ticking) :
    ∃ now later, (Ticking.host holder).now ticking = (now, later) ∧ now.Nameable ∧
      store.Untouched route later := by
  obtain ⟨tree, -, shelf, timely, made⟩ := untouched.exists_shelf
  exact ⟨_, _, rfl, timely 0, _, made _ rfl rfl, shelf, fun index => timely (index + 1)⟩

theorem read_apply (untouched : store.Untouched route ticking) (fits : Fits store.directory name) :
    (Ticking.host holder).disk.read (Path.join store.directory name) ticking =
      (.error .notFound, ticking) := by
  obtain ⟨tree, grows, shelf, -, -⟩ := untouched.exists_shelf
  exact congrArg (·, ticking) (shelf.read_eq_of_grows grows fits rfl)

end Untouched

end Store

end Provision
