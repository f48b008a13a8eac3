/-
**Locks that are held.**

The lock file of a store says by whom the lock is held, and since when:

* `Store.Locked` says so of a machine, `Document.faithful_lockInfo` reads the file back;
* `Store.Locked.acquire_apply`: as long as the lock is young, nobody takes it;
* `Machine.Timeless` holds of operations that take no time, such as taking a lock
  (`Machine.timeless_acquire`);
* `Store.locked_of_acquire`: whoever has taken the lock is the one of whom the file says so.
-/

import Provision.Proofs.Files.Creation
import Provision.Proofs.Store.Changes

namespace Provision

open FileTree

/-! ### The lock file -/

/-- The fields of a lock file, in their order. -/
def LockInfo.fields (info : LockInfo) : List Json.Field :=
  [Document.field "holder" info.holder, Document.field "acquired_at" info.since]

namespace Document

theorem roundTrips_lockInfo {info : LockInfo} (nameable : info.since.Nameable) :
    RoundTrips info.fields [] info where
  document := rfl
  parts := by
    simp only [LockInfo.fields, List.forall_mem_cons]
    exact ⟨faithful_string _, faithful_instant nameable, nofun⟩
  arranged := fun tree arranges => by
    refine read_of_arranges arranges (by simp [LockInfo.fields, field]) fun found held => ?_
    simp only [LockInfo.fields, List.forall_mem_cons] at held
    obtain ⟨holder, since, -⟩ := held
    simp only [required?_eq holder, required?_eq since, Option.bind_eq_bind, Option.bind_some]
    rfl

/-- What a lock file says is read back. -/
theorem faithful_lockInfo {info : LockInfo} (nameable : info.since.Nameable) : Faithful info :=
  (roundTrips_lockInfo nameable).faithful

/-- The contents of a file that holds a document are a text. -/
theorem characters?_toBytes {α : Type} [Document α] (value : α) :
    (Utf8.characters? (toBytes value)).isSome = true := by
  have read : (Utf8.decode (toBytes value)).mapM id = some (Json.prettyAt 0 (encode value)) :=
    Json.mapM_eq_some id _ _ (by rw [toBytes, Utf8.decode_encode, List.map_id])
  rw [Utf8.characters?, read]
  rfl

end Document

/-- The lock file of a store is there and says by whom the lock is held, and since when. -/
def Store.Locked (store : Store) (info : LockInfo) (machine : Machine) : Prop :=
  FileTree.Fits store.directory Store.lockName ∧
    ∃ route modified, Folder machine.tree machine.directory store.directory route ∧
      machine.tree.entry? (route ++ [Store.lockName]) =
        some (.file (Document.toBytes info) modified)

namespace Store.Locked

variable {store : Store} {info : LockInfo} {machine : Machine}

theorem makeDirectories_apply (locked : store.Locked info machine) (holder : String) :
    (Machine.host holder).disk.makeDirectories store.directory machine = (.ok (), machine) := by
  obtain ⟨fits, route, modified, folder, file⟩ := locked
  have short := Nat.le_trans (Path.size_le_join fits.named.toIsPlain store.directory) fits.short
  refine Disk.makeDirectories_apply _ ?_
  by_cases empty : store.directory = ""
  · exact .inl empty
  have there : Machine.change (·.makeDirectory · store.directory) machine =
      (.error .alreadyExists, machine) := by
    unfold Machine.change
    simp only [folder.makeDirectory_eq empty short]
  exact .inr ⟨there, congrArg (·, machine) (folder.isDirectory_eq empty short)⟩

theorem read_apply (locked : store.Locked info machine) (holder : String) :
    (Machine.host holder).disk.read store.lockPath machine =
      (.ok (Document.toBytes info), machine) := by
  obtain ⟨fits, route, modified, folder, file⟩ := locked
  have found := folder.resolve_file fits.named fits.short file .target
  have read : machine.tree.read machine.directory store.lockPath = .ok (Document.toBytes info) := by
    show (machine.tree.resolve .target machine.directory
      (Path.join store.directory Store.lockName)).bind _ = _
    rw [found]
    rfl
  exact congrArg (·, machine) read

/-- **A young lock is refused**, and nothing changes. -/
theorem acquire_apply (locked : store.Locked info machine) (nameable : info.since.Nameable)
    (young : info.since.age machine.now < Instant.hour) (holder : String) :
    store.acquire (Machine.host holder) machine =
      (.error (.locked info.holder info.since), machine) := by
  have fresh : info.isStale machine.now = false := by
    simpa [LockInfo.isStale] using young
  have told : store.lockInfo (Machine.host holder) (Document.toBytes info) machine =
      (.ok (some info), machine) := by
    unfold lockInfo
    rw [Option.isNone_eq_false_iff.mpr (Document.characters?_toBytes info), if_neg Bool.false_ne_true,
      Document.ofBytes?_toBytes (Document.faithful_lockInfo nameable)]
    rfl
  have refused : ExceptT.mk (store.clearLock (Machine.host holder)) machine =
      (.error (.locked info.holder info.since), machine) := by
    show ((Machine.host holder).disk.read store.lockPath >>= _) machine = _
    rw [bind_apply, locked.read_apply]
    show (store.lockInfo (Machine.host holder) (Document.toBytes info) >>= _) machine = _
    rw [bind_apply, told]
    show (if info.isStale machine.now then (Machine.host holder).clear store.lockPath
      else pure (.error (.locked info.holder info.since))) machine = _
    rw [fresh]
    rfl
  unfold acquire
  rw [ok_bind_apply (step_apply (locked.makeDirectories_apply holder))]
  exact error_bind_apply refused _

end Store.Locked

/-! ### The clock -/

/-- An operation that takes no time. -/
def Machine.Timeless {α : Type} (operation : StateM Machine α) : Prop :=
  ∀ machine, (operation machine).2.now = machine.now

namespace Machine

theorem timeless_pure {α : Type} (value : α) : Timeless (pure value) := fun _ => rfl

theorem timeless_look {α : Type} (operation : FileTree → Route → FileAnswer α) :
    Timeless (look operation) := fun _ => rfl

theorem timeless_change (operation : FileTree → Route → FileAnswer FileTree) :
    Timeless (change operation) := fun machine => by
  unfold change
  split <;> exact rfl

theorem timeless_now (holder : String) : Timeless (host holder).now := fun _ => rfl

theorem Timeless.now_eq {α : Type} {operation : StateM Machine α} {machine later : Machine} {value : α}
    (timeless : Timeless operation) (answer : operation machine = (value, later)) :
    later.now = machine.now := by
  have time := timeless machine
  rw [answer] at time
  exact time

theorem Timeless.bind {α β : Type} {first : StateM Machine α} {next : α → StateM Machine β}
    (timeless : Timeless first) (timeless' : ∀ value, Timeless (next value)) :
    Timeless (first >>= next) :=
  fun machine => by
    rw [bind_apply]
    exact (timeless' _ _).trans (timeless machine)

theorem Timeless.bindExcept {ε α β : Type} {first : ExceptT ε (StateM Machine) α}
    {next : α → ExceptT ε (StateM Machine) β} (timeless : Timeless (α := Except ε α) first)
    (timeless' : ∀ value, Timeless (α := Except ε β) (next value)) :
    Timeless (α := Except ε β) (first >>= next : ExceptT ε (StateM Machine) β) := by
  have behind (answer : Except ε α) : Timeless (ExceptT.bindCont next answer) := by
    cases answer with
    | ok value => exact timeless' value
    | error error => exact timeless_pure _
  exact timeless.bind behind

variable (holder path : String)

theorem timeless_settleDirectory (answer : FileAnswer Unit) :
    Timeless (disk.settleDirectory path answer) := by
  cases answer with
  | ok => exact timeless_pure _
  | error error =>
      refine Timeless.bind (fun _ => rfl) fun isThere => ?_
      cases isThere <;> exact timeless_pure _

theorem timeless_makeDirectoriesFrom (paths : List String) :
    Timeless (disk.makeDirectoriesFrom paths) := by
  induction paths with
  | nil => exact timeless_pure _
  | cons path parents hyp =>
      have make : Timeless (disk.makeDirectory path) := timeless_change _
      unfold Disk.makeDirectoriesFrom
      split
      · exact timeless_pure _
      refine make.bind fun answer => ?_
      split
      · refine hyp.bind fun answer => ?_
        split
        · exact timeless_pure _
        · exact make.bind (timeless_settleDirectory path)
      · exact timeless_settleDirectory path _

theorem timeless_clear : Timeless ((host holder).clear path) := by
  refine Timeless.bind (timeless_change (·.remove · path)) fun answer => ?_
  split <;> exact timeless_pure _

variable (store : Store)

theorem timeless_lockInfo (bytes : Bytes) : Timeless (store.lockInfo (host holder) bytes) := by
  unfold Store.lockInfo
  split
  · exact timeless_pure _
  split
  · exact timeless_pure _
  refine Timeless.bind (timeless_look (·.modified · store.lockPath)) fun answer => ?_
  split <;> exact timeless_pure _

theorem timeless_clearLock : Timeless (store.clearLock (host holder)) := by
  refine Timeless.bind (timeless_look (·.read · store.lockPath)) fun answer => ?_
  split
  · exact timeless_pure _
  · exact timeless_pure _
  refine Timeless.bind (timeless_lockInfo holder store _) fun answer => ?_
  split
  · exact timeless_pure _
  · exact timeless_pure _
  refine Timeless.bind (timeless_now holder) fun now => ?_
  split
  · exact timeless_clear holder _
  · exact timeless_pure _

theorem timeless_writeLock : Timeless (store.writeLock (host holder)) := by
  refine Timeless.bind (timeless_now holder) fun now => ?_
  refine Timeless.bind (fun machine => timeless_change _ machine) fun answer => ?_
  split <;> exact timeless_pure _

theorem timeless_step {α : Type} {operation : StateM Machine (FileAnswer α)}
    (timeless : Timeless operation) : Timeless (α := Except StoreError α) (Store.step operation) := by
  refine Timeless.bind (β := Except StoreError α) timeless fun answer => ?_
  split <;> exact timeless_pure _

/-- Taking a lock takes no time. -/
theorem timeless_acquire : Timeless (α := Except StoreError Lock) (store.acquire (host holder)) :=
  (timeless_step (timeless_makeDirectoriesFrom _)).bindExcept fun _ =>
    Timeless.bindExcept (timeless_clearLock holder store) fun _ => timeless_writeLock holder store

end Machine

/-! ### Taking the lock -/

/-- Behind an operation that succeeds as a whole, both parts have succeeded. -/
theorem ok_of_bind_apply {σ ε α β : Type} {first : ExceptT ε (StateM σ) α}
    {next : α → ExceptT ε (StateM σ) β} {state later : σ} {value : β}
    (answer : (first >>= next) state = (.ok value, later)) :
    ∃ found middle, first state = (.ok found, middle) ∧ next found middle = (.ok value, later) := by
  cases outcome : first state with
  | mk result middle =>
      cases result with
      | error error =>
          rw [error_bind_apply outcome] at answer
          cases answer
      | ok found => exact ⟨found, middle, rfl, (ok_bind_apply outcome next).symm.trans answer⟩

namespace Store

variable {store : Store} {holder : String} {machine later : Machine} {lock : Lock}

theorem locked_of_writeLock
    (written : store.writeLock (Machine.host holder) machine = (.ok lock, later)) :
    lock = ⟨store.lockPath⟩ ∧ store.Locked ⟨holder, machine.now⟩ later := by
  have answer (bytes : Bytes) : (Machine.host holder).disk.create store.lockPath bytes machine =
      Machine.change (·.create · store.lockPath bytes machine.now) machine := rfl
  have time : (Machine.host holder).now machine = (machine.now, machine) := rfl
  unfold writeLock at written
  rw [bind_apply, time, bind_apply, answer] at written
  unfold Machine.change at written
  cases created : machine.tree.create machine.directory store.lockPath
      (Document.toBytes (LockInfo.mk (Machine.host holder).holder machine.now)) machine.now with
  | error error =>
      simp only [created] at written
      cases error <;> cases written
  | ok tree =>
      simp only [created] at written
      cases written
      obtain ⟨fits, route, folder, file⟩ := Folder.of_create (isFileName (by decide)) created
      exact ⟨rfl, fits, route, machine.now, folder, file⟩

/-- **Whoever takes the lock** has the lock file say so. -/
theorem locked_of_acquire
    (acquired : store.acquire (Machine.host holder) machine = (.ok lock, later)) :
    lock = ⟨store.lockPath⟩ ∧ store.Locked ⟨holder, machine.now⟩ later := by
  obtain ⟨_, opened, made, acquired⟩ := ok_of_bind_apply acquired
  obtain ⟨_, cleared, free, written⟩ := ok_of_bind_apply acquired
  have first : opened.now = machine.now :=
    (Machine.timeless_step (Machine.timeless_makeDirectoriesFrom _)).now_eq made
  have second : cleared.now = opened.now := (Machine.timeless_clearLock holder store).now_eq free
  rw [← first, ← second]
  exact locked_of_writeLock written

end Store

end Provision
