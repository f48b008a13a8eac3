/-
**Locks.**

Whoever changes a store holds its lock, which is a file that says by whom it is held and since when.
A lock that is an hour old counts as abandoned. The age of a lock file that cannot be read, because
its writer stopped half way, is that of the file:

* `LockInfo` is what the file says, and `LockInfo.isStale` whether it is abandoned;
* `Store.acquire` takes the lock and `Lock.release` gives it back.
-/

import Provision.Store.Basic

namespace Provision

/-- By whom a lock is held, and since when. -/
structure LockInfo where
  holder : String
  since : Instant
  deriving DecidableEq, Repr

instance : Document LockInfo where
  encode := fun info => .object
    [("holder", .string info.holder), ("acquired_at", Document.encode info.since)]
  decode? := fun tree => do
    let fields ← Json.Fields.ofTree? ["holder", "acquired_at"] tree
    let holder ← fields.required? "holder" Document.decode?
    let since ← fields.required? "acquired_at" Document.decode?
    pure { holder, since }

/-- Whether a lock counts as abandoned. -/
def LockInfo.isStale (info : LockInfo) (now : Instant) : Bool :=
  Instant.hour ≤ info.since.age now

/-- A lock that is held. -/
structure Lock where
  path : String
  deriving DecidableEq, Repr

/-- The file that stands for the lock of a store. -/
def Store.lockPath (store : Store) : String := Path.join store.directory "lock.json"

variable {m : Type → Type} [Monad m]

/-- Removes a file unless it is gone already. -/
def Host.clear (host : Host m) (path : String) : m (Except StoreError Unit) := do
  match ← host.disk.remove path with
  | .ok () | .error .notFound => pure (.ok ())
  | .error error => pure (.error (.file error))

namespace Lock

/-- Gives a lock back. -/
def release (lock : Lock) (host : Host m) : m (Except StoreError Unit) := host.clear lock.path

/-- Gives a lock back, whatever comes of it. -/
def abandon (lock : Lock) (host : Host m) : m Unit := do
  let _ ← host.clear lock.path

end Lock

namespace Store

/-- What a lock file says. What cannot be read is held by somebody unknown, since the file was
written; a file that is gone says nothing. -/
def lockInfo (store : Store) (host : Host m) (bytes : Bytes) :
    m (Except StoreError (Option LockInfo)) :=
  if (Utf8.characters? bytes).isNone then pure (.error (.file .notText))
  else
    match Document.ofBytes? (α := LockInfo) bytes with
    | some info => pure (.ok (some info))
    | none => do
      match ← host.disk.modified store.lockPath with
      | .ok modified => pure (.ok (some ⟨"unknown", modified⟩))
      | .error .notFound => pure (.ok none)
      | .error error => pure (.error (.file error))

/-- Removes a lock file that is abandoned; one that is held is an error. -/
def clearStale (store : Store) (host : Host m) (info : LockInfo) :
    m (Except StoreError Unit) := do
  let now ← host.now
  if info.isStale now then host.clear store.lockPath
  else pure (.error (.locked info.holder info.since))

/-- Makes sure that no lock file is in the way. -/
def clearLock (store : Store) (host : Host m) : m (Except StoreError Unit) := do
  match ← host.disk.read store.lockPath with
  | .error .notFound => pure (.ok ())
  | .error error => pure (.error (.file error))
  | .ok bytes =>
    match ← store.lockInfo host bytes with
    | .error error => pure (.error error)
    | .ok none => pure (.ok ())
    | .ok (some info) => store.clearStale host info

/-- Writes the lock file. If there is one by now, somebody else was faster. -/
def writeLock (store : Store) (host : Host m) : m (Except StoreError Lock) := do
  let now ← host.now
  let info : LockInfo := ⟨host.holder, now⟩
  match ← host.disk.create store.lockPath (Document.toBytes info) with
  | .ok () => pure (.ok ⟨store.lockPath⟩)
  | .error .alreadyExists => pure (.error (.locked "another process" now))
  | .error error => pure (.error (.file error))

/-- Takes the lock of a store. -/
def acquire (store : Store) (host : Host m) : ExceptT StoreError m Lock := do
  step (host.disk.makeDirectories store.directory)
  ExceptT.mk (store.clearLock host)
  ExceptT.mk (store.writeLock host)

end Store

end Provision
