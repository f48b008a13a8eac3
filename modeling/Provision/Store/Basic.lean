/-
**Stores.**

A store keeps a state in a directory. The state is never written in place: it goes into a file of its
own, which then takes the name of the old one, and the old contents are kept beside it:

* `Store.load` reads the state, an empty one where nothing was saved yet;
* `Store.save` replaces it.
-/

import Provision.Files.Host
import Provision.Store.State

namespace Provision

/-- A directory that holds a state. -/
structure Store where
  directory : String
  deriving DecidableEq, Repr

namespace Store

/-- The file with the state. -/
def statePath (store : Store) : String := Path.join store.directory "resources.json"

/-- The file with the state before the last one. -/
def backupPath (store : Store) : String := Path.join store.directory "resources.json.backup"

/-- The file in which a new state is written. -/
def scratchPath (store : Store) : String := Path.join store.directory "resources.json.tmp"

/-- The state that the contents of a file spell, if its version is known. -/
def stateOf (bytes : Bytes) : Except StoreError StoreState :=
  match Document.ofBytes? (α := StoreState) bytes with
  | none => .error .document
  | some state =>
    if StoreError.supportedVersion < state.version then .error (.unsupportedVersion state.version)
    else .ok state

variable {m : Type → Type} [Monad m]

/-- The state that was saved last, or one without resources. -/
def load (store : Store) (host : Host m) : m (Except StoreError StoreState) := do
  match ← host.disk.read store.statePath with
  | .ok bytes => pure (stateOf bytes)
  | .error .notFound => do
    let now ← host.now
    pure (.ok (.fresh now))
  | .error error => pure (.error (.file error))

/-- An operation on files as a step of an operation on a store. -/
def step {α : Type} (operation : m (FileAnswer α)) : ExceptT StoreError m α :=
  ExceptT.mk (do
    match ← operation with
    | .ok value => pure (.ok value)
    | .error error => pure (.error (.file error)))

/-- Replaces the state. -/
def save (store : Store) (host : Host m) (state : StoreState) : ExceptT StoreError m Unit := do
  step (host.disk.makeDirectories store.directory)
  step (host.disk.write store.scratchPath (Document.toBytes state))
  if ← step (host.disk.exists? store.statePath) then
    step (host.disk.copy store.statePath store.backupPath)
  step (host.disk.rename store.scratchPath store.statePath)

end Store

end Provision
