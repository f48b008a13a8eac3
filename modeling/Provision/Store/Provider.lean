/-
**A provider on a store.**

Resources that are created are remembered in a store, which is read anew for every call and changed
under its lock:

* `Store.change` changes the state and answers, and `StoreState.Edit` is what may be changed;
* `StoreState.create` is what creating a resource changes;
* `Store.provider` is the provider.
-/

import Provision.Provider.Basic
import Provision.Store.Lock
import Provision.Text.Blank

namespace Provision

namespace StoredResource

/-- What a definition becomes when it is created with tags. -/
def ofDefinition (group : ResourceGroup) (definition : ResourceDefinition) (tags : Tags)
    (now : Instant) : StoredResource where
  group := group.name
  kind := definition.kind
  name := definition.name
  resource :=
    { id := group.resourceId definition.kind definition.name
      type := definition.kind.type
      region := definition.region
      tags := tags }
  subnets := definition.subnets.map (·.name)
  createdAt := now

end StoredResource

namespace StoreState

/-- Why a name is refused that a resource of the group has. -/
def takenText (group : ResourceGroup) (definition : ResourceDefinition) : String :=
  definition.kind.type ++ " '" ++ definition.name ++ "' in " ++ group.name

/-- A change of a state, with an answer: it is refused, or made with two readings of the clock, the
time of what is added and then that of the state. -/
abbrev Edit (α : Type) := StoreState → Answer (Instant → Instant → α × StoreState)

/-- The state with a resource created, unless there is one of that name. -/
def create (group : ResourceGroup) (definition : ResourceDefinition) (tags : Tags) :
    Edit DeployedResource := fun state =>
  match state.find? group.name definition.kind definition.name with
  | some _ => .error (.alreadyExists (takenText group definition))
  | none => .ok fun created updated =>
    let stored := StoredResource.ofDefinition group definition tags created
    (stored.resource, state.push stored updated)

/-- The subnets of the resource with an identifier. -/
def subnets (state : StoreState) (network : String) : Answer Subnets :=
  match state.findId? network with
  | some stored => .ok (.ofNames network stored.subnets)
  | none => .error (.notFound network)

end StoreState

namespace Store

variable {m : Type → Type} [Monad m]

/-- A step of an operation on a store as one of a call to a provider. -/
def toCloud {α : Type} (operation : m (Except StoreError α)) : ExceptT CloudError m α :=
  ExceptT.mk (do
    match ← operation with
    | .ok value => pure (.ok value)
    | .error error => pure (.error error.toCloud))

/-- Reads the state, changes it and saves it. The clock is read only for a change that is made. -/
def update {α : Type} (store : Store) (host : Host m) (edit : StoreState.Edit α) :
    ExceptT CloudError m α := do
  let state ← toCloud (store.load host)
  let change ← ExceptT.mk (pure (edit state))
  let created ← host.now
  let updated ← host.now
  let (value, changed) := change created updated
  toCloud (store.save host changed)
  pure value

/-- Changes the state under the lock, which is given back in any case. -/
def change {α : Type} (store : Store) (host : Host m) (edit : StoreState.Edit α) :
    m (Answer α) := do
  match ← store.acquire host with
  | .error error => pure (.error error.toCloud)
  | .ok lock =>
    match ← store.update host edit with
    | .error error => do
      lock.abandon host
      pure (.error error)
    | .ok value =>
      match ← lock.release host with
      | .error error => pure (.error error.toCloud)
      | .ok () => pure (.ok value)

/-- What the state of a store answers. -/
def ask {α : Type} (store : Store) (host : Host m) (question : StoreState → Answer α) :
    m (Answer α) := do
  match ← store.load host with
  | .error error => pure (.error error.toCloud)
  | .ok state => pure (question state)

/-- Creates a resource, which has to have a name. -/
def create (store : Store) (host : Host m) (group : ResourceGroup)
    (definition : ResourceDefinition) (tags : Tags) : m (Answer DeployedResource) :=
  if Text.isBlank definition.name then
    pure (.error (.invalidDefinition (definition.kind.type ++ " without a name")))
  else store.change host (StoreState.create group definition tags)

/-- The provider that keeps its resources in a store. -/
def provider (store : Store) (host : Host m) : Provider m where
  name := "local"
  create := store.create host
  find := fun group kind name =>
    store.ask host fun state => .ok ((state.find? group.name kind name).map (·.resource))
  list := fun group =>
    store.ask host fun state => .ok ((state.inGroup group.name).map (·.resource))
  subnets := fun network => store.ask host fun state => state.subnets network

end Store

end Provision
