/-
**The state of a store.**

A store remembers the resources that were created, in the order of their creation:

* `StoredResource` is one of them, `StoreState` is all of them;
* `find?`, `findId?` and `inGroup` look resources up;
* `push` adds one.
-/

import Provision.Document.Resource
import Provision.Store.Error

namespace Provision

/-- A resource that a store remembers. -/
structure StoredResource where
  /-- The name of the resource group. -/
  group : String
  kind : ResourceKind
  name : String
  /-- What callers are told about the resource. -/
  resource : DeployedResource
  /-- The names of the subnets of a virtual network. -/
  subnets : List String := []
  createdAt : Instant
  deriving DecidableEq

/-- What a store remembers. -/
structure StoreState where
  version : UInt32
  updatedAt : Instant
  /-- The resources in the order of their creation. -/
  resources : List StoredResource
  deriving DecidableEq

namespace StoreState

/-- A state without resources. -/
def fresh (now : Instant) : StoreState where
  version := StoreError.supportedVersion
  updatedAt := now
  resources := []

/-- The first resource with a group, a kind and a name. -/
def find? (state : StoreState) (group : String) (kind : ResourceKind) (name : String) :
    Option StoredResource :=
  state.resources.find? fun stored =>
    stored.group == group && stored.kind == kind && stored.name == name

/-- The first resource with an identifier. -/
def findId? (state : StoreState) (id : String) : Option StoredResource :=
  state.resources.find? (·.resource.id == id)

/-- The resources of a group. -/
def inGroup (state : StoreState) (group : String) : List StoredResource :=
  state.resources.filter (·.group == group)

/-- The state with another resource. -/
def push (state : StoreState) (stored : StoredResource) (now : Instant) : StoreState :=
  { state with resources := state.resources ++ [stored], updatedAt := now }

end StoreState

namespace Document

instance : Document UInt32 where
  encode := fun number => .ofNat number.toNat
  decode? := fun tree => (tree.integer? 0 4294967295).map fun number => UInt32.ofNat number.toNat

instance : Document StoredResource where
  encode := fun stored => .object <|
    [("resource_group", .string stored.group), ("resource_type", encode stored.kind),
      ("name", .string stored.name), ("resource", encode stored.resource)] ++
      optionalField "subnets" stored.subnets ++
      [("created_at", encode stored.createdAt)]
  decode? := fun tree => do
    let fields ← Json.Fields.ofTree?
      ["resource_group", "resource_type", "name", "resource", "subnets", "created_at"] tree
    let group ← fields.required? "resource_group" decode?
    let kind ← fields.required? "resource_type" decode?
    let name ← fields.required? "name" decode?
    let resource ← fields.required? "resource" decode?
    let subnets ← fields.defaulted? "subnets" [] decode?
    let createdAt ← fields.required? "created_at" decode?
    pure { group, kind, name, resource, subnets, createdAt }

instance : Document StoreState where
  encode := fun state => .object
    [("version", encode state.version), ("updated_at", encode state.updatedAt),
      ("resources", encode state.resources)]
  decode? := fun tree => do
    let fields ← Json.Fields.ofTree? ["version", "updated_at", "resources"] tree
    let version ← fields.required? "version" decode?
    let updatedAt ← fields.required? "updated_at" decode?
    let resources ← fields.required? "resources" decode?
    pure { version, updatedAt, resources }

end Document

end Provision
