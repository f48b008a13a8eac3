/-
**A provider in memory.**

Behaves like a cloud in which a name is taken once: a second resource of the same kind and name in a
group is refused. It can be told to fail, and resources can be put into it behind the back of
deployments:

* `Memory` holds the resources in the order of their creation;
* `Memory.create`, `Memory.find`, `Memory.list` and `Memory.subnets` are the calls, and
  `Memory.provider` is the provider that makes them;
* `Memory.insert` and `Memory.removeSubnet` change what is there from outside.
-/

import Provision.Provider.Basic

namespace Provision

/-- A resource in memory. -/
structure Memory.Record where
  /-- The name of the resource group. -/
  group : String
  kind : ResourceKind
  name : String
  resource : DeployedResource
  /-- The names of the subnets. -/
  subnets : List String
  deriving DecidableEq

/-- A cloud in memory. -/
structure Memory where
  /-- What is there, in the order of creation. -/
  records : List Memory.Record := []
  /-- The names that cannot be created. -/
  failing : List String := []
  /-- How many times something was to be created. -/
  attempts : Nat := 0
  deriving DecidableEq

namespace Memory

/-- Whether a record has a group, a kind and a name. -/
def Record.isAt (group : String) (kind : ResourceKind) (name : String) (record : Record) : Bool :=
  record.group == group && record.kind == kind && record.name == name

/-- What a definition becomes when it is created with tags. -/
def Record.ofDefinition (group : ResourceGroup) (definition : ResourceDefinition) (tags : Tags) :
    Record where
  group := group.name
  kind := definition.kind
  name := definition.name
  resource :=
    { id := group.resourceId definition.kind definition.name
      type := definition.kind.type
      region := definition.region
      tags := tags }
  subnets := definition.subnets.map (·.name)

/-- The first record with a group, a kind and a name. -/
def record? (memory : Memory) (group : String) (kind : ResourceKind) (name : String) :
    Option Record :=
  memory.records.find? (Record.isAt group kind name)

/-- Why a name cannot be created. -/
def failure (name : String) : CloudError := .api ("injected failure for " ++ name)

/-- Creates a resource. -/
def create (group : ResourceGroup) (definition : ResourceDefinition) (tags : Tags)
    (memory : Memory) : Answer DeployedResource × Memory :=
  let counted := { memory with attempts := memory.attempts + 1 }
  if memory.failing.contains definition.name then (.error (failure definition.name), counted)
  else if (memory.record? group.name definition.kind definition.name).isSome then
    (.error (.alreadyExists definition.name), counted)
  else
    let record := Record.ofDefinition group definition tags
    (.ok record.resource, { counted with records := memory.records ++ [record] })

/-- The resource of a kind and name. -/
def find (memory : Memory) (group : ResourceGroup) (kind : ResourceKind) (name : String) :
    Option DeployedResource :=
  (memory.record? group.name kind name).map (·.resource)

/-- The resources of a group. -/
def list (memory : Memory) (group : ResourceGroup) : List DeployedResource :=
  (memory.records.filter (·.group == group.name)).map (·.resource)

/-- The subnets of the first resource with an identifier. -/
def subnets (memory : Memory) (network : String) : Answer Subnets :=
  match memory.records.find? (·.resource.id == network) with
  | some record => .ok (.ofNames network record.subnets)
  | none => .error (.notFound network)

/-- The provider that keeps its resources in memory. -/
def provider : Provider (StateM Memory) where
  name := "in-memory"
  create := fun group definition tags memory => memory.create group definition tags
  find := fun group kind name memory => (.ok (memory.find group kind name), memory)
  list := fun group memory => (.ok (memory.list group), memory)
  subnets := fun network memory => (memory.subnets network, memory)

/-! ## Changes from outside -/

/-- The resources, in the order of their creation. -/
def resources (memory : Memory) : List DeployedResource := memory.records.map (·.resource)

/-- Lets every later attempt to create a name fail. -/
def fail (memory : Memory) (name : String) : Memory :=
  { memory with failing := name :: memory.failing }

/-- Lets attempts succeed again. -/
def recover (memory : Memory) : Memory := { memory with failing := [] }

/-- A resource that no deployment created. -/
def Record.foreign (group : ResourceGroup) (kind : ResourceKind) (name : String) (tags : Tags)
    (subnets : List String) : Record where
  group := group.name
  kind := kind
  name := name
  resource :=
    { id := group.resourceId kind name, type := kind.type, region := group.region, tags := tags }
  subnets := subnets

/-- Puts a resource in. -/
def insert (memory : Memory) (record : Record) : Memory :=
  { memory with records := memory.records ++ [record] }

/-- The records with the first one that has an identifier changed. -/
def updateFirst (id : String) (change : Record → Record) : List Record → List Record
  | [] => []
  | record :: rest =>
    if record.resource.id == id then change record :: rest
    else record :: updateFirst id change rest

/-- Takes a subnet out of a virtual network, whose tags stay, and whether it was there. -/
def removeSubnet (memory : Memory) (network subnet : String) : Bool × Memory :=
  let held := (memory.records.find? (·.resource.id == network)).any (·.subnets.contains subnet)
  let without (record : Record) : Record :=
    { record with subnets := record.subnets.filter (· != subnet) }
  (held, { memory with records := updateFirst network without memory.records })

end Memory

end Provision
