/-
**The catalog.**

A catalog registers topologies under identifiers. Where an identifier is repeated, the first
registration counts:

* `Catalog.standard` registers each topology under its own identifier;
* `Catalog.descriptors` describes what is registered;
* `Catalog.blueprint` is the blueprint that a `Request` asks for, or what is wrong with it;
* `Catalog.plan`, `Catalog.deploy` and `Catalog.rollout` plan and deploy it.
-/

import Provision.Deployment.Basic
import Provision.Topology.Basic

namespace Provision

/-- A topology and the identifier under which it is found. -/
structure Registration where
  identifier : String
  topology : Topology
  deriving DecidableEq, Repr

/-- Registered topologies. -/
abbrev Catalog := List Registration

/-- What a catalog says about a topology. -/
structure Descriptor where
  identifier : String
  title : String
  description : String
  versions : List Version
  deriving DecidableEq, Repr

/-- The description of a registered topology. -/
def Registration.descriptor (registration : Registration) : Descriptor where
  identifier := registration.identifier
  title := registration.topology.header.title
  description := registration.topology.header.description
  versions := registration.topology.versions

/-- A request for a landing zone. -/
structure Request where
  /-- The identifier of the landing zone. -/
  zone : String
  /-- The identifier of its topology. -/
  topology : String
  version : Version
  deriving DecidableEq, Repr

/-- What a request leaves blank. -/
def Request.fault? (request : Request) : Option Fault :=
  if Text.isBlank request.zone then some .blankZone
  else if Text.isBlank request.topology then some .blankTopology
  else if request.version.isBlank then some .blankVersion
  else none

namespace Catalog

/-- Every topology under its own identifier. -/
def standard : Catalog :=
  [Topology.managedNetwork, .kubernetesWorkspace].map fun topology => ⟨topology.identifier, topology⟩

/-- The descriptions of all registered topologies, in order. -/
def descriptors (catalog : Catalog) : List Descriptor := catalog.map (·.descriptor)

/-- The description under an identifier. -/
def descriptor? (catalog : Catalog) (identifier : String) : Option Descriptor :=
  catalog.descriptors.find? (·.identifier == identifier)

/-- What is described under an identifier is the first registration with it. -/
theorem descriptor?_eq (catalog : Catalog) (identifier : String) :
    catalog.descriptor? identifier =
      (catalog.find? (·.identifier == identifier)).map (·.descriptor) := by
  rw [descriptor?, descriptors, List.find?_map]
  rfl

/-- The topology under an identifier. -/
def topology (catalog : Catalog) (identifier : String) : Except ZoneError Topology :=
  match catalog.find? (·.identifier == identifier) with
  | some registration => .ok registration.topology
  | none => .error (.unknownTopology identifier)

/-- The blueprint that a request asks for. -/
def blueprint (catalog : Catalog) (group : ResourceGroup) (request : Request) :
    Except ZoneError Blueprint :=
  match request.fault? with
  | some fault => .error (.invalidRequest fault)
  | none =>
    match catalog.topology request.topology with
    | .error error => .error error
    | .ok topology =>
      topology.produce request.version group.region { group := group, zone := request.zone }

/-- What a request would lead to. -/
def plan (catalog : Catalog) (group : ResourceGroup) (request : Request) : Except ZoneError Plan :=
  (catalog.blueprint group request).map Blueprint.plan

/-- Creates everything that a request asks for. -/
def deploy {m : Type → Type} [Monad m] (provider : Provider m) (catalog : Catalog)
    (group : ResourceGroup) (request : Request) : m (Except ZoneError (List DeployedResource)) :=
  match catalog.blueprint group request with
  | .error error => pure (.error error)
  | .ok blueprint => blueprint.deploy provider

/-- What a request asks for, to be created one resource at a time. -/
def rollout (catalog : Catalog) (group : ResourceGroup) (request : Request) :
    Except ZoneError Rollout :=
  (catalog.blueprint group request).map Rollout.planned

end Catalog

end Provision
