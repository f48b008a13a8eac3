/-
**Surveys.**

What a landing zone consists of is read off the tags of the resources that exist. Every survey lists
the resource group anew:

* `Survey.owned`, `Survey.withPurpose` and `Survey.shared` list resources;
* `Survey.networks` lists virtual networks with the subnets that serve each purpose.
-/

import Provision.Provider.Basic

namespace Provision

/-- What to look at in a resource group. -/
structure Survey where
  group : ResourceGroup
  /-- The only landing zone to look at, if any. -/
  zone? : Option String := none
  deriving DecidableEq, Repr

/-- The subnets that the tags of a virtual network name, by purpose. A tag that names none of its
subnets is an error. -/
def DeployedNetwork.ofTags (resource : DeployedResource) (live : Subnets) :
    Except ZoneError DeployedNetwork :=
  match resource.tags.subnets.find? fun tagged => !live.contains tagged.2 with
  | some (purpose, subnet) => .error (.staleTag resource.id subnet purpose)
  | none => .ok
    { id := resource.id
      region := resource.region
      subnet? := fun purpose => resource.tags[purpose.word]?.bind fun subnet => live[subnet]? }

namespace Survey

/-- Whether the survey looks at a resource. -/
def covers (survey : Survey) (resource : DeployedResource) : Bool :=
  match survey.zone? with
  | some zone => resource.tags.owner? == some zone
  | none => true

/-- Whether a resource serves a purpose. -/
def serves (purpose : ResourcePurpose) (resource : DeployedResource) : Bool :=
  resource.tags.purpose? == some purpose

/-- Whether a resource is a virtual network with a subnet for a purpose. -/
def isNetworkFor (purpose : SubnetPurpose) (resource : DeployedResource) : Bool :=
  resource.isKind .virtualNetwork && resource.tags.contains purpose.word

variable {m : Type → Type} [Monad m]

/-- The resources that the survey looks at and that pass a test. -/
def resources (survey : Survey) (provider : Provider m) (test : DeployedResource → Bool) :
    m (Except ZoneError (List DeployedResource)) := do
  match ← provider.list survey.group with
  | .error cause => pure (.error (.provider cause))
  | .ok listed => pure (.ok ((listed.filter survey.covers).filter test))

/-- The resources that belong to a landing zone. -/
def owned (survey : Survey) (provider : Provider m) : m (Except ZoneError (List DeployedResource)) :=
  survey.resources provider fun resource => resource.tags.owner?.isSome

/-- The resources that serve a purpose. -/
def withPurpose (survey : Survey) (provider : Provider m) (purpose : ResourcePurpose) :
    m (Except ZoneError (List DeployedResource)) :=
  survey.resources provider (serves purpose)

/-- The resources that all workspaces share. -/
def shared (survey : Survey) (provider : Provider m) :
    m (Except ZoneError (List DeployedResource)) :=
  survey.withPurpose provider .shared

/-- The virtual network that a resource is, with its tagged subnets. -/
def network (provider : Provider m) (resource : DeployedResource) :
    m (Except ZoneError DeployedNetwork) := do
  match ← provider.subnets resource.id with
  | .error cause => pure (.error (.provider cause))
  | .ok live => pure (DeployedNetwork.ofTags resource live)

/-- The virtual networks that resources are, up to the first error. -/
def resolve (provider : Provider m) :
    List DeployedResource → m (Except ZoneError (List DeployedNetwork))
  | [] => pure (.ok [])
  | resource :: rest => do
    match ← network provider resource with
    | .error error => pure (.error error)
    | .ok first =>
      match ← resolve provider rest with
      | .error error => pure (.error error)
      | .ok others => pure (.ok (first :: others))

/-- The virtual networks with a subnet for a purpose. -/
def networks (survey : Survey) (provider : Provider m) (purpose : SubnetPurpose) :
    m (Except ZoneError (List DeployedNetwork)) := do
  match ← survey.resources provider (isNetworkFor purpose) with
  | .error error => pure (.error error)
  | .ok candidates => resolve provider candidates

end Survey

end Provision
