/-
**Deployed resources.**

What a provider says about the resources that exist:

* `DeployedResource` is a resource with its tags; `DeployedResource.name` is the last segment of its
  identifier;
* `DeployedNetwork` is a virtual network with the subnet that serves each purpose.
-/

import Provision.Resource.Group
import Provision.Tags

namespace Provision

/-- The part of a path after its last slash. -/
def lastSegment (path : List Char) : List Char :=
  (path.reverse.takeWhile (· != '/')).reverse

/-- A resource as the provider reported it. -/
structure DeployedResource where
  id : String
  /-- The provider's type. -/
  type : String
  region : String
  tags : Tags
  deriving DecidableEq

namespace DeployedResource

/-- The last segment of the identifier. -/
def name (resource : DeployedResource) : String := String.ofList (lastSegment resource.id.toList)

/-- Whether the resource is of a kind. -/
def isKind (resource : DeployedResource) (kind : ResourceKind) : Bool := kind.hasType resource.type

/-- The value of a tag. -/
def tag? (resource : DeployedResource) (key : String) : Option String := resource.tags[key]?

end DeployedResource

/-- A subnet of a virtual network that exists. -/
structure DeployedSubnet where
  id : String
  name : String
  deriving DecidableEq, Repr

/-- The subnet of a name in a virtual network. -/
def DeployedSubnet.within (network name : String) : DeployedSubnet := ⟨subnetId network name, name⟩

/-- The subnets of a virtual network by name. -/
abbrev Subnets := Std.ExtTreeMap String DeployedSubnet

/-- The subnets of a virtual network that have given names. -/
def Subnets.ofNames (network : String) (names : List String) : Subnets :=
  names.foldl (fun subnets name => subnets.insert name (.within network name)) ∅

/-- A virtual network with the subnets that serve a purpose. -/
structure DeployedNetwork where
  id : String
  region : String
  /-- The subnet that serves a purpose. -/
  subnet? : SubnetPurpose → Option DeployedSubnet

/-- The purposes that are served, in order, with the subnet that serves each. -/
def DeployedNetwork.subnets (network : DeployedNetwork) : List (SubnetPurpose × DeployedSubnet) :=
  SubnetPurpose.all.filterMap fun purpose => (network.subnet? purpose).map fun subnet =>
    (purpose, subnet)

end Provision
