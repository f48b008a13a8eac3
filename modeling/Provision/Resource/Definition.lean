/-
**Definitions of resources.**

What a resource is to look like before it is created:

* `ResourceDefinition` is any resource, with settings that only the provider understands;
* `NetworkDefinition` is a virtual network with its address space, and
  `NetworkDefinition.toResource` the resource that it describes.
-/

import Provision.Json.Value
import Provision.Resource.Kind

namespace Provision

/-- A subnet of a virtual network. -/
structure SubnetDefinition where
  name : String
  addresses : String
  deriving DecidableEq, Repr

/-- A resource to create. -/
structure ResourceDefinition where
  /-- The name, unique for its kind in a resource group. -/
  name : String
  kind : ResourceKind
  region : String
  /-- Settings that are passed through to the provider. -/
  settings : Json := .object []
  /-- The subnets of a virtual network. -/
  subnets : List SubnetDefinition := []
  deriving Repr

namespace ResourceDefinition

/-- The definition with one setting; settings that are no object stay as they are. -/
def withSetting (definition : ResourceDefinition) (key : String) (value : Json) :
    ResourceDefinition :=
  { definition with settings := definition.settings.setMember key value }

/-- The value of a setting. -/
def setting? (definition : ResourceDefinition) (key : String) : Option Json :=
  definition.settings.member? key

/-- Whether the definition has a subnet of a name. -/
def hasSubnet (definition : ResourceDefinition) (name : String) : Bool :=
  definition.subnets.any (·.name == name)

end ResourceDefinition

/-- A virtual network to create. -/
structure NetworkDefinition where
  name : String
  region : String
  addresses : String
  subnets : List SubnetDefinition := []
  deriving DecidableEq, Repr

/-- The setting that holds the address space of a virtual network. -/
def NetworkDefinition.addressesKey : String := "address_space"

/-- The resource that a virtual network is. -/
def NetworkDefinition.toResource (network : NetworkDefinition) : ResourceDefinition where
  name := network.name
  kind := .virtualNetwork
  region := network.region
  settings := .object [(NetworkDefinition.addressesKey, .string network.addresses)]
  subnets := network.subnets

end Provision
