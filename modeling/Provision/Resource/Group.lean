/-
**Resource groups and identifiers.**

A landing zone is deployed into a resource group of a subscription. Identifiers are paths:

* `ResourceGroup.id` is the identifier of the group;
* `ResourceGroup.resourceId` is that of a resource in it;
* `subnetId` is that of a subnet in a virtual network.
-/

import Provision.Resource.Kind

namespace Provision

/-- The place that a landing zone is deployed into. -/
structure ResourceGroup where
  name : String
  /-- Where the resources of the landing zone are placed. -/
  region : String
  /-- The subscription that owns the group. -/
  subscription : String
  deriving DecidableEq, Repr

/-- The identifier of a resource group. -/
def ResourceGroup.id (group : ResourceGroup) : String :=
  "/subscriptions/" ++ group.subscription ++ "/resourceGroups/" ++ group.name

/-- The identifier of a resource in a group. -/
def ResourceGroup.resourceId (group : ResourceGroup) (kind : ResourceKind) (name : String) :
    String :=
  group.id ++ "/providers/" ++ kind.type ++ "/" ++ name

/-- The identifier of a subnet in a virtual network. -/
def subnetId (network subnet : String) : String := network ++ "/subnets/" ++ subnet

end Provision
