/-
**Tags.**

Tags on live resources are the only record of a deployment. A landing zone writes its identifier, the
purpose of the resource, and for each subnet purpose the name of the subnet that serves it:

* `Tags.owned`, `Tags.withPurpose` and `Tags.withSubnet` write tags;
* `Tags.owner?`, `Tags.purpose?` and `Tags.subnets` read them back;
* `Tags.managedKeys` lists the keys whose values a deployment decides.
-/

import Std.Data.ExtTreeMap
import Provision.Purpose

namespace Provision

/-- The tags of a resource, in the order of their keys. -/
abbrev Tags := Std.ExtTreeMap String String

namespace Tags

/-- The key of the identifier of the landing zone that owns a resource. -/
def ownerKey : String := "landing-zone-id"

/-- The key of the purpose of a resource. -/
def purposeKey : String := "landing-zone-purpose"

/-- The keys whose values a deployment decides. -/
def managedKeys : List String := ownerKey :: purposeKey :: SubnetPurpose.all.map SubnetPurpose.word

/-- The tags of a resource that a landing zone owns. -/
def owned (zone : String) : Tags := (∅ : Tags).insert ownerKey zone

/-- The tags with a purpose for the whole resource. -/
def withPurpose (tags : Tags) (purpose : ResourcePurpose) : Tags :=
  tags.insert purposeKey purpose.word

/-- The tags with a subnet for a purpose. -/
def withSubnet (tags : Tags) (purpose : SubnetPurpose) (subnet : String) : Tags :=
  tags.insert purpose.word subnet

/-- The landing zone that owns the resource. -/
def owner? (tags : Tags) : Option String := tags[ownerKey]?

/-- The purpose of the whole resource; an unknown word counts as none. -/
def purpose? (tags : Tags) : Option ResourcePurpose :=
  tags[purposeKey]?.bind ResourcePurpose.ofWord?

/-- Every subnet purpose that is tagged, in order, with the subnet that its tag names. -/
def subnets (tags : Tags) : List (SubnetPurpose × String) :=
  SubnetPurpose.all.filterMap fun purpose => tags[purpose.word]?.map fun subnet => (purpose, subnet)

end Tags

end Provision
