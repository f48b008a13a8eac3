/-
**Blueprints.**

A blueprint collects what one landing zone is to consist of. Each step gives a new blueprint and
leaves the old one as it was:

* `Blueprint.define` starts a landing zone;
* `Blueprint.declare` adds a resource, `Blueprint.bind` gives a purpose to a subnet of a network;
* `Blueprint.plan` says what would be created;
* `Blueprint.fault?` finds what keeps it from being created.
-/

import Provision.Error
import Provision.Plan
import Provision.Resource.Definition
import Provision.Resource.Group
import Provision.Text.Blank

namespace Provision

/-- A resource of a blueprint and what it is for. -/
structure Declaration where
  definition : ResourceDefinition
  purpose : Option ResourcePurpose := none
  /-- The subnets that serve a purpose, in the order in which they were last bound. -/
  bindings : List (SubnetPurpose × String) := []
  deriving Repr

namespace Declaration

/-- The tags that the resource carries when a landing zone creates it. -/
def tags (zone : String) (declaration : Declaration) : Tags :=
  let owned := Tags.owned zone
  let purposed := match declaration.purpose with
    | some purpose => owned.withPurpose purpose
    | none => owned
  declaration.bindings.foldl (fun tags binding => tags.withSubnet binding.1 binding.2) purposed

/-- Whether the declaration is that of the virtual network with a name. -/
def isNetwork (name : String) (declaration : Declaration) : Bool :=
  declaration.definition.kind == .virtualNetwork && declaration.definition.name == name

/-- The declaration with a subnet for a purpose; an earlier one for that purpose is given up. -/
def bind (purpose : SubnetPurpose) (subnet : String) (declaration : Declaration) : Declaration :=
  { declaration with
    bindings := declaration.bindings.filter (·.1 != purpose) ++ [(purpose, subnet)] }

/-- What keeps the declaration from being created. -/
def fault? (declaration : Declaration) : Option Fault :=
  if Text.isBlank declaration.definition.name then some (.unnamed declaration.definition.kind)
  else
    (declaration.bindings.find? fun binding => !declaration.definition.hasSubnet binding.2).map
      fun binding => .undefinedSubnet binding.1 binding.2 declaration.definition.name

/-- What a plan says about the declaration. -/
def plan (zone : String) (declaration : Declaration) : PlannedResource where
  name := declaration.definition.name
  kind := declaration.definition.kind
  purpose := declaration.purpose
  bindings := declaration.bindings
  tags := declaration.tags zone

end Declaration

/-- The declarations with a subnet of a virtual network bound to a purpose: the first declaration of
that network takes the binding, and the network is declared where there is none. -/
def bindSubnet (network : NetworkDefinition) (subnet : String) (purpose : SubnetPurpose) :
    List Declaration → List Declaration
  | [] => [{ definition := network.toResource, bindings := [(purpose, subnet)] }]
  | declaration :: rest =>
    if declaration.isNetwork network.name then declaration.bind purpose subnet :: rest
    else declaration :: bindSubnet network subnet purpose rest

/-- What one landing zone is to consist of. -/
structure Blueprint where
  group : ResourceGroup
  /-- The identifier of the landing zone. -/
  zone : String := ""
  declarations : List Declaration := []
  deriving Repr

namespace Blueprint

/-- The start of a landing zone in the same group. -/
def define (blueprint : Blueprint) (zone : String) : Blueprint :=
  { group := blueprint.group, zone := zone }

/-- The blueprint with another resource. -/
def declare (blueprint : Blueprint) (definition : ResourceDefinition)
    (purpose : Option ResourcePurpose := none) : Blueprint :=
  { blueprint with
    declarations := blueprint.declarations ++ [{ definition := definition, purpose := purpose }] }

/-- The blueprint with a subnet of a virtual network bound to a purpose. -/
def bind (blueprint : Blueprint) (network : NetworkDefinition) (subnet : String)
    (purpose : SubnetPurpose) : Blueprint :=
  { blueprint with declarations := bindSubnet network subnet purpose blueprint.declarations }

/-- What a deployment would create. -/
def plan (blueprint : Blueprint) : Plan where
  zone := blueprint.zone
  group := blueprint.group.name
  resources := blueprint.declarations.map (·.plan blueprint.zone)

/-- What keeps the blueprint from being created. -/
def fault? (blueprint : Blueprint) : Option Fault :=
  if Text.isBlank blueprint.zone then some .blankZone
  else blueprint.declarations.findSome? Declaration.fault?

end Blueprint

end Provision
