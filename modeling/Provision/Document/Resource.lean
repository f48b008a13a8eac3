/-
**Documents of resources.**

The documents of purposes and kinds, of definitions, of plans and of deployed resources. A record is
an object of its fields; words stand for purposes and kinds.
-/

import Provision.Document.Basic
import Provision.Plan
import Provision.Resource.Definition
import Provision.Resource.Deployed
import Provision.Topology.Catalog

namespace Provision.Document

/-! ## Words -/

instance : Document ResourcePurpose where
  encode := fun purpose => .string purpose.word
  decode? := Json.Tree.word? ResourcePurpose.ofWord?

instance : Document SubnetPurpose where
  encode := fun purpose => .string purpose.word
  decode? := Json.Tree.word? SubnetPurpose.ofWord?

instance : Document ResourceKind where
  encode := fun kind => .string kind.word
  decode? := Json.Tree.word? ResourceKind.ofWord?

instance : Document Version where
  encode := fun version => .string version.text
  decode? := fun tree => tree.text?.map Version.mk

/-! ## Tags -/

instance : Document Tags where
  encode := fun tags => .object (tags.toList.map fun (key, value) => (key, .string value))
  decode? := fun tree =>
    (tree.map? some Json.Tree.text?).map fun members =>
      members.foldl (fun tags member => tags.insert member.1 member.2) (∅ : Tags)

/-! ## Definitions -/

instance : Document ResourceGroup where
  encode := fun group => .object
    [("name", .string group.name), ("region", .string group.region),
      ("subscription_id", .string group.subscription)]
  decode? := fun tree => do
    let fields ← Json.Fields.ofTree? ["name", "region", "subscription_id"] tree
    let name ← fields.required? "name" decode?
    let region ← fields.required? "region" decode?
    let subscription ← fields.required? "subscription_id" decode?
    pure { name, region, subscription }

instance : Document SubnetDefinition where
  encode := fun subnet => .object
    [("name", .string subnet.name), ("address_prefix", .string subnet.addresses)]
  decode? := fun tree => do
    let fields ← Json.Fields.ofTree? ["name", "address_prefix"] tree
    let name ← fields.required? "name" decode?
    let addresses ← fields.required? "address_prefix" decode?
    pure { name, addresses }

instance : Document NetworkDefinition where
  encode := fun network => .object
    [("name", .string network.name), ("region", .string network.region),
      ("address_space", .string network.addresses), ("subnets", encode network.subnets)]
  decode? := fun tree => do
    let fields ← Json.Fields.ofTree? ["name", "region", "address_space", "subnets"] tree
    let name ← fields.required? "name" decode?
    let region ← fields.required? "region" decode?
    let addresses ← fields.required? "address_space" decode?
    let subnets ← fields.required? "subnets" decode?
    pure { name, region, addresses, subnets }

/-- How deep the arrays and objects of settings may be nested; their definition is one level. -/
def settingsDepth : Nat := Json.Tree.maximumDepth - 1

instance : Document ResourceDefinition where
  encode := fun definition => .object <|
    [("name", .string definition.name), ("resource_type", encode definition.kind),
      ("region", .string definition.region), ("properties", definition.settings)] ++
      optionalField "subnets" definition.subnets
  decode? := fun tree => do
    let fields ←
      Json.Fields.ofTree? ["name", "resource_type", "region", "properties", "subnets"] tree
    let name ← fields.required? "name" decode?
    let kind ← fields.required? "resource_type" decode?
    let region ← fields.required? "region" decode?
    let settings ← fields.required? "properties" (Json.Tree.value? settingsDepth)
    let subnets ← fields.defaulted? "subnets" [] decode?
    pure { name, kind, region, settings, subnets }

/-! ## Deployed resources -/

instance : Document DeployedResource where
  encode := fun resource => .object
    [("resource_id", .string resource.id), ("resource_type", .string resource.type),
      ("region", .string resource.region), ("tags", encode resource.tags)]
  decode? := fun tree => do
    let fields ← Json.Fields.ofTree? ["resource_id", "resource_type", "region", "tags"] tree
    let id ← fields.required? "resource_id" decode?
    let type ← fields.required? "resource_type" decode?
    let region ← fields.required? "region" decode?
    let tags ← fields.required? "tags" decode?
    pure { id, type, region, tags }

instance : Document DeployedSubnet where
  encode := fun subnet => .object
    [("resource_id", .string subnet.id), ("name", .string subnet.name)]
  decode? := fun tree => do
    let fields ← Json.Fields.ofTree? ["resource_id", "name"] tree
    let id ← fields.required? "resource_id" decode?
    let name ← fields.required? "name" decode?
    pure { id, name }

instance : Document Subnets where
  encode := fun subnets => .object (subnets.toList.map fun (name, subnet) => (name, encode subnet))
  decode? := fun tree =>
    (tree.map? some decode?).map fun members =>
      members.foldl (fun subnets member => subnets.insert member.1 member.2) (∅ : Subnets)

/-- The last of the values that an association gives to a key. -/
def lastOf {κ α : Type} [DecidableEq κ] (members : List (κ × α)) (key : κ) : Option α :=
  (members.reverse.find? (·.1 == key)).map (·.2)

instance : Document DeployedNetwork where
  encode := fun network => .object
    [("resource_id", .string network.id), ("region", .string network.region),
      ("subnets_by_purpose", .object
        (network.subnets.map fun (purpose, subnet) => (purpose.word, encode subnet)))]
  decode? := fun tree => do
    let fields ← Json.Fields.ofTree? ["resource_id", "region", "subnets_by_purpose"] tree
    let id ← fields.required? "resource_id" decode?
    let region ← fields.required? "region" decode?
    let members ← fields.required? "subnets_by_purpose"
      (Json.Tree.map? SubnetPurpose.ofWord? (decode? (α := DeployedSubnet)))
    pure { id, region, subnet? := lastOf members }

/-! ## Plans and descriptions -/

instance : Document PlannedResource where
  encode := fun resource => .object
    [("name", .string resource.name), ("resource_type", encode resource.kind),
      ("purpose", encode resource.purpose), ("subnet_purposes", encode resource.bindings),
      ("tags", encode resource.tags)]
  decode? := fun tree => do
    let fields ←
      Json.Fields.ofTree? ["name", "resource_type", "purpose", "subnet_purposes", "tags"] tree
    let name ← fields.required? "name" decode?
    let kind ← fields.required? "resource_type" decode?
    let purpose ← fields.optional? "purpose" decode?
    let bindings ← fields.required? "subnet_purposes" decode?
    let tags ← fields.required? "tags" decode?
    pure { name, kind, purpose, bindings, tags }

instance : Document Plan where
  encode := fun plan => .object
    [("landing_zone_id", .string plan.zone), ("resource_group", .string plan.group),
      ("resources", encode plan.resources)]
  decode? := fun tree => do
    let fields ← Json.Fields.ofTree? ["landing_zone_id", "resource_group", "resources"] tree
    let zone ← fields.required? "landing_zone_id" decode?
    let group ← fields.required? "resource_group" decode?
    let resources ← fields.required? "resources" decode?
    pure { zone, group, resources }

instance : Document Header where
  encode := fun header => .object
    [("name", .string header.title), ("description", .string header.description)]
  decode? := fun tree => do
    let fields ← Json.Fields.ofTree? ["name", "description"] tree
    let title ← fields.required? "name" decode?
    let description ← fields.required? "description" decode?
    pure { title, description }

instance : Document Descriptor where
  encode := fun descriptor => .object
    [("identifier", .string descriptor.identifier), ("display_name", .string descriptor.title),
      ("description", .string descriptor.description),
      ("supported_versions", encode descriptor.versions)]
  decode? := fun tree => do
    let fields ← Json.Fields.ofTree?
      ["identifier", "display_name", "description", "supported_versions"] tree
    let identifier ← fields.required? "identifier" decode?
    let title ← fields.required? "display_name" decode?
    let description ← fields.required? "description" decode?
    let versions ← fields.required? "supported_versions" decode?
    pure { identifier, title, description, versions }

end Provision.Document
