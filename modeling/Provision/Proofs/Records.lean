/-
**Records there and back.**

Definitions, plans, descriptions and deployed networks are read back however their fields are arranged:

* `faithful_option`, `faithful_pair` and the words of purposes are the parts that only they have;
* `roundTrips_plannedResource`, `roundTrips_plan` and `roundTrips_descriptor` say so of what people are
  shown, `roundTrips_networkDefinition` of what is to be created;
* `roundTrips_deployedNetwork` says so of a network, whose subnets are read by their purposes
  (`lastOf_subnets`).
-/

import Provision.Proofs.Documents
import Provision.Proofs.Readback

namespace Provision

namespace Document

/-! ### Parts -/

theorem faithful_resourcePurpose (purpose : ResourcePurpose) : Faithful purpose :=
  word?_spelled purpose.ofWord?_word

theorem faithful_subnetPurpose (purpose : SubnetPurpose) : Faithful purpose :=
  word?_spelled purpose.ofWord?_word

theorem faithful_version (version : Version) : Faithful version := by
  show (Json.bodyText? _).map _ = _
  rw [Json.bodyText?_spellText]
  rfl

section Parts

variable {α β : Type} [Document α] [Document β]

/-- A value that may be missing is read back, unless its own document is the one of a missing value. -/
theorem faithful_option {value : Option α}
    (each : ∀ item ∈ value, Faithful item ∧ Json.tree (encode item) ≠ .null) : Faithful value := by
  cases value with
  | none => rfl
  | some item =>
      obtain ⟨faithful, given⟩ := each item rfl
      show (Json.tree (encode item)).nullable? decode? = _
      unfold Json.Tree.nullable?
      split
      next missing => exact absurd missing given
      next => rw [show decode? (Json.tree (encode item)) = some item from faithful, Option.map_some]

theorem faithful_pair {pair : α × β} (first : Faithful pair.1) (second : Faithful pair.2) :
    Faithful pair := by
  show ((decode? (Json.tree (encode pair.1))).bind fun _ => (decode? _).bind _) = _
  rw [show decode? (Json.tree (encode pair.1)) = some pair.1 from first, Option.bind_some,
    show decode? (Json.tree (encode pair.2)) = some pair.2 from second]
  rfl

end Parts

end Document

/-! ### Definitions -/

/-- The fields of the definition of a subnet, in their order. -/
def SubnetDefinition.fields (subnet : SubnetDefinition) : List Json.Field :=
  [Document.field "name" subnet.name, Document.field "address_prefix" subnet.addresses]

/-- The fields of the definition of a network, in their order. -/
def NetworkDefinition.fields (network : NetworkDefinition) : List Json.Field :=
  [Document.field "name" network.name, Document.field "region" network.region,
    Document.field "address_space" network.addresses, Document.field "subnets" network.subnets]

namespace Document

theorem roundTrips_subnetDefinition (subnet : SubnetDefinition) :
    RoundTrips subnet.fields [] subnet where
  document := rfl
  parts := by
    simp only [SubnetDefinition.fields, List.forall_mem_cons]
    exact ⟨faithful_string _, faithful_string _, nofun⟩
  arranged := fun tree arranges => by
    refine read_of_arranges arranges (by simp [SubnetDefinition.fields, field]) fun found held => ?_
    simp only [SubnetDefinition.fields, List.forall_mem_cons] at held
    obtain ⟨name, addresses, -⟩ := held
    simp only [required?_eq name, required?_eq addresses, Option.bind_eq_bind, Option.bind_some]
    rfl

/-- **The definition of a network is read back.** -/
theorem roundTrips_networkDefinition (network : NetworkDefinition) :
    RoundTrips network.fields [] network where
  document := rfl
  parts := by
    have subnets : Faithful network.subnets := faithful_list fun subnet _ =>
      (roundTrips_subnetDefinition subnet).faithful
    simp only [NetworkDefinition.fields, List.forall_mem_cons]
    exact ⟨faithful_string _, faithful_string _, faithful_string _, subnets, nofun⟩
  arranged := fun tree arranges => by
    refine read_of_arranges arranges (by simp [NetworkDefinition.fields, field]) fun found held => ?_
    simp only [NetworkDefinition.fields, List.forall_mem_cons] at held
    obtain ⟨name, region, addresses, subnets, -⟩ := held
    simp only [required?_eq name, required?_eq region, required?_eq addresses, required?_eq subnets,
      Option.bind_eq_bind, Option.bind_some]
    rfl

end Document

/-! ### Plans and descriptions -/

/-- The fields of a planned resource, in their order. -/
def PlannedResource.fields (resource : PlannedResource) : List Json.Field :=
  [Document.field "name" resource.name, Document.field "resource_type" resource.kind,
    Document.field "purpose" resource.purpose, Document.field "subnet_purposes" resource.bindings,
    Document.field "tags" resource.tags]

/-- The fields of a plan, in their order. -/
def Plan.fields (plan : Plan) : List Json.Field :=
  [Document.field "landing_zone_id" plan.zone, Document.field "resource_group" plan.group,
    Document.field "resources" plan.resources]

/-- The fields of a description, in their order. -/
def Descriptor.fields (descriptor : Descriptor) : List Json.Field :=
  [Document.field "identifier" descriptor.identifier, Document.field "display_name" descriptor.title,
    Document.field "description" descriptor.description,
    Document.field "supported_versions" descriptor.versions]

namespace Document

theorem roundTrips_plannedResource (resource : PlannedResource) :
    RoundTrips resource.fields [] resource where
  document := rfl
  parts := by
    have purpose : Faithful resource.purpose := faithful_option fun purpose _ =>
      ⟨faithful_resourcePurpose purpose, nofun⟩
    have bindings : Faithful resource.bindings := faithful_list fun binding _ =>
      faithful_pair (faithful_subnetPurpose binding.1) (faithful_string binding.2)
    simp only [PlannedResource.fields, List.forall_mem_cons]
    exact ⟨faithful_string _, faithful_kind _, purpose, bindings, faithful_tags _, nofun⟩
  arranged := fun tree arranges => by
    refine read_of_arranges arranges (by simp [PlannedResource.fields, field]) fun found held => ?_
    simp only [PlannedResource.fields, List.forall_mem_cons] at held
    obtain ⟨name, kind, purpose, bindings, tags, -⟩ := held
    simp only [required?_eq name, required?_eq kind, optional?_eq purpose, required?_eq bindings,
      required?_eq tags, Option.bind_eq_bind, Option.bind_some]
    rfl

/-- **A plan is read back.** -/
theorem roundTrips_plan (plan : Plan) : RoundTrips plan.fields [] plan where
  document := rfl
  parts := by
    have resources : Faithful plan.resources := faithful_list fun resource _ =>
      (roundTrips_plannedResource resource).faithful
    simp only [Plan.fields, List.forall_mem_cons]
    exact ⟨faithful_string _, faithful_string _, resources, nofun⟩
  arranged := fun tree arranges => by
    refine read_of_arranges arranges (by simp [Plan.fields, field]) fun found held => ?_
    simp only [Plan.fields, List.forall_mem_cons] at held
    obtain ⟨zone, group, resources, -⟩ := held
    simp only [required?_eq zone, required?_eq group, required?_eq resources, Option.bind_eq_bind,
      Option.bind_some]
    rfl

/-- **The description of a topology is read back.** -/
theorem roundTrips_descriptor (descriptor : Descriptor) :
    RoundTrips descriptor.fields [] descriptor where
  document := rfl
  parts := by
    have versions : Faithful descriptor.versions := faithful_list fun version _ =>
      faithful_version version
    simp only [Descriptor.fields, List.forall_mem_cons]
    exact ⟨faithful_string _, faithful_string _, faithful_string _, versions, nofun⟩
  arranged := fun tree arranges => by
    refine read_of_arranges arranges (by simp [Descriptor.fields, field]) fun found held => ?_
    simp only [Descriptor.fields, List.forall_mem_cons] at held
    obtain ⟨identifier, title, description, versions, -⟩ := held
    simp only [required?_eq identifier, required?_eq title, required?_eq description,
      required?_eq versions, Option.bind_eq_bind, Option.bind_some]
    rfl

end Document

/-! ### Networks and their subnets -/

/-- The fields of a deployed subnet, in their order. -/
def DeployedSubnet.fields (subnet : DeployedSubnet) : List Json.Field :=
  [Document.field "resource_id" subnet.id, Document.field "name" subnet.name]

/-- The field with the subnets of a network. Its document may list them in any order, and where it repeats
a purpose the last subnet counts. -/
def DeployedNetwork.subnetsField (network : DeployedNetwork) : Json.Field where
  name := "subnets_by_purpose"
  document := .object (network.subnets.map fun binding => (binding.1.word, Document.encode binding.2))
  reads := fun tree => ∃ members : List (SubnetPurpose × DeployedSubnet),
    tree.map? SubnetPurpose.ofWord? Document.decode? = some members ∧
      Document.lastOf members = network.subnet?

/-- The fields of a deployed network, in their order. -/
def DeployedNetwork.fields (network : DeployedNetwork) : List Json.Field :=
  [Document.field "resource_id" network.id, Document.field "region" network.region,
    network.subnetsField]

theorem DeployedNetwork.mem_subnets_iff (network : DeployedNetwork) (purpose : SubnetPurpose)
    (subnet : DeployedSubnet) :
    (purpose, subnet) ∈ network.subnets ↔ network.subnet? purpose = some subnet :=
  SubnetPurpose.mem_filterMap_all_iff network.subnet? purpose subnet

namespace Document

theorem roundTrips_deployedSubnet (subnet : DeployedSubnet) : RoundTrips subnet.fields [] subnet where
  document := rfl
  parts := by
    simp only [DeployedSubnet.fields, List.forall_mem_cons]
    exact ⟨faithful_string _, faithful_string _, nofun⟩
  arranged := fun tree arranges => by
    refine read_of_arranges arranges (by simp [DeployedSubnet.fields, field]) fun found held => ?_
    simp only [DeployedSubnet.fields, List.forall_mem_cons] at held
    obtain ⟨id, name, -⟩ := held
    simp only [required?_eq id, required?_eq name, Option.bind_eq_bind, Option.bind_some]
    rfl

theorem lastOf_eq_some {κ α : Type} [DecidableEq κ] {members : List (κ × α)} {key : κ} {value : α}
    (found : lastOf members key = some value) : (key, value) ∈ members := by
  obtain ⟨member, first, rfl⟩ := Option.map_eq_some_iff.mp found
  have named := List.find?_some first
  obtain rfl := beq_iff_eq.mp named
  exact List.mem_reverse.mp (List.mem_of_find?_eq_some first)

theorem lastOf_isSome {κ α : Type} [DecidableEq κ] {members : List (κ × α)} {key : κ} {value : α}
    (member : (key, value) ∈ members) : (lastOf members key).isSome := by
  rw [lastOf, Option.isSome_map, List.find?_isSome]
  exact ⟨_, List.mem_reverse.mpr member, beq_self_eq_true key⟩

/-- The subnets of a network are read by their purposes. -/
theorem lastOf_subnets (network : DeployedNetwork) : lastOf network.subnets = network.subnet? := by
  funext purpose
  cases served : network.subnet? purpose with
  | some subnet =>
      obtain ⟨other, found⟩ := Option.isSome_iff_exists.mp
        (lastOf_isSome ((network.mem_subnets_iff purpose subnet).mpr served))
      have same := (network.mem_subnets_iff purpose other).mp (lastOf_eq_some found)
      rw [found, ← same, served]
  | none =>
      refine Option.eq_none_iff_forall_ne_some.mpr fun subnet found => ?_
      cases served.symm.trans ((network.mem_subnets_iff purpose subnet).mp (lastOf_eq_some found))

/-- **A network is read back** with the subnet of each purpose. -/
theorem roundTrips_deployedNetwork (network : DeployedNetwork) :
    RoundTrips network.fields [] network where
  document := rfl
  parts := by
    have subnets : network.subnetsField.reads (Json.tree network.subnetsField.document) :=
      ⟨network.subnets, map?_object SubnetPurpose.word (fun binding _ => binding.1.ofWord?_word)
        fun binding _ => (roundTrips_deployedSubnet binding.2).faithful, lastOf_subnets network⟩
    simp only [DeployedNetwork.fields, List.forall_mem_cons]
    exact ⟨faithful_string _, faithful_string _, subnets, nofun⟩
  arranged := fun tree arranges => by
    refine read_of_arranges arranges
      (by simp [DeployedNetwork.fields, DeployedNetwork.subnetsField, field]) fun found held => ?_
    simp only [DeployedNetwork.fields, List.forall_mem_cons] at held
    obtain ⟨id, region, ⟨item, looked, members, read, last⟩ | ⟨left, -⟩, -⟩ := held
    · have subnets : found.required? "subnets_by_purpose"
          (Json.Tree.map? SubnetPurpose.ofWord? (decode? (α := DeployedSubnet))) = some members := by
        rw [Json.Fields.required?, show found.found.lookup "subnets_by_purpose" = some item from looked]
        exact read
      simp only [required?_eq id, required?_eq region, subnets, last, Option.bind_eq_bind,
        Option.bind_some]
      rfl
    · cases left

end Document

end Provision
