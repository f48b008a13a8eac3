/-
**What topologies declare.**

In a blueprint of which nothing was declared so far, the resources of a topology depend on its version
and on the landing zone only:

* `ManagedNetwork.declarations_extend` and `KubernetesWorkspace.declarations_extend` list them;
* `Topology.kinds` are their kinds, no kind twice (`Topology.kinds_nodup`), and each resource has the name
  of its place (`Topology.keys_extend`);
* `Topology.fault?_extend` — nothing keeps them from being created.
-/

import Provision.Proofs.Blueprints
import Provision.Proofs.Names
import Provision.Topology.Basic

namespace Provision.Topology

variable (region : String) (group : ResourceGroup) (zone : String)

namespace ManagedNetwork

/-- An account and a network, with batch computing also a subnet and an account for it. -/
theorem declarations_extend (batch : Bool) :
    (extend batch region { group := group, zone := zone }).declarations =
      [{ definition := storage zone region 0, purpose := some .shared },
        { definition := (network zone region batch).toResource
          bindings := [(.workspaceCompute, "compute"), (.workspaceStorage, "storage")] ++
            if batch then [(.workspaceBatch, "batch")] else [] }] ++
      if batch then [{ definition := resource zone region 2 .batchAccount, purpose := some .shared }]
      else [] := by
  cases batch <;>
    simp [extend, Blueprint.declare, Blueprint.bind, bindSubnet, Declaration.isNetwork,
      Declaration.bind, NetworkDefinition.toResource, storage, resource,
      ResourceDefinition.withSetting]

end ManagedNetwork

namespace KubernetesWorkspace

/-- A network with three subnets that serve, and five resources behind it. -/
theorem declarations_extend :
    (extend region { group := group, zone := zone }).declarations =
      [{ definition := (network zone region).toResource
         bindings := [(.aksNodePool, "aks"), (.postgresql, "postgres"), (.workspaceCompute, "compute")] },
        { definition := logAnalytics zone region, purpose := some .monitoring },
        { definition := storage zone region 2, purpose := some .shared },
        { definition := database zone region, purpose := some .workspace },
        { definition := cluster zone region, purpose := some .workspace },
        { definition := resource zone region 5 .relayNamespace }] := by
  simp [extend, Blueprint.declare, Blueprint.bind, bindSubnet, Declaration.isNetwork, Declaration.bind,
    NetworkDefinition.toResource]

end KubernetesWorkspace

/-- The kinds of the resources of a topology in a version, in the order of their creation. -/
def kinds : Topology → Version → List ResourceKind
  | managedNetwork, version =>
    [.storageAccount, .virtualNetwork] ++ if version != .v1 then [.batchAccount] else []
  | kubernetesWorkspace, _ =>
    [.virtualNetwork, .logAnalyticsWorkspace, .storageAccount, .postgresServer, .kubernetesCluster,
      .relayNamespace]

variable (topology : Topology) (version : Version)

theorem kinds_nodup : (topology.kinds version).Nodup := by
  cases topology with
  | managedNetwork => cases batch : version != .v1 <;> simp [kinds, batch]
  | kubernetesWorkspace => simp [kinds]

theorem length_kinds_le : (topology.kinds version).length ≤ 6 := by
  cases topology with
  | managedNetwork => cases batch : version != .v1 <;> simp [kinds, batch]
  | kubernetesWorkspace => simp [kinds]

theorem declarations_ne_nil :
    (topology.extend version region { group := group, zone := zone }).declarations ≠ [] := by
  cases topology with
  | managedNetwork =>
      rw [extend, ManagedNetwork.declarations_extend]
      exact List.append_ne_nil_of_left_ne_nil (List.cons_ne_nil _ _) _
  | kubernetesWorkspace =>
      rw [extend, KubernetesWorkspace.declarations_extend]
      exact List.cons_ne_nil _ _

theorem extend_zone :
    (topology.extend version region { group := group, zone := zone }).zone = zone := by
  cases topology with
  | managedNetwork => cases batch : version != .v1 <;> simp only [extend, batch] <;> rfl
  | kubernetesWorkspace => rfl

theorem extend_group :
    (topology.extend version region { group := group, zone := zone }).group = group := by
  cases topology with
  | managedNetwork => cases batch : version != .v1 <;> simp only [extend, batch] <;> rfl
  | kubernetesWorkspace => rfl

/-- **Each resource has the name of its place.** -/
theorem keys_extend :
    (topology.extend version region { group := group, zone := zone }).declarations.map
        (fun declaration => (declaration.definition.kind, declaration.definition.name)) =
      (topology.kinds version).zipIdx.map
        fun place => (place.1, resourceName zone place.2 place.1) := by
  cases topology with
  | managedNetwork =>
      rw [extend, ManagedNetwork.declarations_extend, kinds]
      cases version != .v1 <;> rfl
  | kubernetesWorkspace =>
      rw [extend, KubernetesWorkspace.declarations_extend]
      rfl

/-- Each resource has the name of some place. -/
theorem exists_number_of_declaration {declaration : Declaration} (member : declaration ∈
    (topology.extend version region { group := group, zone := zone }).declarations) :
    ∃ number, declaration.definition.name = resourceName zone number declaration.definition.kind := by
  have key := List.mem_map_of_mem (f := fun declaration : Declaration =>
    (declaration.definition.kind, declaration.definition.name)) member
  rw [keys_extend] at key
  obtain ⟨⟨kind, number⟩, -, same⟩ := List.mem_map.mp key
  obtain ⟨rfl, named⟩ := Prod.mk.inj same
  exact ⟨number, named.symm⟩

/-- Each subnet that a topology declares serves a purpose, and no others do. -/
theorem bound_extend : ∀ declaration ∈
    (topology.extend version region { group := group, zone := zone }).declarations,
      declaration.bindings.map (·.2) = declaration.definition.subnets.map (·.name) := by
  intro declaration member
  cases topology with
  | managedNetwork =>
      rw [extend, ManagedNetwork.declarations_extend] at member
      cases batch : version != .v1 <;>
        simp only [batch, if_true, if_false, List.append_nil, Bool.false_eq_true, List.cons_append,
          List.nil_append, List.mem_cons, List.not_mem_nil, or_false] at member
      · rcases member with rfl | rfl <;> rfl
      · rcases member with rfl | rfl | rfl <;> rfl
  | kubernetesWorkspace =>
      rw [extend, KubernetesWorkspace.declarations_extend] at member
      simp only [List.mem_cons, List.not_mem_nil, or_false] at member
      rcases member with rfl | rfl | rfl | rfl | rfl | rfl <;> rfl

/-- **Nothing is wrong with what a topology declares**, unless the landing zone has no identifier. -/
theorem fault?_extend (named : Text.isBlank zone = false) :
    (topology.extend version region { group := group, zone := zone }).fault? = none := by
  rw [Blueprint.fault?_eq_none_iff, extend_zone]
  refine ⟨named, fun declaration member => declaration.fault?_eq_none_iff.mpr ⟨?_, ?_⟩⟩
  · obtain ⟨number, drawn⟩ := exists_number_of_declaration region group zone topology version member
    rw [drawn]
    exact Naming.isBlank_name _ _ _
  · intro binding bound
    have there := List.mem_map_of_mem (f := (·.2)) bound
    rw [bound_extend region group zone topology version declaration member] at there
    obtain ⟨subnet, inside, same⟩ := List.mem_map.mp there
    exact List.any_eq_true.mpr ⟨subnet, inside, by rw [same, beq_self_eq_true]⟩

/-! ### Plans -/

/-- The resources are planned with the kinds and the names of their places. -/
theorem keys_plan :
    (topology.extend version region { group := group, zone := zone }).plan.resources.map
        (fun planned => (planned.kind, planned.name)) =
      (topology.kinds version).zipIdx.map
        fun place => (place.1, resourceName zone place.2 place.1) := by
  rw [← keys_extend region group, Blueprint.plan, List.map_map]
  rfl

theorem kinds_plan :
    (topology.extend version region { group := group, zone := zone }).plan.resources.map (·.kind) =
      topology.kinds version := by
  have kinds := congrArg (List.map Prod.fst) (keys_plan region group zone topology version)
  rw [List.map_map, List.map_map] at kinds
  exact kinds.trans (List.zipIdx_map_fst 0 _)

/-- **The names are drawn one after the other**, each as long as the kind of its resource allows. -/
theorem names_plan :
    let plan := (topology.extend version region { group := group, zone := zone }).plan
    plan.names = ({ zone := zone } : NameSequence).draw
      (plan.resources.map (·.kind.maximumLength)) := by
  intro plan
  have fits : (0 : UInt64).toNat + ((topology.kinds version).map (·.maximumLength)).length <
      UInt64.size := by
    have few := topology.length_kinds_le version
    rw [List.length_map, UInt64.toNat_zero, UInt64.size]
    omega
  have lengths : plan.resources.map (·.kind.maximumLength) =
      (topology.kinds version).map (·.maximumLength) := by
    rw [← kinds_plan region group zone, List.map_map]
    rfl
  have names := congrArg (List.map Prod.snd) (keys_plan region group zone topology version)
  rw [List.map_map, List.map_map] at names
  rw [lengths, NameSequence.draw_eq _ _ fits, List.zipIdx_map, List.map_map]
  exact names

end Provision.Topology
