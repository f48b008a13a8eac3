/-
**What can be declared.**

Blueprints come about step by step. Whatever the steps are:

* `Blueprint.Built` holds of every blueprint that comes about;
* `Declaration.Proper` holds of each of its declarations (`Blueprint.Built.proper`): a purpose has
  one subnet at most, and only virtual networks have any;
* `Blueprint.fault?_eq_none_iff` and `Declaration.fault?_eq_none_iff` say when there is no fault; what is
  bound then is there (`Declaration.subnet_of_binding`).
-/

import Mathlib.Data.List.Nodup
import Provision.Blueprint

namespace Provision

/-- A blueprint that comes about by the steps that there are. -/
inductive Blueprint.Built : Blueprint → Prop where
  | fresh (group : ResourceGroup) : Built { group := group }
  | define {blueprint : Blueprint} (built : Built blueprint) (zone : String) :
      Built (blueprint.define zone)
  | declare {blueprint : Blueprint} (built : Built blueprint) (definition : ResourceDefinition)
      (purpose : Option ResourcePurpose) : Built (blueprint.declare definition purpose)
  | bind {blueprint : Blueprint} (built : Built blueprint) (network : NetworkDefinition)
      (subnet : String) (purpose : SubnetPurpose) : Built (blueprint.bind network subnet purpose)

/-- A declaration in which a purpose has one subnet at most, and no subnet unless it declares a
virtual network. -/
structure Declaration.Proper (declaration : Declaration) : Prop where
  once : (declaration.bindings.map (·.1)).Nodup
  network : declaration.bindings ≠ [] → declaration.definition.kind = .virtualNetwork

namespace Declaration

theorem proper_of_unbound {declaration : Declaration} (unbound : declaration.bindings = []) :
    declaration.Proper where
  once := by simp [unbound]
  network := fun bound => absurd unbound bound

/-- A subnet of a virtual network is bound to a purpose in place of an earlier one. -/
theorem Proper.bind {declaration : Declaration} (proper : declaration.Proper) {name : String}
    (network : declaration.isNetwork name = true) (purpose : SubnetPurpose) (subnet : String) :
    (declaration.bind purpose subnet).Proper where
  once := by
    have kept : ((declaration.bindings.filter (·.1 != purpose)).map (·.1)).Nodup :=
      proper.once.sublist (List.filter_sublist.map _)
    have gone : purpose ∉ (declaration.bindings.filter (·.1 != purpose)).map (·.1) := by
      simp
    simp only [Declaration.bind, List.map_append, List.map_cons, List.map_nil]
    rw [← List.concat_eq_append]
    exact List.Nodup.concat gone kept
  network := fun _ => by
    simp only [isNetwork, Bool.and_eq_true, beq_iff_eq] at network
    exact network.1

/-- A declaration has no fault exactly when it has a name and the subnets that are bound. -/
theorem fault?_eq_none_iff (declaration : Declaration) :
    declaration.fault? = none ↔ Text.isBlank declaration.definition.name = false ∧
      ∀ binding ∈ declaration.bindings, declaration.definition.hasSubnet binding.2 = true := by
  unfold fault?
  cases Text.isBlank declaration.definition.name <;> simp

/-- A declaration without a name has a fault. -/
theorem isBlank_of_faultless {declaration : Declaration} (faultless : declaration.fault? = none) :
    Text.isBlank declaration.definition.name = false :=
  (declaration.fault?_eq_none_iff.mp faultless).1

/-- What is bound is a subnet of the definition, unless there is a fault. -/
theorem subnet_of_binding {declaration : Declaration} (faultless : declaration.fault? = none)
    {purpose : SubnetPurpose} {subnet : String}
    (bound : (purpose, subnet) ∈ declaration.bindings) :
    subnet ∈ declaration.definition.subnets.map (·.name) := by
  have known := (declaration.fault?_eq_none_iff.mp faultless).2 (purpose, subnet) bound
  simpa [ResourceDefinition.hasSubnet] using known

end Declaration

theorem proper_bindSubnet {declarations : List Declaration}
    (proper : ∀ declaration ∈ declarations, declaration.Proper) (network : NetworkDefinition)
    (subnet : String) (purpose : SubnetPurpose) :
    ∀ declaration ∈ bindSubnet network subnet purpose declarations, declaration.Proper := by
  induction declarations with
  | nil =>
      intro declaration member
      obtain rfl := List.mem_singleton.mp member
      exact ⟨List.nodup_singleton _, fun _ => rfl⟩
  | cons first rest hyp =>
      have others := fun declaration member => proper declaration (List.mem_cons_of_mem first member)
      have own := proper first List.mem_cons_self
      intro declaration member
      unfold bindSubnet at member
      split at member
      · rename_i same
        rcases List.mem_cons.mp member with rfl | later
        · exact own.bind same purpose subnet
        · exact others declaration later
      · rcases List.mem_cons.mp member with rfl | later
        · exact own
        · exact hyp others declaration later

namespace Blueprint

/-- **Every declaration of a blueprint is proper**, whatever steps have led to it. -/
theorem Built.proper {blueprint : Blueprint} (built : blueprint.Built) :
    ∀ declaration ∈ blueprint.declarations, declaration.Proper := by
  induction built with
  | fresh group => exact fun _ member => (nomatch member)
  | define built zone hyp => exact fun _ member => (nomatch member)
  | declare built definition purpose hyp =>
      intro declaration member
      rcases List.mem_append.mp member with old | new
      · exact hyp declaration old
      · obtain rfl := List.mem_singleton.mp new
        exact Declaration.proper_of_unbound rfl
  | bind built network subnet purpose hyp => exact proper_bindSubnet hyp network subnet purpose

/-- A blueprint has no fault exactly when it has an identifier and none of its declarations has one. -/
theorem fault?_eq_none_iff (blueprint : Blueprint) :
    blueprint.fault? = none ↔ Text.isBlank blueprint.zone = false ∧
      ∀ declaration ∈ blueprint.declarations, declaration.fault? = none := by
  unfold fault?
  cases Text.isBlank blueprint.zone <;> simp

theorem faultless_declaration {blueprint : Blueprint} (faultless : blueprint.fault? = none) :
    ∀ declaration ∈ blueprint.declarations, declaration.fault? = none :=
  (blueprint.fault?_eq_none_iff.mp faultless).2

end Blueprint

end Provision
