/-
**Identifiers.**

Within one resource group an identifier belongs to one kind and one name, since the type of a kind
followed by a slash never starts the type of another one (`ResourceGroup.resourceId_inj`).

`ResourceGroup.Same` holds of two descriptions of one group, which may differ in the region. Identifiers
tell groups apart where the parts of a group's own identifier hold no slash:

* `ResourceGroup.Slashless` holds of such a group, and `ResourceGroup.same_of_resourceId` compares two;
* `subnetId_inj` — the identifier of a subnet belongs to one network and one name without a slash;
* `lastSegment_resourceId` — the last segment of an identifier is the name, unless that holds a slash;
* `identifiers_tell_resources_apart` puts this together.
-/

import Provision.Proofs.Text.Separators

namespace Provision

/-- The type of a kind and a slash, of which an identifier has a name after it. -/
def ResourceKind.stem (kind : ResourceKind) : List Char := (kind.type ++ "/").toList

theorem ResourceKind.mem_all (kind : ResourceKind) : kind ∈ all := by
  cases kind <;> decide

/-- No type is followed by a slash where another one goes on. -/
theorem ResourceKind.eq_of_stem_le {first second : ResourceKind}
    (starts : first.stem <+: second.stem) : first = second := by
  have every : ∀ first ∈ all, ∀ second ∈ all, first.stem.isPrefixOf second.stem → first = second := by
    decide +kernel
  exact every first first.mem_all second second.mem_all (List.isPrefixOf_iff_prefix.mpr starts)

theorem ResourceKind.stem_append_inj {first second : ResourceKind} {left right : List Char}
    (same : first.stem ++ left = second.stem ++ right) : first = second ∧ left = right := by
  have kinds : first = second := by
    rcases Nat.le_total first.stem.length second.stem.length with shorter | longer
    · have starts : first.stem <+: second.stem ++ right := same ▸ List.prefix_append _ _
      exact eq_of_stem_le (List.prefix_of_prefix_length_le starts (List.prefix_append _ _) shorter)
    · have starts : second.stem <+: first.stem ++ left := same ▸ List.prefix_append _ _
      exact (eq_of_stem_le
        (List.prefix_of_prefix_length_le starts (List.prefix_append _ _) longer)).symm
  subst kinds
  exact ⟨rfl, List.append_cancel_left same⟩

namespace ResourceGroup

/-- Two descriptions are of the same group of the same subscription. -/
def Same (first second : ResourceGroup) : Prop :=
  first.name = second.name ∧ first.subscription = second.subscription

theorem Same.refl (group : ResourceGroup) : group.Same group := ⟨rfl, rfl⟩

theorem Same.symm {first second : ResourceGroup} (same : first.Same second) : second.Same first :=
  ⟨same.1.symm, same.2.symm⟩

theorem Same.resourceId {first second : ResourceGroup} (same : first.Same second)
    (kind : ResourceKind) (name : String) :
    first.resourceId kind name = second.resourceId kind name := by
  obtain ⟨left, place, owner⟩ := first
  obtain ⟨right, elsewhere, other⟩ := second
  obtain ⟨rfl, rfl⟩ : left = right ∧ owner = other := same
  rfl

/-- **Within a group an identifier belongs to one kind and one name.** -/
theorem resourceId_inj (group : ResourceGroup) {first second : ResourceKind} {name other : String}
    (same : group.resourceId first name = group.resourceId second other) :
    first = second ∧ name = other := by
  have texts := congrArg String.toList same
  simp only [resourceId, String.toList_append, List.append_assoc] at texts
  have ends := List.append_cancel_left (List.append_cancel_left texts)
  have stems : first.stem ++ name.toList = second.stem ++ other.toList := by
    simp only [ResourceKind.stem, String.toList_append, List.append_assoc]
    exact ends
  obtain ⟨kinds, names⟩ := ResourceKind.stem_append_inj stems
  exact ⟨kinds, String.toList_inj.mp names⟩

/-! ### Identifiers of several groups -/

/-- No part of the group's identifier holds a slash of its own. -/
structure Slashless (group : ResourceGroup) : Prop where
  subscription : '/' ∉ group.subscription.toList
  name : '/' ∉ group.name.toList

/-- An identifier, cut at the slashes that follow the parts of the group. -/
theorem toList_resourceId (group : ResourceGroup) (kind : ResourceKind) (name : String) :
    (group.resourceId kind name).toList = "/subscriptions/".toList ++
      (group.subscription.toList ++ '/' :: ("resourceGroups/".toList ++
        (group.name.toList ++ '/' :: ("providers/".toList ++ (kind.stem ++ name.toList))))) := by
  have spelled : group.resourceId kind name = "/subscriptions/" ++ group.subscription ++
      "/resourceGroups/" ++ group.name ++ "/providers/" ++ kind.type ++ "/" ++ name := rfl
  have groups : "/resourceGroups/".toList = '/' :: "resourceGroups/".toList := rfl
  have providers : "/providers/".toList = '/' :: "providers/".toList := rfl
  rw [spelled, ← List.cons_append, ← groups, ← List.cons_append, ← providers]
  simp only [ResourceKind.stem, String.toList_append, List.append_assoc]

/-- **Resources of one identifier are in one group**, if the parts of its identifier hold no slash. -/
theorem same_of_resourceId {first second : ResourceGroup} {kind sort : ResourceKind}
    {name label : String} (one : first.Slashless) (two : second.Slashless)
    (same : first.resourceId kind name = second.resourceId sort label) : first.Same second := by
  have texts := congrArg String.toList same
  rw [toList_resourceId, toList_resourceId] at texts
  obtain ⟨subscriptions, behind⟩ := eq_of_separated (List.append_cancel_left texts)
    (.inl two.subscription) (.inl one.subscription)
  obtain ⟨names, -⟩ := eq_of_separated (List.append_cancel_left behind) (.inl two.name)
    (.inl one.name)
  exact ⟨String.toList_inj.mp names, String.toList_inj.mp subscriptions⟩

end ResourceGroup

/-! ### Subnets and names -/

/-- **The identifier of a subnet belongs to one network and one name** without a slash. -/
theorem subnetId_inj {network site subnet label : String} (clean : '/' ∉ subnet.toList)
    (plain : '/' ∉ label.toList) :
    subnetId network subnet = subnetId site label ↔ network = site ∧ subnet = label := by
  refine ⟨fun same => ?_, fun ⟨networks, subnets⟩ => by rw [networks, subnets]⟩
  have between : "/subnets/".toList = "/subnets".toList ++ ['/'] := rfl
  have cut : ∀ network subnet : String, (subnetId network subnet).toList =
      (network.toList ++ "/subnets".toList) ++ '/' :: subnet.toList := by
    simp [subnetId, between]
  have texts := congrArg String.toList same
  rw [cut, cut] at texts
  obtain ⟨networks, subnets⟩ := eq_of_separated texts (.inr clean) (.inr plain)
  exact ⟨String.toList_inj.mp (List.append_cancel_right networks), String.toList_inj.mp subnets⟩

/-- **The last segment of an identifier is the name**, unless the name holds a slash. -/
theorem lastSegment_resourceId (group : ResourceGroup) (kind : ResourceKind) (name : String) :
    lastSegment (group.resourceId kind name).toList = name.toList ↔ '/' ∉ name.toList := by
  constructor
  · intro last
    rw [← last]
    exact slash_notMem_lastSegment _
  · intro clean
    have cut : (group.resourceId kind name).toList =
        (group.id ++ "/providers/" ++ kind.type).toList ++ '/' :: name.toList := by
      rw [ResourceGroup.resourceId, String.toList_append, String.toList_append, List.append_assoc]
      rfl
    rw [cut, lastSegment_append _ clean]

/-- **Identifiers tell resources apart.** Of groups without slashes, and always within one group, equal
identifiers belong to one kind and one name in one group. The identifier of a subnet without a slash
belongs to it and to its network alone, and a resource is called by the name that it was given exactly
if that name holds no slash. -/
theorem identifiers_tell_resources_apart :
    (∀ (first second : ResourceGroup) (kind sort : ResourceKind) (name label : String),
      first.Slashless → second.Slashless →
      (first.resourceId kind name = second.resourceId sort label ↔
        first.subscription = second.subscription ∧ first.name = second.name ∧ kind = sort ∧
          name = label)) ∧
    (∀ (group : ResourceGroup) (kind sort : ResourceKind) (name label : String),
      group.resourceId kind name = group.resourceId sort label ↔ kind = sort ∧ name = label) ∧
    (∀ network site subnet label : String, '/' ∉ subnet.toList → '/' ∉ label.toList →
      (subnetId network subnet = subnetId site label ↔ network = site ∧ subnet = label)) ∧
    ∀ (resource : DeployedResource) (group : ResourceGroup) (kind : ResourceKind) (name : String),
      resource.id = group.resourceId kind name → (resource.name = name ↔ '/' ∉ name.toList) := by
  refine ⟨fun first second kind sort name label one two => ?across,
    fun group kind sort name label => ?within,
    fun network site subnet label clean plain => subnetId_inj clean plain,
    fun resource group kind name identified => ?named⟩
  case across =>
    constructor
    · intro same
      have home := ResourceGroup.same_of_resourceId one two same
      rw [home.resourceId] at same
      exact ⟨home.2, home.1, second.resourceId_inj same⟩
    · rintro ⟨subscriptions, names, rfl, rfl⟩
      exact ResourceGroup.Same.resourceId ⟨names, subscriptions⟩ kind name
  case within => exact ⟨group.resourceId_inj, fun ⟨kinds, names⟩ => by rw [kinds, names]⟩
  case named =>
    rw [DeployedResource.name, identified, ← lastSegment_resourceId group kind name,
      ← String.toList_inj, String.toList_ofList]

/-- A slash in a group's name, or in the names of a network and of its subnet, can be taken for one that
stands between two parts. -/
example :
    let group : ResourceGroup := ⟨"rg", "eastus", "sub-1"⟩
    let other : ResourceGroup :=
      ⟨"rg/providers/Microsoft.Storage/storageAccounts/a", "eastus", "sub-1"⟩
    group.resourceId .storageAccount "a/providers/Microsoft.Storage/storageAccounts/b" =
        other.resourceId .storageAccount "b" ∧
      subnetId "net/subnets/a" "b" = subnetId "net" "a/subnets/b" := by
  decide

/-- A network whose name could be that of a subnet is told from its namesake in another subscription,
from a network of another name in its group, and from the network whose subnet it could be. -/
theorem names_with_slashes_are_told_apart :
    let home : ResourceGroup := ⟨"rg", "eastus", "sub-1"⟩
    let away : ResourceGroup := ⟨"rg", "eastus", "sub-2"⟩
    let network : DeployedResource :=
      ⟨home.resourceId .virtualNetwork "net/subnets/a", ResourceKind.virtualNetwork.type, "eastus", ∅⟩
    home.Slashless ∧ away.Slashless ∧
      network.id ≠ away.resourceId .virtualNetwork "net/subnets/a" ∧
      network.id ≠ home.resourceId .virtualNetwork "net" ∧
      '/' ∉ "a".toList ∧ '/' ∉ "b".toList ∧ subnetId network.id "b" ≠ subnetId "net" "a" ∧
      network.name ≠ "net/subnets/a" := by
  intro home away network
  obtain ⟨across, within, subnets, named⟩ := identifiers_tell_resources_apart
  have one : home.Slashless := ⟨by decide, by decide⟩
  have two : away.Slashless := ⟨by decide, by decide⟩
  have clean : '/' ∉ "a".toList := by decide
  have plain : '/' ∉ "b".toList := by decide
  refine ⟨one, two, fun same => ?_, fun same => ?_, clean, plain, fun same => ?_, fun same => ?_⟩
  · exact absurd ((across home away _ _ _ _ one two).mp same).1 (by decide)
  · exact absurd ((within home _ _ _ _).mp same).2 (by decide)
  · exact absurd ((subnets _ _ _ _ plain clean).mp same).2 (by decide)
  · exact absurd ((named network home _ _ rfl).mp same) (by decide)

end Provision
