/-
**Tags lose nothing.**

One flat map holds the owner of a resource, its purpose and a subnet for each purpose. No two of them
share a key, so each is read back as it was written, and the readings make the map again:

* `Tags.written` are the tags of an owner, a purpose and some bindings; `Declaration.tags_eq_written`
  says that these are the tags that a plan shows;
* `Tags.mem_written_iff` lists all keys of such tags;
* `Tags.rewritten?` writes what was read, `Tags.managed` leaves out the keys that nobody reads;
* **`Tags.rewritten?_eq_managed`** — what was read and written again is what a deployment decides;
* **`tags_lose_nothing`** — both directions, for every blueprint and for every map.
-/

import Provision.Proofs.Blueprints
import Provision.Proofs.Tags

namespace Provision

/-! ### The roles in order -/

theorem SubnetPurpose.mem_all (purpose : SubnetPurpose) : purpose ∈ all := by
  cases purpose <;> decide

theorem SubnetPurpose.all_sorted : all.Pairwise fun first second => first.rank < second.rank := by
  decide

/-- What serves each purpose, listed in the order of the purposes. -/
theorem SubnetPurpose.mem_filterMap_all_iff {α : Type} (serving? : SubnetPurpose → Option α)
    (purpose : SubnetPurpose) (serving : α) :
    (purpose, serving) ∈ all.filterMap (fun purpose => (serving? purpose).map fun serving =>
      (purpose, serving)) ↔ serving? purpose = some serving := by
  rw [List.mem_filterMap]
  constructor
  · rintro ⟨other, -, read⟩
    obtain ⟨value, found, same⟩ := Option.map_eq_some_iff.mp read
    cases same
    exact found
  · intro found
    exact ⟨purpose, purpose.mem_all, by rw [found]; rfl⟩

namespace Tags

/-! ### The subnets that are read -/

/-- A subnet is read for a purpose exactly when the tag of the purpose names it. -/
theorem mem_subnets_iff (tags : Tags) (purpose : SubnetPurpose) (subnet : String) :
    (purpose, subnet) ∈ tags.subnets ↔ tags[purpose.word]? = some subnet :=
  SubnetPurpose.mem_filterMap_all_iff (fun purpose => tags[purpose.word]?) purpose subnet

/-- The subnets are read in the order of their purposes. -/
theorem subnets_sorted (tags : Tags) :
    tags.subnets.Pairwise fun first second => first.1.rank < second.1.rank := by
  unfold subnets
  rw [List.pairwise_filterMap]
  refine SubnetPurpose.all_sorted.imp ?_
  intro first second before binding read other readOther
  rw [Option.map_eq_some_iff] at read readOther
  obtain ⟨_, -, rfl⟩ := read
  obtain ⟨_, -, rfl⟩ := readOther
  exact before

/-- No purpose is read twice. -/
theorem subnets_once (tags : Tags) : (tags.subnets.map (·.1)).Nodup := by
  rw [List.Nodup, List.pairwise_map]
  refine tags.subnets_sorted.imp ?_
  intro first second before same
  rw [same] at before
  exact Nat.lt_irrefl _ before

/-! ### What is written -/

/-- The tags of an owner and a purpose. -/
def ownedFor (zone : String) : Option ResourcePurpose → Tags
  | some purpose => (owned zone).withPurpose purpose
  | none => owned zone

/-- The tags of an owner, a purpose and the subnets that serve some purposes. -/
def written (zone : String) (purpose? : Option ResourcePurpose)
    (bindings : List (SubnetPurpose × String)) : Tags :=
  Declaration.bound (ownedFor zone purpose?) bindings

/-- A subnet is written under the word of its purpose and nowhere else. -/
theorem bound_getElem?_of_ne {key : String} (bindings : List (SubnetPurpose × String))
    (foreign : ∀ binding ∈ bindings, binding.1.word ≠ key) (tags : Tags) :
    (Declaration.bound tags bindings)[key]? = tags[key]? := by
  induction bindings generalizing tags with
  | nil => rfl
  | cons binding rest hyp =>
      have later := hyp (fun other member => foreign other (List.mem_cons_of_mem _ member))
        (tags.withSubnet binding.1 binding.2)
      have own := foreign binding List.mem_cons_self
      rw [withSubnet, Std.ExtTreeMap.getElem?_insert, if_neg (by simpa using own)] at later
      exact later

variable (zone : String) (purpose? : Option ResourcePurpose)
  (bindings : List (SubnetPurpose × String))

theorem written_getElem?_ownerKey : (written zone purpose? bindings)[ownerKey]? = some zone := by
  unfold written
  rw [bound_getElem?_of_ne bindings fun binding _ => word_ne_ownerKey binding.1]
  cases purpose? with
  | none => exact owner?_owned zone
  | some purpose => exact (owner?_withPurpose (owned zone) purpose).trans (owner?_owned zone)

theorem written_getElem?_purposeKey :
    (written zone purpose? bindings)[purposeKey]? = purpose?.map ResourcePurpose.word := by
  unfold written
  rw [bound_getElem?_of_ne bindings fun binding _ => word_ne_purposeKey binding.1]
  cases purpose? with
  | none => simp [ownedFor, owned, ownerKey_ne_purposeKey]
  | some purpose => simp [ownedFor, withPurpose]

theorem ownedFor_getElem?_word (purpose : SubnetPurpose) :
    (ownedFor zone purpose?)[purpose.word]? = none := by
  cases purpose? with
  | none => exact owned_getElem?_word zone purpose
  | some whole => exact (withPurpose_getElem?_word _ _ _).trans (owned_getElem?_word zone purpose)

/-- A subnet stands under a purpose exactly when it is bound to it. -/
theorem written_getElem?_word (once : (bindings.map (·.1)).Nodup) (purpose : SubnetPurpose)
    (subnet : String) :
    (written zone purpose? bindings)[purpose.word]? = some subnet ↔ (purpose, subnet) ∈ bindings := by
  constructor
  · intro read
    rcases Declaration.mem_of_bound_getElem? bindings _ read with before | member
    · rw [ownedFor_getElem?_word] at before
      cases before
    · exact member
  · intro member
    exact Declaration.bound_getElem?_of_mem purpose subnet bindings once member _

/-- Nothing stands under a key that no deployment decides. -/
theorem written_getElem?_of_foreign {key : String} (foreign : key ∉ managedKeys) :
    (written zone purpose? bindings)[key]? = none := by
  have unlike : ∀ managed ∈ managedKeys, managed ≠ key := by
    intro managed member same
    exact foreign (same ▸ member)
  have owner := unlike ownerKey ownerKey_mem_managedKeys
  have whole := unlike purposeKey purposeKey_mem_managedKeys
  unfold written
  rw [bound_getElem?_of_ne bindings fun binding _ => unlike _ (word_mem_managedKeys binding.1)]
  cases purpose? with
  | none => simp [ownedFor, owned, owner]
  | some purpose => simp [ownedFor, withPurpose, owned, owner, whole]

/-- The keys that a deployment decides, one kind after the other. -/
theorem mem_managedKeys_iff (key : String) :
    key ∈ managedKeys ↔
      key = ownerKey ∨ key = purposeKey ∨ ∃ purpose : SubnetPurpose, purpose.word = key := by
  simp only [managedKeys, List.mem_cons, List.mem_map]
  constructor
  · rintro (owner | whole | ⟨purpose, -, word⟩)
    · exact .inl owner
    · exact .inr (.inl whole)
    · exact .inr (.inr ⟨purpose, word⟩)
  · rintro (owner | whole | ⟨purpose, word⟩)
    · exact .inl owner
    · exact .inr (.inl whole)
    · exact .inr (.inr ⟨purpose, purpose.mem_all, word⟩)

/-- **The tags have a key for the owner, one for the purpose where there is one, and one for each
purpose that has a subnet.** There is no other key. -/
theorem mem_written_iff (once : (bindings.map (·.1)).Nodup) (key : String) :
    key ∈ written zone purpose? bindings ↔
      key = ownerKey ∨ (key = purposeKey ∧ purpose?.isSome) ∨
        ∃ binding ∈ bindings, binding.1.word = key := by
  rw [Std.ExtTreeMap.mem_iff_isSome_getElem?]
  constructor
  · intro present
    by_cases managed : key ∈ managedKeys
    · rcases (mem_managedKeys_iff key).mp managed with owner | whole | ⟨purpose, rfl⟩
      · exact .inl owner
      · rw [whole, written_getElem?_purposeKey, Option.isSome_map] at present
        exact .inr (.inl ⟨whole, present⟩)
      · obtain ⟨subnet, read⟩ := Option.isSome_iff_exists.mp present
        have member := (written_getElem?_word zone purpose? bindings once purpose subnet).mp read
        exact .inr (.inr ⟨(purpose, subnet), member, rfl⟩)
    · rw [written_getElem?_of_foreign zone purpose? bindings managed] at present
      cases present
  · rintro (rfl | ⟨rfl, whole⟩ | ⟨⟨purpose, subnet⟩, member, rfl⟩)
    · rw [written_getElem?_ownerKey]
      rfl
    · rw [written_getElem?_purposeKey, Option.isSome_map]
      exact whole
    · rw [(written_getElem?_word zone purpose? bindings once purpose subnet).mpr member]
      rfl

/-! ### Reading and writing again -/

/-- The tags that the readings of some tags would be written as. -/
def rewritten? (tags : Tags) : Option Tags :=
  tags.owner?.map fun zone => written zone tags.purpose? tags.subnets

/-- The tags whose values a deployment decides. -/
def managed (tags : Tags) : Tags := tags.filter fun key _ => managedKeys.contains key

theorem managed_getElem? (tags : Tags) (key : String) :
    tags.managed[key]? = if key ∈ managedKeys then tags[key]? else none := by
  unfold managed
  rw [Std.ExtTreeMap.getElem?_filter']
  by_cases member : key ∈ managedKeys
  · cases tags[key]? <;> simp [member]
  · simp [member]

/-- The word of a known purpose is read and written as it was. -/
theorem map_word_purpose? {tags : Tags}
    (known : ∀ word, tags[purposeKey]? = some word → ∃ purpose : ResourcePurpose, purpose.word = word) :
    tags.purpose?.map ResourcePurpose.word = tags[purposeKey]? := by
  unfold purpose?
  cases found : tags[purposeKey]? with
  | none => rfl
  | some word =>
      obtain ⟨purpose, rfl⟩ := known word found
      simp [ResourcePurpose.ofWord?_word]

/-- **What is read and written again are the tags that a deployment decides**, unless the purpose is a
word that stands for none. -/
theorem rewritten?_eq_managed {tags : Tags} (owned : tags.owner?.isSome)
    (known : ∀ word, tags[purposeKey]? = some word → ∃ purpose : ResourcePurpose, purpose.word = word) :
    tags.rewritten? = some tags.managed := by
  obtain ⟨zone, owner⟩ := Option.isSome_iff_exists.mp owned
  unfold rewritten?
  rw [owner, Option.map_some]
  congr 1
  apply Std.ExtTreeMap.ext_getElem?
  intro key
  rw [managed_getElem?]
  by_cases member : key ∈ managedKeys
  · rw [if_pos member]
    rcases (mem_managedKeys_iff key).mp member with rfl | rfl | ⟨purpose, rfl⟩
    · exact (written_getElem?_ownerKey ..).trans owner.symm
    · exact (written_getElem?_purposeKey ..).trans (map_word_purpose? known)
    · apply Option.ext
      intro subnet
      rw [written_getElem?_word _ _ _ tags.subnets_once, mem_subnets_iff]
  · rw [if_neg member]
    exact written_getElem?_of_foreign _ _ _ member

end Tags

/-! ### The tags of a declaration -/

theorem Declaration.tags_eq_written (zone : String) (declaration : Declaration) :
    declaration.tags zone = Tags.written zone declaration.purpose declaration.bindings := by
  rw [tags_eq_bound, Tags.written, purposed]
  cases declaration.purpose <;> rfl

/-- The subnets that are read back are the bindings in the order of their purposes. -/
theorem Declaration.Proper.subnets_perm {declaration : Declaration} (proper : declaration.Proper)
    (zone : String) : (declaration.tags zone).subnets.Perm declaration.bindings := by
  have read : (declaration.tags zone).subnets.Nodup := (Tags.subnets_once _).of_map
  have bound : declaration.bindings.Nodup := proper.once.of_map
  rw [List.perm_ext_iff_of_nodup read bound]
  rintro ⟨purpose, subnet⟩
  rw [Tags.mem_subnets_iff]
  exact declaration.tags_getElem?_word_eq_some_iff zone proper.once purpose subnet

/-- **Tags lose nothing.** Whatever steps have led to a blueprint, the tags of each planned resource
give back the landing zone, the purpose and the bindings, each purpose once and in order, and they have
no other key. Of tags with an owner, and with a purpose that is known if there is one, the three
readings make those again whose values a deployment decides. -/
theorem tags_lose_nothing :
    (∀ blueprint : Blueprint, blueprint.Built → ∀ planned ∈ blueprint.plan.resources,
      planned.tags.owner? = some blueprint.zone ∧
      planned.tags.purpose? = planned.purpose ∧
      planned.tags.subnets.Perm planned.bindings ∧
      planned.tags.subnets.Pairwise (fun first second => first.1.rank < second.1.rank) ∧
      ∀ key, key ∈ planned.tags ↔
        key = Tags.ownerKey ∨ (key = Tags.purposeKey ∧ planned.purpose.isSome) ∨
          ∃ binding ∈ planned.bindings, binding.1.word = key) ∧
    ∀ tags : Tags, tags.owner?.isSome →
      (∀ word, tags[Tags.purposeKey]? = some word →
        ∃ purpose : ResourcePurpose, purpose.word = word) →
      tags.rewritten? = some tags.managed := by
  constructor
  · intro blueprint built planned member
    obtain ⟨declaration, inside, rfl⟩ := List.mem_map.mp member
    have proper := built.proper declaration inside
    refine ⟨declaration.owner?_tags blueprint.zone, declaration.purpose?_tags blueprint.zone,
      proper.subnets_perm blueprint.zone, Tags.subnets_sorted _, ?_⟩
    intro key
    show key ∈ declaration.tags blueprint.zone ↔ _
    rw [declaration.tags_eq_written]
    exact Tags.mem_written_iff _ _ _ proper.once key
  · intro tags owned known
    exact Tags.rewritten?_eq_managed owned known

/-! ### A network whose subnets change their roles -/

/-- A shared account, and a network in which one role goes to another subnet. -/
def regrouped : Blueprint :=
  let network : NetworkDefinition :=
    { name := "vnet", region := "eastus", addresses := "10.0.0.0/16" }
  (((((⟨⟨"rg", "eastus", "sub"⟩, "", []⟩ : Blueprint).define "lz").declare
    { name := "sa", kind := .storageAccount, region := "eastus" } (some .shared)).bind
      network "front" .postgresql).bind network "back" .workspaceBatch).bind
        network "middle" .postgresql

theorem regrouped_built : regrouped.Built :=
  ((((Blueprint.Built.fresh _).define _).declare _ _ |>.bind _ _ _).bind _ _ _).bind _ _ _

/-- Tags that somebody has added a key of their own to. -/
def annotated : Tags :=
  ((Tags.written "lz" (some .monitoring) [(.aksNodePool, "nodes")]).insert "team" "blue")

theorem regrouped_tags_lose_nothing :
    regrouped.Built ∧
    regrouped.plan.resources.map (·.bindings) =
      [[], [(.workspaceBatch, "back"), (.postgresql, "middle")]] ∧
    (∀ planned ∈ regrouped.plan.resources, planned.tags.owner? = some "lz" ∧
      planned.tags.purpose? = planned.purpose ∧ planned.tags.subnets.Perm planned.bindings) ∧
    annotated.rewritten? = some annotated.managed := by
  have owned : annotated.owner?.isSome := by
    decide +kernel
  have known : ∀ word, annotated[Tags.purposeKey]? = some word →
      ∃ purpose : ResourcePurpose, purpose.word = word := by
    intro word read
    have stands : annotated[Tags.purposeKey]? = some ResourcePurpose.monitoring.word := by
      decide +kernel
    exact ⟨.monitoring, Option.some.inj (stands.symm.trans read)⟩
  refine ⟨regrouped_built, rfl, ?_, tags_lose_nothing.2 annotated owned known⟩
  intro planned member
  obtain ⟨owner, purpose, subnets, -, -⟩ :=
    tags_lose_nothing.1 regrouped regrouped_built planned member
  exact ⟨owner, purpose, subnets⟩

end Provision
