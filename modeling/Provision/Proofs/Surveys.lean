/-
**Surveys find what was delivered.**

After any history of deployments into one group, whatever a deployment of that history delivered is
found again by its purpose, and its virtual networks by the purposes of their subnets:

* `Memory.Record.Sound` is what holds of every record that a deployment adds
  (`Memory.Record.sound_ofDefinition`), `Memory.Sound` what holds of all records of a history
  (`Memory.sound_performed`);
* `Memory.subnets_of_mem` looks up the subnets of a record by its identifier;
* `Survey.resources_apply`, `Survey.resolve_of_forall` and `Survey.networks_of_sound` say what a
  survey lists;
* `surveys_find_deliveries` puts this together.
-/

import Mathlib.Data.List.Induction
import Mathlib.Data.List.Nodup
import Provision.Proofs.Blueprints
import Provision.Proofs.History
import Provision.Proofs.Identifiers
import Provision.Proofs.Standing
import Provision.Survey

namespace Provision

namespace Memory

/-- A record of a group whose identifier and type are those of its kind and name, and whose tags name
subnets that it has. -/
structure Record.Sound (home : ResourceGroup) (record : Record) : Prop where
  group : record.group = home.name
  id : record.resource.id = home.resourceId record.kind record.name
  type : record.resource.type = record.kind.type
  subnets : ∀ (purpose : SubnetPurpose) (subnet : String),
    record.resource.tags[purpose.word]? = some subnet → subnet ∈ record.subnets

/-- The record of a declaration without a fault is sound. -/
theorem Record.sound_ofDefinition {group owner : ResourceGroup} (same : owner.Same group)
    (zone : String) {declaration : Declaration} (faultless : declaration.fault? = none) :
    Record.Sound group (.ofDefinition owner declaration.definition (declaration.tags zone)) where
  group := same.1
  id := ResourceGroup.Same.resourceId same _ _
  type := rfl
  subnets := fun _ _ tagged =>
    Declaration.subnet_of_binding faultless (Declaration.mem_bindings_of_tags_getElem? tagged)

/-- Sound records of a group, of which no two have the same key. -/
structure Sound (group : ResourceGroup) (records : List Record) : Prop where
  distinct : (records.map Record.key).Nodup
  sound : ∀ record ∈ records, record.Sound group

namespace Sound

variable {group : ResourceGroup} {memory after : Memory}

theorem empty (group : ResourceGroup) : Sound group [] where
  distinct := List.nodup_nil
  sound := fun _ member => (nomatch member)

/-- Declarations without a fault add sound records. -/
theorem lays {owner : ResourceGroup} {zone : String} {pending done : List Declaration}
    (sound : Sound group memory.records) (same : owner.Same group)
    (faultless : ∀ declaration ∈ done, declaration.fault? = none)
    (lays : memory.Lays owner zone pending after done) : Sound group after.records where
  distinct := by
    rw [lays.records]
    exact Scene.laid_nodup sound.distinct done
  sound := by
    intro record member
    rw [lays.records] at member
    rcases Scene.mem_laid member with old | ⟨declaration, inside, rfl⟩
    · exact sound.sound record old
    · exact Record.sound_ofDefinition same zone (faultless declaration inside)

/-- **An attempt keeps the records sound**, whatever becomes of it. -/
theorem perform (attempt : Attempt) (same : attempt.blueprint.group.Same group) (memory : Memory)
    (sound : Sound group memory.records) : Sound group (attempt.perform memory).2.records := by
  obtain ⟨done, lays, faultless⟩ := attempt.lays memory
  have before : Sound group (attempt.exposed memory).records := sound
  refine before.lays same (fun declaration member => ?_) lays
  exact Blueprint.faultless_declaration (faultless (List.ne_nil_of_mem member)) declaration
    (lays.within.subset member)

end Sound

/-- **The records of a history are sound.** -/
theorem sound_performed {group : ResourceGroup} {history : List Attempt}
    (into : ∀ attempt ∈ history, attempt.blueprint.group.Same group) {memory : Memory}
    (sound : Sound group memory.records) : Sound group (memory.performed history).records :=
  performed_invariant (Sound group) history
    (fun attempt member => Sound.perform attempt (into attempt member)) memory sound

variable {group : ResourceGroup} {memory : Memory} {record : Record}

/-- **A record is found by its identifier.** -/
theorem subnets_of_mem (sound : Sound group memory.records) (member : record ∈ memory.records) :
    memory.subnets record.resource.id = .ok (.ofNames record.resource.id record.subnets) := by
  have found : (memory.records.find? (·.resource.id == record.resource.id)).isSome := by
    rw [List.find?_isSome]
    exact ⟨record, member, beq_self_eq_true _⟩
  obtain ⟨first, holds⟩ := Option.isSome_iff_exists.mp found
  have inside := List.mem_of_find?_eq_some holds
  have alike : first.resource.id = record.resource.id := by
    simpa using List.find?_some holds
  -- one identifier is one key, and one key is one record
  have own := sound.sound record member
  have other := sound.sound first inside
  rw [own.id, other.id] at alike
  obtain ⟨kinds, names⟩ := group.resourceId_inj alike
  have keys : first.key = record.key := by
    simp only [Record.key, own.group, other.group, kinds, names]
  obtain rfl := List.inj_on_of_nodup_map sound.distinct inside member keys
  simp only [Memory.subnets, holds]

end Memory

/-! ## What a survey lists -/

theorem Subnets.getElem?_ofNames (network : String) (names : List String) (name : String) :
    (Subnets.ofNames network names)[name]? =
      if name ∈ names then some (.within network name) else none := by
  unfold ofNames
  induction names using List.reverseRecOn with
  | nil => simp
  | append_singleton names last hyp =>
      rw [List.foldl_append, List.foldl_cons, List.foldl_nil, Std.ExtTreeMap.getElem?_insert, hyp]
      by_cases same : last = name
      · simp [same]
      · have different : name ≠ last := Ne.symm same
        simp [same, different]

namespace Survey

theorem resources_apply (survey : Survey) (test : DeployedResource → Bool) (memory : Memory) :
    survey.resources Memory.provider test memory =
      (.ok (((memory.list survey.group).filter survey.covers).filter test), memory) := rfl

/-- What a survey lists are resources of the group that it looks at. -/
theorem mem_list_iff (memory : Memory) (group : ResourceGroup) (resource : DeployedResource) :
    resource ∈ memory.list group ↔
      ∃ record ∈ memory.records, record.group = group.name ∧ record.resource = resource := by
  simp [Memory.list, and_assoc]

/-- Resources that are all virtual networks with their subnets are resolved one by one. -/
theorem resolve_of_forall (found : DeployedResource → DeployedNetwork) (memory : Memory)
    (listed : List DeployedResource)
    (each : ∀ resource ∈ listed, network Memory.provider resource memory =
      (.ok (found resource), memory)) :
    resolve Memory.provider listed memory = (.ok (listed.map found), memory) := by
  induction listed with
  | nil => rfl
  | cons resource rest hyp =>
      have others := hyp fun other member => each other (List.mem_cons_of_mem _ member)
      rw [resolve, bind_apply, each resource List.mem_cons_self]
      simp only [bind_apply, others]
      rfl

end Survey

/-- The virtual network that a resource is when each of its tags names one of its subnets. -/
def DeployedNetwork.tagged (resource : DeployedResource) : DeployedNetwork where
  id := resource.id
  region := resource.region
  subnet? := fun purpose => resource.tags[purpose.word]?.map (DeployedSubnet.within resource.id)

/-- A virtual network whose tags name subnets that it has is resolved as it is tagged. -/
theorem DeployedNetwork.ofTags_ofNames (resource : DeployedResource) (names : List String)
    (present : ∀ (purpose : SubnetPurpose) (subnet : String),
      resource.tags[purpose.word]? = some subnet → subnet ∈ names) :
    DeployedNetwork.ofTags resource (.ofNames resource.id names) = .ok (.tagged resource) := by
  have none : resource.tags.subnets.find?
      (fun tagged => !(Subnets.ofNames resource.id names).contains tagged.2) = none := by
    rw [List.find?_eq_none]
    rintro ⟨purpose, subnet⟩ member
    obtain ⟨other, -, tagged⟩ := List.mem_filterMap.mp member
    obtain ⟨name, read, same⟩ := Option.map_eq_some_iff.mp tagged
    obtain ⟨rfl, rfl⟩ := Prod.mk.inj same
    have there := Subnets.getElem?_ofNames resource.id names name
    rw [if_pos (present other name read)] at there
    rw [Std.ExtTreeMap.contains_eq_isSome_getElem?, there]
    simp
  unfold ofTags
  rw [none]
  simp only [tagged, Except.ok.injEq, DeployedNetwork.mk.injEq, true_and]
  funext purpose
  cases read : resource.tags[purpose.word]? with
  | none => rfl
  | some name =>
      rw [Option.bind_some, Subnets.getElem?_ofNames, if_pos (present purpose name read)]
      rfl

namespace Survey

variable {group : ResourceGroup} {memory : Memory}

/-- **Every survey of sound records succeeds.** -/
theorem networks_of_sound (sound : Memory.Sound group memory.records) (survey : Survey)
    (purpose : SubnetPurpose) :
    survey.networks Memory.provider purpose memory =
      (.ok ((((memory.list survey.group).filter survey.covers).filter
        (isNetworkFor purpose)).map .tagged), memory) := by
  rw [networks, bind_apply, resources_apply]
  refine resolve_of_forall DeployedNetwork.tagged memory _ fun resource member => ?_
  have listed := List.mem_of_mem_filter (List.mem_of_mem_filter member)
  obtain ⟨record, inside, -, rfl⟩ := (mem_list_iff memory survey.group resource).mp listed
  rw [network, bind_apply]
  simp only [Memory.provider, Memory.subnets_of_mem sound inside]
  rw [DeployedNetwork.ofTags_ofNames _ _ (sound.sound record inside).subnets]
  rfl

end Survey

/-- **A history leaves what each of its deployments delivered**, as long as it goes on. -/
theorem Attempt.stand_of_perform {attempt : Attempt} {memory : Memory}
    {made : List DeployedResource} (delivered : (attempt.perform memory).1 = some (.ok made))
    (later : List Attempt) :
    List.Forall₂ (Declaration.Stands attempt.blueprint.group attempt.blueprint.zone
      ((attempt.perform memory).2.performed later).records) attempt.blueprint.declarations made := by
  have kept := Memory.prefix_performed (attempt.perform memory).2 later
  unfold perform at delivered kept ⊢
  cases whole : attempt.items? with
  | some count =>
      rw [whole] at delivered
      cases delivered
  | none =>
      rw [whole] at delivered kept
      have result : (attempt.blueprint.deploy Memory.provider (attempt.exposed memory)).1 = .ok made :=
        Option.some.inj delivered
      obtain ⟨done, lays, -, complete⟩ := attempt.blueprint.lays_deploy (attempt.exposed memory)
      obtain ⟨-, rfl, realised⟩ := complete made result
      have stand := Scene.stands_of_verdicts realised
      rw [← lays.records] at stand
      exact stand.imp fun _ _ stands => stands.grows kept

/-! ## What was delivered is found -/

namespace Declaration.Stands

variable {group owner : ResourceGroup} {zone : String} {memory : Memory} {declaration : Declaration}
  {resource : DeployedResource}

/-- A survey of the landing zone looks at what stands for a declaration. -/
theorem mem_list (stands : declaration.Stands owner zone memory.records resource)
    (same : owner.Same group) :
    resource ∈ (memory.list group).filter
      (Survey.covers { group := group, zone? := some zone }) := by
  have owned := stands.owner?
  obtain ⟨⟨record, inside, rfl, key⟩, -⟩ := stands
  refine List.mem_filter.mpr ⟨(Survey.mem_list_iff ..).mpr ⟨record, inside, ?_, rfl⟩, ?_⟩
  · have name : record.group = owner.name := congrArg Prod.fst key
    rw [name, same.1]
  · simp [Survey.covers, owned]

/-- What stands for a declaration with a purpose is listed under that purpose. -/
theorem mem_withPurpose (stands : declaration.Stands owner zone memory.records resource)
    (same : owner.Same group) {purpose : ResourcePurpose}
    (declared : declaration.purpose = some purpose) :
    ∃ listed, (Survey.withPurpose { group := group, zone? := some zone } Memory.provider purpose
      memory).1 = .ok listed ∧ resource ∈ listed := by
  refine ⟨_, rfl, List.mem_filter.mpr ⟨stands.mem_list same, ?_⟩⟩
  have read : resource.tags.purpose? = some purpose := by
    rw [← stands.2.purpose?, Declaration.purpose?_tags, declared]
  simp [Survey.serves, read]

/-- The subnets by which a virtual network is tagged are those that its declaration binds. -/
theorem tagged_subnet?_iff (stands : declaration.Stands owner zone memory.records resource)
    (proper : declaration.Proper) (purpose : SubnetPurpose) (subnet : DeployedSubnet) :
    (DeployedNetwork.tagged resource).subnet? purpose = some subnet ↔
      ∃ name, (purpose, name) ∈ declaration.bindings ∧
        subnet = ⟨subnetId resource.id name, name⟩ := by
  have read (name : String) : resource.tags[purpose.word]? = some name ↔
      (purpose, name) ∈ declaration.bindings := by
    rw [← stands.2.word purpose]
    exact Declaration.tags_getElem?_word_eq_some_iff zone declaration proper.once purpose name
  simp only [DeployedNetwork.tagged, Option.map_eq_some_iff, read]
  exact exists_congr fun name => and_congr_right fun _ => eq_comm

/-- What stands for a declaration that binds a purpose is listed among the virtual networks for that
purpose. -/
theorem mem_networks (stands : declaration.Stands owner zone memory.records resource)
    (same : owner.Same group) (sound : Memory.Sound group memory.records)
    (proper : declaration.Proper) {purpose : SubnetPurpose}
    (bound : purpose ∈ declaration.bindings.map (·.1)) :
    ∃ networks, (Survey.networks { group := group, zone? := some zone } Memory.provider purpose
      memory).1 = .ok networks ∧ DeployedNetwork.tagged resource ∈ networks := by
  rw [Survey.networks_of_sound sound]
  refine ⟨_, rfl, List.mem_map_of_mem (List.mem_filter.mpr ⟨stands.mem_list same, ?_⟩)⟩
  obtain ⟨⟨other, name⟩, member, rfl⟩ := List.mem_map.mp bound
  have tag : resource.tags[other.word]? = some name := by
    rw [← stands.2.word other]
    exact (Declaration.tags_getElem?_word_eq_some_iff zone declaration proper.once other name).mpr
      member
  obtain ⟨⟨record, inside, rfl, key⟩, -⟩ := stands
  have kind : record.kind = .virtualNetwork := by
    have declared : record.kind = declaration.definition.kind :=
      congrArg (fun key => key.2.1) key
    rw [declared, proper.network (List.ne_nil_of_mem member)]
  have type : record.resource.isKind .virtualNetwork = true := by
    rw [DeployedResource.isKind, (sound.sound record inside).type, kind]
    exact ResourceKind.hasType_type _
  simp [Survey.isNetworkFor, type, Std.ExtTreeMap.contains_eq_isSome_getElem?, tag]

end Declaration.Stands

/-- **Surveys find what was delivered.** After any history of deployments into one group, every survey
of virtual networks succeeds; and whatever a deployment of the history has delivered is listed, by a
survey of its landing zone, under the purpose that it was declared with, and among the virtual
networks for each purpose that it was bound to, with exactly the subnets that were bound. -/
theorem surveys_find_deliveries (group : ResourceGroup) (history : List Attempt)
    (into : ∀ attempt ∈ history, attempt.blueprint.Built ∧ attempt.blueprint.group.Same group) :
    let memory := ({} : Memory).performed history
    (∀ (survey : Survey) (purpose : SubnetPurpose), ∃ networks,
      (survey.networks Memory.provider purpose memory).1 = .ok networks) ∧
    ∀ (earlier later : List Attempt) (attempt : Attempt) (made : List DeployedResource),
      history = earlier ++ attempt :: later →
      (attempt.perform (({} : Memory).performed earlier)).1 = some (.ok made) →
      let survey : Survey := { group := group, zone? := some attempt.blueprint.zone }
      List.Forall₂ (fun declaration resource =>
        (∀ purpose, declaration.purpose = some purpose → ∃ listed,
          (survey.withPurpose Memory.provider purpose memory).1 = .ok listed ∧ resource ∈ listed) ∧
        (∀ purpose ∈ declaration.bindings.map (·.1), ∃ networks,
          (survey.networks Memory.provider purpose memory).1 = .ok networks ∧
          ∃ network ∈ networks, network.id = resource.id ∧
            ∀ other subnet, network.subnet? other = some subnet ↔
              ∃ name, (other, name) ∈ declaration.bindings ∧
                subnet = ⟨subnetId resource.id name, name⟩))
        attempt.blueprint.declarations made := by
  intro memory
  have sound : Memory.Sound group memory.records :=
    Memory.sound_performed (fun attempt member => (into attempt member).2) (.empty group)
  refine ⟨fun survey purpose => ⟨_, congrArg Prod.fst (Survey.networks_of_sound sound survey purpose)⟩,
    ?_⟩
  intro earlier later attempt made split delivered survey
  obtain ⟨built, same⟩ := into attempt (by simp [split])
  have reached : memory =
      (attempt.perform (({} : Memory).performed earlier)).2.performed later := by
    rw [← Memory.performed_cons, ← Memory.performed_append, ← split]
  have stand := Attempt.stand_of_perform delivered later
  rw [← reached] at stand
  refine List.forall₂_iff_get.mpr ⟨stand.length_eq, fun place left right => ?_⟩
  have stands := List.Forall₂.get stand left right
  have proper := built.proper _ (List.get_mem _ ⟨place, left⟩)
  refine ⟨fun purpose declared => stands.mem_withPurpose same declared, fun purpose bound => ?_⟩
  obtain ⟨networks, listed, member⟩ := stands.mem_networks same sound proper bound
  exact ⟨networks, listed, _, member, rfl, stands.tagged_subnet?_iff proper⟩

/-- A virtual network with a subnet for clusters and one for databases. -/
def campus : NetworkDefinition where
  name := "vnet"
  region := "eastus"
  addresses := "10.0.0.0/16"
  subnets := [⟨"nodes", "10.0.0.0/24"⟩, ⟨"data", "10.0.1.0/24"⟩]

/-- A blueprint with a shared storage account and both subnets of the network in use. -/
def campusBlueprint (zone : String) : Blueprint :=
  ((((⟨⟨"rg", "eastus", "sub"⟩, "", []⟩ : Blueprint).define zone).declare
    { name := "sa", kind := .storageAccount, region := "eastus" } (some .shared)).bind
      campus "nodes" .aksNodePool).bind campus "data" .postgresql

theorem campusBlueprint_built (zone : String) : (campusBlueprint zone).Built :=
  (((Blueprint.Built.fresh _).define zone).declare _ _ |>.bind _ _ _).bind _ _ _

/-- A deployment fails at the network, the next one is abandoned after the storage account, the third
one takes that over and comes to its end, and another landing zone fails after it. -/
def campusHistory : List Attempt :=
  [{ blueprint := campusBlueprint "lz", failing := ["vnet"] },
    { blueprint := campusBlueprint "lz", items? := some 1 },
    { blueprint := campusBlueprint "lz" }, { blueprint := campusBlueprint "other" }]

/-- The resources that the third deployment delivers. -/
def campusResources : List DeployedResource :=
  (campusBlueprint "lz").declarations.map fun declaration =>
    (Scene.record ⟨(campusBlueprint "lz").group, "lz", []⟩ declaration).resource

/-- What the third deployment has delivered is found after the fourth one. -/
theorem campus_surveys_find_deliveries :
    let memory := ({} : Memory).performed campusHistory
    let survey : Survey := { group := ⟨"rg", "eastus", "sub"⟩, zone? := some "lz" }
    (∀ attempt ∈ campusHistory, attempt.blueprint.Built ∧
      attempt.blueprint.group.Same ⟨"rg", "eastus", "sub"⟩) ∧
    (Attempt.perform { blueprint := campusBlueprint "lz" }
      (({} : Memory).performed (campusHistory.take 2))).1 = some (.ok campusResources) ∧
    (∃ networks, (survey.networks Memory.provider .postgresql memory).1 = .ok networks) ∧
    campusResources.length = 2 := by
  intro memory survey
  have into : ∀ attempt ∈ campusHistory, attempt.blueprint.Built ∧
      attempt.blueprint.group.Same ⟨"rg", "eastus", "sub"⟩ := by
    intro attempt member
    simp only [campusHistory, List.mem_cons, List.not_mem_nil, or_false] at member
    rcases member with rfl | rfl | rfl | rfl
    all_goals exact ⟨campusBlueprint_built _, rfl, rfl⟩
  have delivered : (Attempt.perform { blueprint := campusBlueprint "lz" }
      (({} : Memory).performed (campusHistory.take 2))).1 = some (.ok campusResources) := by
    decide +kernel
  obtain ⟨every, found⟩ := surveys_find_deliveries ⟨"rg", "eastus", "sub"⟩ campusHistory into
  have found := found (campusHistory.take 2) (campusHistory.drop 3) _ campusResources rfl delivered
  exact ⟨into, delivered, every survey .postgresql, found.length_eq.symm⟩

end Provision
