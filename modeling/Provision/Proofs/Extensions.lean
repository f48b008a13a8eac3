/-
**Networks that are bound bit by bit.**

Subnets are bound one after the other, and each time the network is given along with the subnet. The
definition that comes first is the one that is declared, whatever the later ones say:

* `Assignment` is one such binding, `Blueprint.assign` the blueprint after several;
* `Blueprint.definition_of_first` — a network is declared as it was given first, and once only
  (`Blueprint.networks_assign`);
* `Blueprint.assign_faultless_iff` — there is no fault exactly when each subnet that stays bound is one
  of the network as it was given first;
* `Blueprint.exists_subnet_of_realised` — what is bound is there after a deployment;
* **`first_definitions_decide`** puts this together; `grown_network_is_refused` is a network to which a
  subnet is added in between.
-/

import Provision.Proofs.Clashes
import Provision.Proofs.Drafts
import Provision.Proofs.Surveys

namespace Provision

/-- A subnet of a virtual network, and the purpose that it is to serve. -/
structure Assignment where
  network : NetworkDefinition
  subnet : String
  purpose : SubnetPurpose

namespace Assignment

/-- The step that makes the assignment. -/
def step (call : Assignment) : Blueprint.Step := .bind call.network call.subnet call.purpose

/-- The first assignment for the network with a name. -/
def first? (calls : List Assignment) (name : String) : Option Assignment :=
  calls.find? (·.network.name = name)

theorem first?_mem {calls : List Assignment} {name : String} {first : Assignment}
    (found : first? calls name = some first) : first ∈ calls ∧ first.network.name = name :=
  ⟨List.mem_of_find?_eq_some found, by simpa using List.find?_some found⟩

theorem first?_concat (calls : List Assignment) (call : Assignment) (name : String) :
    first? (calls ++ [call]) name =
      (first? calls name).or (if call.network.name = name then some call else none) := by
  unfold first?
  rw [List.find?_append]
  by_cases named : call.network.name = name <;> simp [named]

end Assignment

/-- A network has the subnets of any network all of whose subnets it has. -/
theorem NetworkDefinition.hasSubnet_mono {network larger : NetworkDefinition}
    (contained : network.subnets ⊆ larger.subnets) {name : String}
    (there : network.toResource.hasSubnet name = true) : larger.toResource.hasSubnet name = true := by
  obtain ⟨subnet, member, same⟩ := List.any_eq_true.mp there
  exact List.any_eq_true.mpr ⟨subnet, contained member, same⟩

/-! ### What is declared -/

/-- A binding adds a definition only if there is no network of its name. -/
theorem definitions_bindSubnet (network : NetworkDefinition) (subnet : String)
    (purpose : SubnetPurpose) (declarations : List Declaration) :
    (bindSubnet network subnet purpose declarations).map (·.definition) =
      declarations.map (·.definition) ++
        if declarations.any (·.isNetwork network.name) then [] else [network.toResource] := by
  have definitions := congrArg (List.map Prod.fst)
    (heading_bindSubnet network subnet purpose declarations)
  rw [List.map_append, List.map_map, List.map_map] at definitions
  refine definitions.trans ?_
  by_cases planned : declarations.any (·.isNetwork network.name) = true
  · rw [if_pos planned, if_pos planned]
    rfl
  · rw [if_neg planned, if_neg planned]
    rfl

/-- The definitions are those of virtual networks with different names. -/
structure OfNetworks (definitions : List ResourceDefinition) : Prop where
  kind : ∀ definition ∈ definitions, definition.kind = .virtualNetwork
  once : (definitions.map (·.name)).Nodup

theorem OfNetworks.concat {definitions : List ResourceDefinition} (networks : OfNetworks definitions)
    {network : NetworkDefinition} (new : network.name ∉ definitions.map (·.name)) :
    OfNetworks (definitions ++ [network.toResource]) where
  kind := List.forall_mem_append.mpr ⟨networks.kind, List.forall_mem_singleton.mpr rfl⟩
  once := by
    rw [List.map_append, List.map_singleton, ← List.concat_eq_append]
    exact List.Nodup.concat new networks.once

/-- A binding declares no network a second time. -/
theorem OfNetworks.bindSubnet {declarations : List Declaration}
    (networks : OfNetworks (declarations.map (·.definition))) (network : NetworkDefinition)
    (subnet : String) (purpose : SubnetPurpose) :
    OfNetworks ((bindSubnet network subnet purpose declarations).map (·.definition)) := by
  rw [definitions_bindSubnet]
  by_cases planned : declarations.any (·.isNetwork network.name) = true
  · rwa [if_pos planned, List.append_nil]
  · rw [if_neg planned]
    refine networks.concat fun taken => planned ?_
    rw [List.map_map] at taken
    obtain ⟨declaration, member, named⟩ := List.mem_map.mp taken
    have kind := networks.kind _ (List.mem_map_of_mem member)
    exact List.any_eq_true.mpr ⟨declaration, member, by simp [Declaration.isNetwork, kind, ← named]⟩

/-- Every declaration of a network is the first one of its name. -/
theorem OfNetworks.find?_self {declarations : List Declaration}
    (networks : OfNetworks (declarations.map (·.definition))) {declaration : Declaration}
    (member : declaration ∈ declarations) :
    declarations.find? (·.isNetwork declaration.definition.name) = some declaration := by
  have once := networks.once
  rw [List.map_map] at once
  have kind := networks.kind _ (List.mem_map_of_mem member)
  have own : declaration.isNetwork declaration.definition.name = true := by
    simp [Declaration.isNetwork, kind]
  obtain ⟨first, found⟩ := Option.isSome_iff_exists.mp
    (List.find?_isSome.mpr ⟨declaration, member, own⟩)
  have alike := List.find?_some found
  simp only [Declaration.isNetwork, Bool.and_eq_true, beq_iff_eq] at alike
  rw [found, List.inj_on_of_nodup_map once (List.mem_of_find?_eq_some found) member alike.2]

namespace Blueprint

/-- The blueprint after several assignments. -/
def assign (blueprint : Blueprint) (calls : List Assignment) : Blueprint :=
  blueprint.after (calls.map Assignment.step)

variable (base : Blueprint) (zone : String) (calls : List Assignment)

theorem assign_concat (blueprint : Blueprint) (call : Assignment) :
    blueprint.assign (calls ++ [call]) =
      (blueprint.assign calls).bind call.network call.subnet call.purpose := by
  rw [assign, List.map_append, List.map_singleton, after_concat]
  rfl

/-- Assignments declare networks, and each of them once. -/
theorem networks_assign :
    OfNetworks (((base.define zone).assign calls).declarations.map (·.definition)) := by
  induction calls using List.reverseRecOn with
  | nil => exact ⟨fun _ member => (nomatch member), List.nodup_nil⟩
  | append_singleton calls call hyp =>
      rw [assign_concat]
      exact hyp.bindSubnet call.network call.subnet call.purpose

/-- **A network is declared as it was given first.** -/
theorem definition_of_first (name : String) :
    (((base.define zone).assign calls).declarations.find? (·.isNetwork name)).map (·.definition) =
      (Assignment.first? calls name).map (·.network.toResource) := by
  induction calls using List.reverseRecOn with
  | nil => rfl
  | append_singleton calls call hyp =>
      rw [assign_concat, Assignment.first?_concat, Option.map_or, ← hyp]
      have found := find?_bindSubnet name call.network call.subnet call.purpose
        ((base.define zone).assign calls).declarations
      refine (congrArg (Option.map (·.definition)) found).trans ?_
      by_cases named : call.network.name = name
      · rw [if_pos named, if_pos named]
        cases ((base.define zone).assign calls).declarations.find? (·.isNetwork name) <;> rfl
      · rw [if_neg named, if_neg named, Option.map_none, Option.or_none]

variable {calls}

/-- The network of the first assignment of a name is declared. -/
theorem exists_declaration_of_first {name : String} {first : Assignment}
    (found : Assignment.first? calls name = some first) :
    ∃ declaration ∈ ((base.define zone).assign calls).declarations,
      declaration.definition = first.network.toResource := by
  have definitions := definition_of_first base zone calls name
  rw [found, Option.map_some] at definitions
  obtain ⟨declaration, here, same⟩ := Option.map_eq_some_iff.mp definitions
  exact ⟨declaration, List.mem_of_find?_eq_some here, same⟩

/-- A binding that stands is one of a declaration. -/
theorem exists_declaration_of_standing {name : String} {binding : SubnetPurpose × String}
    {steps : List Step} (stands : binding ∈ standing name steps) :
    ∃ declaration ∈ ((base.define zone).after steps).declarations,
      declaration.definition.name = name ∧ declaration.bindings = standing name steps := by
  cases found : ((base.define zone).after steps).declarations.find? (·.isNetwork name) with
  | none =>
      rw [← bindingsOf_after base zone name steps, bindingsOf, found] at stands
      cases stands
  | some declaration =>
      have own := List.find?_some found
      simp only [Declaration.isNetwork, Bool.and_eq_true, beq_iff_eq] at own
      exact ⟨declaration, List.mem_of_find?_eq_some found, own.2,
        bindings_of_first base zone steps found⟩

variable {base zone} {declaration : Declaration}

/-- What is declared by assignments: the network of the first assignment of its name, with the bindings
that stand for it. -/
theorem exists_first_of_declaration
    (member : declaration ∈ ((base.define zone).assign calls).declarations) :
    ∃ first, Assignment.first? calls declaration.definition.name = some first ∧
      declaration.definition = first.network.toResource ∧
      declaration.bindings = standing declaration.definition.name (calls.map Assignment.step) := by
  have found := (networks_assign base zone calls).find?_self member
  have definitions := definition_of_first base zone calls declaration.definition.name
  rw [found, Option.map_some] at definitions
  obtain ⟨first, here, same⟩ := Option.map_eq_some_iff.mp definitions.symm
  exact ⟨first, here, same.symm, bindings_of_first base zone (calls.map Assignment.step) found⟩

/-! ### What is examined -/

/-- **A subnet that stays bound has to be one of the network as it was given first.** There is no other
fault, if the landing zone has an identifier and each network a name. -/
theorem assign_faultless_iff (named : Text.isBlank zone = false)
    (networks : ∀ call ∈ calls, Text.isBlank call.network.name = false) :
    ((base.define zone).assign calls).fault? = none ↔
      ∀ name first, Assignment.first? calls name = some first →
        ∀ binding ∈ standing name (calls.map Assignment.step),
          first.network.toResource.hasSubnet binding.2 = true := by
  rw [fault?_eq_none_iff]
  constructor
  · rintro ⟨-, faultless⟩ name first found
    obtain ⟨declaration, member, definition⟩ := exists_declaration_of_first base zone found
    have own : declaration.definition.name = name := by
      rw [definition]
      exact (Assignment.first?_mem found).2
    obtain ⟨-, -, -, bindings⟩ := exists_first_of_declaration member
    rw [← definition, ← own, ← bindings]
    exact ((declaration.fault?_eq_none_iff).mp (faultless declaration member)).2
  · intro there
    refine ⟨(after_zone _ _).symm ▸ named, fun declaration member => ?_⟩
    obtain ⟨first, found, definition, bindings⟩ := exists_first_of_declaration member
    rw [declaration.fault?_eq_none_iff]
    obtain ⟨inside, same⟩ := Assignment.first?_mem found
    refine ⟨same ▸ networks first inside, ?_⟩
    rw [bindings, definition]
    rw [definition] at found
    exact there _ first found

/-- A binding that stands was made by a step. -/
theorem exists_step_of_mem_standing {name : String} {binding : SubnetPurpose × String}
    {steps : List Step} (stands : binding ∈ standing name steps) :
    ∃ network : NetworkDefinition, network.name = name ∧
      Step.bind network binding.2 binding.1 ∈ steps := by
  induction steps with
  | nil => cases stands
  | cons step rest hyp =>
      have later : binding ∈ standing name rest → ∃ network : NetworkDefinition,
          network.name = name ∧ Step.bind network binding.2 binding.1 ∈ step :: rest := by
        intro further
        obtain ⟨network, named, member⟩ := hyp further
        exact ⟨network, named, List.mem_cons_of_mem _ member⟩
      cases step with
      | declare definition purpose => exact later stands
      | bind network subnet purpose =>
          unfold standing at stands
          split at stands
          next own =>
            rcases List.mem_cons.mp stands with rfl | further
            · exact ⟨network, own.1, List.mem_cons_self⟩
            · exact later further
          next => exact later stands

/-- A fault is about the subnet of some assignment that the first network of its name does not have. -/
theorem exists_call_of_fault (named : Text.isBlank zone = false)
    (networks : ∀ call ∈ calls, Text.isBlank call.network.name = false) {fault : Fault}
    (faulty : ((base.define zone).assign calls).fault? = some fault) :
    ∃ call ∈ calls, fault = .undefinedSubnet call.purpose call.subnet call.network.name ∧
      ∃ first, Assignment.first? calls call.network.name = some first ∧
        first.network.toResource.hasSubnet call.subnet = false := by
  unfold fault? at faulty
  rw [if_neg (by rw [assign, after_zone]; exact Bool.eq_false_iff.mp named)] at faulty
  obtain ⟨declaration, member, own⟩ := List.exists_of_findSome?_eq_some faulty
  obtain ⟨first, found, definition, bindings⟩ := exists_first_of_declaration member
  obtain ⟨inside, same⟩ := Assignment.first?_mem found
  unfold Declaration.fault? at own
  rw [if_neg (same ▸ Bool.eq_false_iff.mp (networks first inside))] at own
  obtain ⟨binding, missing, rfl⟩ := Option.map_eq_some_iff.mp own
  have stands := List.mem_of_find?_eq_some missing
  rw [bindings] at stands
  obtain ⟨network, alike, made⟩ := exists_step_of_mem_standing stands
  obtain ⟨call, among, step⟩ := List.mem_map.mp made
  simp only [Assignment.step, Step.bind.injEq] at step
  obtain ⟨rfl, subnet, purpose⟩ := step
  have lacking : declaration.definition.hasSubnet binding.2 = false := by
    simpa using List.find?_some missing
  refine ⟨call, among, by rw [subnet, purpose, alike], first, alike ▸ found, ?_⟩
  rw [subnet, ← definition, lacking]

/-! ### What is deployed -/

/-- No two networks of one name are planned. -/
theorem coherent_assign : ((base.define zone).assign calls).plan.Coherent := by
  intro one first other second kind name
  have once := (networks_assign base zone calls).once
  rw [List.map_map] at once
  obtain ⟨declaration, member, rfl⟩ := List.mem_map.mp first
  obtain ⟨alike, also, rfl⟩ := List.mem_map.mp second
  rw [List.inj_on_of_nodup_map once member also name]

end Blueprint

/-- **What is bound is there after a deployment** into a memory in which nothing is stored. -/
theorem Blueprint.exists_subnet_of_realised {blueprint : Blueprint} {memory : Memory}
    (built : blueprint.Built) (faultless : blueprint.fault? = none) (empty : memory.records = [])
    {made : List DeployedResource}
    (realised : (blueprint.sceneIn memory).verdicts memory.records blueprint.declarations =
      made.map .ok)
    {declaration : Declaration} (member : declaration ∈ blueprint.declarations)
    {binding : SubnetPurpose × String} (bound : binding ∈ declaration.bindings) :
    let network := blueprint.group.resourceId .virtualNetwork declaration.definition.name
    ∃ subnets, (blueprint.deploy Memory.provider memory).2.subnets network = .ok subnets ∧
      subnets[binding.2]? = some (.within network binding.2) := by
  intro network
  have proper := built.proper declaration member
  have records : (blueprint.deploy Memory.provider memory).2.records =
      (blueprint.sceneIn memory).laid blueprint.declarations [] := by
    rw [(deploy_of_realised faultless realised).2, Memory.after_records, empty]
  have sound : Memory.Sound blueprint.group
      (blueprint.deploy Memory.provider memory).2.records := by
    rw [records]
    have distinct : (([] : List Memory.Record).map Memory.Record.key).Nodup := List.nodup_nil
    refine ⟨Scene.laid_nodup distinct _, fun record inside => ?_⟩
    rcases Scene.mem_laid inside with old | ⟨other, among, rfl⟩
    · cases old
    · exact Memory.Record.sound_ofDefinition (.refl _) blueprint.zone
        (faultless_declaration faultless other among)
  -- the record of the resource that stands for the declaration has the subnets that its tags name
  rw [empty] at realised
  have stand := Scene.stands_of_verdicts realised
  obtain ⟨index, within, rfl⟩ := List.mem_iff_getElem.mp member
  obtain ⟨⟨record, inside, same, key⟩, agree⟩ := stand.get within (stand.length_eq ▸ within)
  rw [← same] at agree
  have stored : record ∈ (blueprint.deploy Memory.provider memory).2.records := records ▸ inside
  have own := sound.sound record stored
  have tagged : record.resource.tags[binding.1.word]? = some binding.2 := by
    rw [← agree.word]
    exact (Declaration.tags_getElem?_word_eq_some_iff _ _ proper.once _ _).mpr bound
  have place : record.resource.id = network := by
    obtain ⟨-, kind, name⟩ : _ ∧ record.kind = _ ∧ record.name = _ := by
      simpa [Memory.Record.key, Declaration.key] using key
    rw [own.id, kind, name, proper.network (List.ne_nil_of_mem bound)]
  refine ⟨_, place ▸ Memory.subnets_of_mem sound stored, ?_⟩
  rw [Subnets.getElem?_ofNames, if_pos (own.subnets _ _ tagged)]

/-- **The definition that comes first decides.** Subnets are bound one after the other, each of them one
of the network that it is given with, and neither the landing zone nor a network is without a name.

* There is no fault exactly when each binding that stands is to a subnet of the network as it was given
  first. That is so if no network of that name comes with subnets that the first one does not have.
* Any fault is about a subnet that was given with its own network.
* Without a fault, a deployment where nothing is stored and nothing fails delivers one resource for each
  network, and each subnet that is bound is there. -/
theorem first_definitions_decide (base : Blueprint) (zone : String) (calls : List Assignment)
    (named : Text.isBlank zone = false)
    (networks : ∀ call ∈ calls, Text.isBlank call.network.name = false)
    (declared : ∀ call ∈ calls, call.network.toResource.hasSubnet call.subnet = true) :
    let blueprint := (base.define zone).assign calls
    (blueprint.fault? = none ↔ ∀ name first, Assignment.first? calls name = some first →
      ∀ binding ∈ Blueprint.standing name (calls.map Assignment.step),
        first.network.toResource.hasSubnet binding.2 = true) ∧
    ((∀ call ∈ calls, ∀ first, Assignment.first? calls call.network.name = some first →
      call.network.subnets ⊆ first.network.subnets) → blueprint.fault? = none) ∧
    (∀ fault, blueprint.fault? = some fault → ∃ call ∈ calls,
      fault = .undefinedSubnet call.purpose call.subnet call.network.name ∧
      call.network.toResource.hasSubnet call.subnet = true ∧
      ∃ first, Assignment.first? calls call.network.name = some first ∧
        first.network.toResource.hasSubnet call.subnet = false) ∧
    ∀ memory : Memory, memory.records = [] → memory.failing = [] → blueprint.fault? = none →
      let reply := blueprint.deploy Memory.provider memory
      (∃ made, reply.1 = .ok made ∧ made.length = blueprint.plan.resources.length) ∧
      ∀ name, ∀ binding ∈ Blueprint.standing name (calls.map Assignment.step),
        let network := base.group.resourceId .virtualNetwork name
        ∃ subnets, reply.2.subnets network = .ok subnets ∧
          subnets[binding.2]? = some (.within network binding.2) := by
  intro blueprint
  have faults : ∀ fault, blueprint.fault? = some fault → ∃ call ∈ calls,
      fault = .undefinedSubnet call.purpose call.subnet call.network.name ∧
      ∃ first, Assignment.first? calls call.network.name = some first ∧
        first.network.toResource.hasSubnet call.subnet = false :=
    fun _ => Blueprint.exists_call_of_fault named networks
  refine ⟨Blueprint.assign_faultless_iff named networks, fun contained => ?_, fun fault faulty => ?_, ?_⟩
  · refine Option.eq_none_iff_forall_ne_some.mpr fun fault faulty => ?_
    obtain ⟨call, member, -, first, found, missing⟩ := faults fault faulty
    have there := NetworkDefinition.hasSubnet_mono (contained call member first found)
      (declared call member)
    exact absurd there (Bool.eq_false_iff.mp missing)
  · obtain ⟨call, member, worded, missing⟩ := faults fault faulty
    exact ⟨call, member, worded, declared call member, missing⟩
  · intro memory empty willing faultless reply
    obtain ⟨made, realised, count⟩ := Blueprint.exists_realised_of_coherent faultless empty willing
      Blueprint.coherent_assign
    refine ⟨⟨made, congrArg (·.1) (Blueprint.deploy_of_realised faultless realised).2, count⟩, ?_⟩
    intro name binding stands network
    have home : blueprint.group = base.group := Blueprint.after_group _ _
    obtain ⟨declaration, member, rfl, bindings⟩ := Blueprint.exists_declaration_of_standing
      base zone stands
    have built : blueprint.Built := (Blueprint.built_define base zone).after _
    have there := Blueprint.exists_subnet_of_realised built faultless empty realised member
      (bindings ▸ stands)
    rwa [home] at there

/-! ### A network to which a subnet is added -/

/-- A network, and the same network with one more subnet; a subnet of each is bound. -/
def grown : List Assignment :=
  let compute : SubnetDefinition := ⟨"compute", "10.0.0.0/24"⟩
  let network : NetworkDefinition :=
    { name := "vnet1", region := "eastus", addresses := "10.0.0.0/16", subnets := [compute] }
  let larger := { network with subnets := [compute, ⟨"storage", "10.0.1.0/24"⟩] }
  [⟨network, "compute", .workspaceCompute⟩, ⟨larger, "storage", .workspaceStorage⟩]

/-- Where the larger network comes first, both subnets are there after a deployment. -/
theorem shrunk_definitions_decide :
    let base : Blueprint := { group := ⟨"rg", "eastus", "sub"⟩ }
    let blueprint := (base.define "lz").assign grown.reverse
    let reply := blueprint.deploy Memory.provider { attempts := 3 }
    let network :=
      "/subscriptions/sub/resourceGroups/rg/providers/Microsoft.Network/virtualNetworks/vnet1"
    blueprint.fault? = none ∧
    (∃ made, reply.1 = .ok made ∧ made.length = 1) ∧
    Blueprint.standing "vnet1" (grown.reverse.map Assignment.step) =
      [(.workspaceStorage, "storage"), (.workspaceCompute, "compute")] ∧
    ∃ subnets, reply.2.subnets network = .ok subnets ∧
      subnets["storage"]? = some (.within network "storage") := by
  intro base blueprint reply network
  obtain ⟨-, contained, -, deployed⟩ := first_definitions_decide base "lz" grown.reverse
    (by decide +kernel) (by decide +kernel) (by decide +kernel)
  have faultless := contained (by decide +kernel)
  obtain ⟨complete, there⟩ := deployed { attempts := 3 } rfl rfl faultless
  have bindings : Blueprint.standing "vnet1" (grown.reverse.map Assignment.step) =
      [(.workspaceStorage, "storage"), (.workspaceCompute, "compute")] := by decide +kernel
  exact ⟨faultless, complete, bindings,
    there "vnet1" (.workspaceStorage, "storage") (bindings ▸ List.mem_cons_self)⟩

/-- **A network that has grown in between is refused.** Each of the two subnets is one of the network that
it is given with, and yet the second one is said not to be defined, and nothing is created. -/
theorem grown_network_is_refused :
    let blueprint := (({ group := ⟨"rg", "eastus", "sub"⟩ } : Blueprint).define "lz").assign grown
    let fault := Fault.undefinedSubnet .workspaceStorage "storage" "vnet1"
    Text.isBlank "lz" = false ∧
    (∀ call ∈ grown, Text.isBlank call.network.name = false ∧
      call.network.toResource.hasSubnet call.subnet = true) ∧
    blueprint.fault? = some fault ∧
    blueprint.deploy Memory.provider {} = (.error (.invalidRequest fault), {}) := by
  intro blueprint fault
  have faulty : blueprint.fault? = some fault := by decide +kernel
  exact ⟨by decide +kernel, by decide +kernel, faulty, Blueprint.deploy_of_fault faulty _⟩

end Provision
