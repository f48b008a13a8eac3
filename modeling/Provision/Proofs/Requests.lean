/-
**What a catalog makes of a request.**

A catalog may register any topologies under any identifiers. A request to it is turned down for the first
thing that is wrong with it, and otherwise planned and deployed:

* `Catalog.Refuses` — why a request is turned down; `Catalog.Lists` — a request for a version that is
  listed. There is no third (`Catalog.lists_or_refuses`);
* `Catalog.blueprint_of_refuses` and `Catalog.blueprint_of_lists` say what comes of either;
* `PlannedResource.WellNamed` — a name as it is drawn for a kind of resources;
* **`listed_versions_are_planned`** — plans, deployments and rollouts turn down the same requests for the
  same reasons, and whatever they do not turn down can be created under the names that are drawn for it.
-/

import Provision.Proofs.Protocol
import Provision.Proofs.Topologies
import Provision.Topology.Catalog

namespace Provision

/-! ### Requests -/

/-- No part of a request is empty after trimming. -/
structure Request.IsFilled (request : Request) : Prop where
  zone : Text.trim request.zone ≠ ""
  topology : Text.trim request.topology ≠ ""
  version : Text.trim request.version.text ≠ ""

open Text (isBlank_iff_trim_eq) in
/-- A request is faultless exactly when no part of it is empty after trimming. -/
theorem Request.fault?_eq_none_iff {request : Request} : request.fault? = none ↔ request.IsFilled := by
  unfold fault?
  constructor
  · intro faultless
    split at faultless
    · cases faultless
    next zone =>
      split at faultless
      · cases faultless
      next topology =>
        split at faultless
        · cases faultless
        next version =>
          exact ⟨mt isBlank_iff_trim_eq.mpr zone, mt isBlank_iff_trim_eq.mpr topology,
            mt isBlank_iff_trim_eq.mpr version⟩
  · rintro ⟨zone, topology, version⟩
    rw [if_neg (mt isBlank_iff_trim_eq.mp zone), if_neg (mt isBlank_iff_trim_eq.mp topology),
      Version.isBlank, if_neg (mt isBlank_iff_trim_eq.mp version)]

namespace Catalog

variable (catalog : Catalog) (group : ResourceGroup) (request : Request)

/-- A request for a version that the catalog lists for a topology. -/
def Lists : Prop :=
  request.IsFilled ∧ ∃ descriptor, catalog.descriptor? request.topology = some descriptor ∧
    request.version ∈ descriptor.versions

/-- Why a catalog turns down a request. Of several reasons the first one counts. -/
inductive Refuses : ZoneError → Prop where
  | zone (blank : Text.trim request.zone = "") : Refuses (.invalidRequest .blankZone)
  | topology (zone : Text.trim request.zone ≠ "") (blank : Text.trim request.topology = "") :
      Refuses (.invalidRequest .blankTopology)
  | version (zone : Text.trim request.zone ≠ "") (topology : Text.trim request.topology ≠ "")
      (blank : Text.trim request.version.text = "") : Refuses (.invalidRequest .blankVersion)
  | unknown (filled : request.IsFilled) (missing : catalog.descriptor? request.topology = none) :
      Refuses (.unknownTopology request.topology)
  | unsupported (filled : request.IsFilled) (registration : Registration)
      (first : catalog.find? (·.identifier == request.topology) = some registration)
      (unlisted : request.version ∉ registration.descriptor.versions) :
      Refuses (.unsupportedVersion registration.topology.identifier request.version.text)

variable {catalog group request}

open Text (isBlank_iff_trim_eq) in
/-- A request that is turned down has no blueprint. -/
theorem blueprint_of_refuses {error : ZoneError} (refused : catalog.Refuses request error) :
    catalog.blueprint group request = .error error := by
  unfold blueprint
  cases refused with
  | zone blank => rw [Request.fault?, if_pos (isBlank_iff_trim_eq.mpr blank)]
  | topology zone blank =>
      rw [Request.fault?, if_neg (mt isBlank_iff_trim_eq.mp zone),
        if_pos (isBlank_iff_trim_eq.mpr blank)]
  | version zone topology blank =>
      rw [Request.fault?, if_neg (mt isBlank_iff_trim_eq.mp zone),
        if_neg (mt isBlank_iff_trim_eq.mp topology), Version.isBlank,
        if_pos (isBlank_iff_trim_eq.mpr blank)]
  | unknown filled missing =>
      rw [descriptor?_eq, Option.map_eq_none_iff] at missing
      rw [Request.fault?_eq_none_iff.mpr filled]
      simp only [Catalog.topology, missing]
  | unsupported filled registration first unlisted =>
      rw [Request.fault?_eq_none_iff.mpr filled]
      simp only [Catalog.topology, first]
      exact if_neg unlisted

/-- A request for a listed version has the blueprint of the topology that is registered first. -/
theorem blueprint_of_lists (group : ResourceGroup) (listed : catalog.Lists request) :
    ∃ registration, catalog.find? (·.identifier == request.topology) = some registration ∧
      request.version ∈ registration.topology.versions ∧
      catalog.blueprint group request = .ok (registration.topology.extend request.version group.region
        { group := group, zone := request.zone }) := by
  obtain ⟨filled, descriptor, described, version⟩ := listed
  rw [descriptor?_eq, Option.map_eq_some_iff] at described
  obtain ⟨registration, first, rfl⟩ := described
  refine ⟨registration, first, version, ?_⟩
  unfold blueprint
  rw [Request.fault?_eq_none_iff.mpr filled]
  simp only [Catalog.topology, first]
  exact if_pos version

/-- **A request is for a listed version, or it is turned down.** -/
theorem lists_or_refuses (catalog : Catalog) (request : Request) :
    catalog.Lists request ∨ ∃ error, catalog.Refuses request error := by
  by_cases zone : Text.trim request.zone = ""
  · exact .inr ⟨_, .zone zone⟩
  by_cases topology : Text.trim request.topology = ""
  · exact .inr ⟨_, .topology zone topology⟩
  by_cases version : Text.trim request.version.text = ""
  · exact .inr ⟨_, .version zone topology version⟩
  have filled : request.IsFilled := ⟨zone, topology, version⟩
  cases first : catalog.find? (·.identifier == request.topology) with
  | none => exact .inr ⟨_, .unknown filled (by rw [descriptor?_eq, first, Option.map_none])⟩
  | some registration =>
      by_cases listed : request.version ∈ registration.descriptor.versions
      · exact .inl ⟨filled, registration.descriptor, by rw [descriptor?_eq, first, Option.map_some],
          listed⟩
      · exact .inr ⟨_, .unsupported filled registration first listed⟩

/-- There is a blueprint exactly for the requests for listed versions. -/
theorem exists_blueprint_iff (catalog : Catalog) (group : ResourceGroup) (request : Request) :
    (∃ blueprint, catalog.blueprint group request = .ok blueprint) ↔ catalog.Lists request := by
  constructor
  · rintro ⟨blueprint, produced⟩
    refine (lists_or_refuses catalog request).resolve_right fun ⟨error, refused⟩ => ?_
    cases produced.symm.trans (blueprint_of_refuses refused)
  · intro listed
    obtain ⟨registration, -, -, produced⟩ := blueprint_of_lists group listed
    exact ⟨_, produced⟩

/-- For all others there is the reason why they are turned down. -/
theorem blueprint_eq_error_iff (catalog : Catalog) (group : ResourceGroup) (request : Request)
    (error : ZoneError) :
    catalog.blueprint group request = .error error ↔ catalog.Refuses request error := by
  refine ⟨fun failed => ?_, blueprint_of_refuses⟩
  rcases lists_or_refuses catalog request with listed | ⟨other, refused⟩
  · obtain ⟨blueprint, produced⟩ := (exists_blueprint_iff catalog group request).mpr listed
    cases failed.symm.trans produced
  · cases failed.symm.trans (blueprint_of_refuses refused)
    exact refused

/-! ### Plans, deployments and rollouts -/

variable {m : Type → Type} [Monad m] (provider : Provider m) {blueprint : Blueprint}

theorem deploy_of_error {error : ZoneError} (failed : catalog.blueprint group request = .error error) :
    catalog.deploy provider group request = pure (.error error) := by
  rw [deploy, failed]

theorem deploy_of_ok (produced : catalog.blueprint group request = .ok blueprint) :
    catalog.deploy provider group request = blueprint.deploy provider := by
  rw [deploy, produced]

theorem plan_eq_error_iff (catalog : Catalog) (group : ResourceGroup) (request : Request)
    (error : ZoneError) :
    catalog.plan group request = .error error ↔ catalog.Refuses request error := by
  rw [← blueprint_eq_error_iff catalog group, plan]
  cases catalog.blueprint group request <;> simp [Except.map]

theorem rollout_eq_error_iff (catalog : Catalog) (group : ResourceGroup) (request : Request)
    (error : ZoneError) :
    catalog.rollout group request = .error error ↔ catalog.Refuses request error := by
  rw [← blueprint_eq_error_iff catalog group, rollout]
  cases catalog.blueprint group request <;> simp [Except.map]

theorem exists_plan_iff (catalog : Catalog) (group : ResourceGroup) (request : Request) :
    (∃ plan, catalog.plan group request = .ok plan) ↔ catalog.Lists request := by
  rw [← exists_blueprint_iff catalog group, plan]
  cases catalog.blueprint group request <;> simp [Except.map]

/-- What a catalog turns down is not worth another attempt. -/
theorem Refuses.isRetryable {error : ZoneError} (refused : catalog.Refuses request error) :
    error.isRetryable = false := by
  cases refused <;> rfl

end Catalog

/-- An error of a deployment is worth another attempt exactly when a call was noted. -/
theorem Blueprint.isRetryable_iff_noted {σ : Type} (provider : Provider (StateM σ))
    (blueprint : Blueprint) (state : σ) (error : ZoneError)
    (failed : (blueprint.deploy provider.noting (state, [])).1 = .error error) :
    error.isRetryable = true ↔ (blueprint.deploy provider.noting (state, [])).2.2 ≠ [] := by
  obtain ⟨count, enough⟩ : ∃ count, blueprint.declarations.length < count := ⟨_, Nat.lt_succ_self _⟩
  have noted : blueprint.deploy provider.noting (state, []) = _ := deploy_noting count enough state
  have plain : (blueprint.deploy provider state).1 = .error error := by
    rw [← deploy_unnoted]
    exact failed
  rw [isRetryable_iff_asked count enough state plain, noted]

/-- A deployment of something that has no fault makes a call. -/
theorem Blueprint.calls_ne_nil {σ : Type} (provider : Provider (StateM σ)) {blueprint : Blueprint}
    (faultless : blueprint.fault? = none) (declared : blueprint.declarations ≠ []) (state : σ) :
    (blueprint.deploy provider.noting (state, [])).2.2 ≠ [] := by
  obtain ⟨count, enough⟩ : ∃ count, blueprint.declarations.length < count := ⟨_, Nat.lt_succ_self _⟩
  have noted : blueprint.deploy provider.noting (state, []) = _ := deploy_noting count enough state
  have turns := Rollout.length_turns provider count (.planned blueprint) state
  rw [noted]
  intro silent
  -- the first pull serves the first declaration, by calls
  cases pulled : (Rollout.turns provider count (.planned blueprint) state).1 with
  | nil =>
      rw [pulled, List.length_nil] at turns
      omega
  | cons turn rest =>
      have first : (Rollout.turns provider count (.planned blueprint) state).1[0]? = some turn := by
        rw [pulled, List.getElem?_cons_zero]
      have member : turn ∈ (Rollout.turns provider count (.planned blueprint) state).1 :=
        List.mem_of_getElem? first
      rcases turns_follow_plan faultless count state 0 turn first with
        ⟨declaration, planned, -, -, -, served⟩ | ⟨-, past | ⟨before, earlier, -⟩⟩
      · exact served.calls_ne_nil (List.flatMap_eq_nil_iff.mp silent turn member)
      · exact declared (List.length_eq_zero_iff.mp (Nat.le_zero.mp past))
      · cases earlier

/-! ### Names -/

/-- A name as it is drawn: at least five characters and as many as its kind allows, the mark and then
hexadecimal digits in lower case. -/
structure PlannedResource.WellNamed (planned : PlannedResource) : Prop where
  shortest : 5 ≤ planned.name.length
  longest : planned.name.length ≤ planned.kind.maximumLength
  spelling : ∃ digits, planned.name.toList = 'l' :: 'z' :: digits ∧
    ∀ digit ∈ digits, digit ∈ "0123456789abcdef".toList

/-- Every name that is drawn for a kind of resources is one. -/
theorem PlannedResource.wellNamed_of_drawn {planned : PlannedResource} {zone : String} {number : Nat}
    (drawn : planned.name = Topology.resourceName zone number planned.kind) : planned.WellNamed := by
  have length := Naming.length_name zone number planned.kind.maximumLength
  have spelling := Naming.exists_digits zone number planned.kind.maximumLength
  have allowed : 5 ≤ planned.kind.maximumLength := by cases planned.kind <;> decide
  rw [← Topology.resourceName, ← drawn] at length spelling
  rw [Naming.minimumLength] at length
  exact ⟨by omega, by omega, spelling⟩

theorem Topology.wellNamed_plan (topology : Topology) (version : Version) (region : String)
    (group : ResourceGroup) (zone : String) :
    ∀ planned ∈ (topology.extend version region { group := group, zone := zone }).plan.resources,
      planned.WellNamed := by
  intro planned member
  obtain ⟨declaration, inside, rfl⟩ := List.mem_map.mp member
  obtain ⟨number, drawn⟩ := exists_number_of_declaration region group zone topology version inside
  exact PlannedResource.wellNamed_of_drawn drawn

/-! ### Agreement -/

/-- What is planned for a request is what the topology declares that is registered first. -/
theorem Catalog.exists_registration_of_plan {catalog : Catalog} {group : ResourceGroup}
    {request : Request} {plan : Plan} (planned : catalog.plan group request = .ok plan) :
    Text.isBlank request.zone = false ∧ ∃ registration,
      let blueprint := registration.topology.extend request.version group.region
        { group := group, zone := request.zone }
      catalog.find? (·.identifier == request.topology) = some registration ∧
        request.version ∈ registration.topology.versions ∧
        catalog.blueprint group request = .ok blueprint ∧ blueprint.plan = plan := by
  have listed := (exists_plan_iff catalog group request).mp ⟨plan, planned⟩
  refine ⟨Bool.eq_false_iff.mpr (mt Text.isBlank_iff_trim_eq.mp listed.1.zone), ?_⟩
  obtain ⟨registration, first, version, produced⟩ := blueprint_of_lists group listed
  refine ⟨registration, first, version, produced, ?_⟩
  rw [Catalog.plan, produced] at planned
  exact Except.ok.inj planned

/-- A deployment ends in an error without a call exactly when the request is turned down. -/
theorem Catalog.deploy_noting {σ : Type} (provider : Provider (StateM σ)) (catalog : Catalog)
    (group : ResourceGroup) (request : Request) (state : σ) (error : ZoneError) :
    let reply := catalog.deploy provider.noting group request (state, [])
    (reply.1 = .error error ∧ reply.2.2 = [] ↔ catalog.Refuses request error) ∧
      (reply.1 = .error error → (error.isRetryable = true ↔ reply.2.2 ≠ [])) := by
  intro reply
  rcases catalog.lists_or_refuses request with listed | ⟨reason, refused⟩
  · obtain ⟨⟨_, topology⟩, -, -, produced⟩ := blueprint_of_lists group listed
    have named := Bool.eq_false_iff.mpr (mt Text.isBlank_iff_trim_eq.mp listed.1.zone)
    have asked := Blueprint.calls_ne_nil provider
      (topology.fault?_extend group.region group request.zone request.version named)
      (topology.declarations_ne_nil group.region group request.zone request.version) state
    have retryable := Blueprint.isRetryable_iff_noted provider (topology.extend request.version
      group.region { group := group, zone := request.zone }) state error
    rw [← deploy_of_ok provider.noting produced] at asked retryable
    refine ⟨iff_of_false (fun silent => asked silent.2) fun refused => ?_, retryable⟩
    cases produced.symm.trans (blueprint_of_refuses refused)
  · have failed : catalog.blueprint group request = .error reason := blueprint_of_refuses refused
    have ended : reply = (.error reason, (state, [])) :=
      congrFun (deploy_of_error provider.noting failed) (state, [])
    rw [ended]
    refine ⟨⟨fun ⟨same, _⟩ => Except.error.inj same ▸ refused, fun other => ⟨?_, rfl⟩⟩, fun same => ?_⟩
    · exact congrArg _ (Except.error.inj (failed.symm.trans (blueprint_of_refuses other)))
    · obtain rfl := Except.error.inj same
      exact iff_of_false (Bool.eq_false_iff.mp refused.isRetryable) fun asked => asked rfl

/-- **Exactly the requests for listed versions are planned**, whatever a catalog registers under
whatever identifiers.

* Plans, deployments and rollouts turn down the same requests for the same reasons. A deployment is
  turned down exactly when it ends in an error without a call; all its other errors come of calls.
* What is planned for a request that is not turned down is what the first topology under its identifier
  declares: resources of its kinds, in their order. It has no fault, and it is what is deployed. No two
  of the resources have one kind and one name, and their names are those that are drawn for the landing
  zone one after the other, each as long as its kind allows. -/
theorem listed_versions_are_planned (catalog : Catalog) (group : ResourceGroup) (request : Request) :
    ((∃ plan, catalog.plan group request = .ok plan) ↔ catalog.Lists request) ∧
    (∀ error, catalog.plan group request = .error error ↔ catalog.Refuses request error) ∧
    (∀ error, catalog.rollout group request = .error error ↔ catalog.Refuses request error) ∧
    (∀ error, catalog.Refuses request error →
      ∀ (m : Type → Type) [Monad m] (provider : Provider m),
        catalog.deploy provider group request = pure (.error error)) ∧
    (∀ (σ : Type) (provider : Provider (StateM σ)) (state : σ) (error : ZoneError),
      let reply := catalog.deploy provider.noting group request (state, [])
      (reply.1 = .error error ∧ reply.2.2 = [] ↔ catalog.Refuses request error) ∧
      (reply.1 = .error error → (error.isRetryable = true ↔ reply.2.2 ≠ []))) ∧
    ∀ plan, catalog.plan group request = .ok plan →
      (∃ registration,
        let blueprint := registration.topology.extend request.version group.region
          { group := group, zone := request.zone }
        catalog.find? (·.identifier == request.topology) = some registration ∧
        request.version ∈ registration.topology.versions ∧
        plan.resources.map (·.kind) = registration.topology.kinds request.version ∧
        blueprint.plan = plan ∧ blueprint.fault? = none ∧
        catalog.rollout group request = .ok (.planned blueprint) ∧
        ∀ (m : Type → Type) [Monad m] (provider : Provider m),
          catalog.deploy provider group request = blueprint.deploy provider) ∧
      plan.zone = request.zone ∧ plan.group = group.name ∧
      (plan.resources.map fun planned => (planned.kind, planned.name)).Nodup ∧
      (∀ planned ∈ plan.resources, planned.WellNamed) ∧
      plan.names = ({ zone := request.zone } : NameSequence).draw
        (plan.resources.map (·.kind.maximumLength)) := by
  refine ⟨catalog.exists_plan_iff group request, catalog.plan_eq_error_iff group request,
    catalog.rollout_eq_error_iff group request, fun error refused m _ provider => ?_,
    fun σ provider state error => catalog.deploy_noting provider group request state error, ?_⟩
  · exact Catalog.deploy_of_error provider (Catalog.blueprint_of_refuses refused)
  -- what is planned, deployed and rolled out is one blueprint, that of the first registration
  intro plan planned
  obtain ⟨named, ⟨identifier, topology⟩, first, version, produced, rfl⟩ :=
    Catalog.exists_registration_of_plan planned
  have kinds := topology.kinds_plan group.region group request.zone request.version
  have faultless := topology.fault?_extend group.region group request.zone request.version named
  refine ⟨⟨⟨identifier, topology⟩, first, version, kinds, rfl, faultless, ?_, fun m _ provider =>
    Catalog.deploy_of_ok provider produced⟩, topology.extend_zone _ _ _ _, ?_, ?_,
    topology.wellNamed_plan _ _ _ _, topology.names_plan _ _ _ _⟩
  · rw [Catalog.rollout, produced]
    rfl
  · exact congrArg (·.name) (topology.extend_group group.region group request.zone request.version)
  · refine List.Nodup.of_map Prod.fst ?_
    rw [List.map_map]
    exact kinds ▸ topology.kinds_nodup request.version

/-! ### A catalog with one identifier for two topologies -/

/-- Two topologies under one identifier, and the second one under another identifier, too. -/
def crowded : Catalog :=
  [⟨"main", .kubernetesWorkspace⟩, ⟨"main", .managedNetwork⟩, ⟨"other", .managedNetwork⟩]

/-- Under the shared identifier only the versions of the first topology are listed. -/
theorem crowded_versions_are_planned :
    let group : ResourceGroup := ⟨"rg", "eastus", "sub"⟩
    let reason := ZoneError.unsupportedVersion "kubernetes-workspace" "v2"
    (∃ plan, crowded.plan group ⟨"lz", "other", .v2⟩ = .ok plan ∧ plan.zone = "lz" ∧
      (plan.resources.map fun planned => (planned.kind, planned.name)).Nodup ∧
      (∀ planned ∈ plan.resources, planned.WellNamed) ∧
      plan.names = ({ zone := "lz" } : NameSequence).draw
        (plan.resources.map (·.kind.maximumLength))) ∧
    crowded.plan group ⟨"lz", "main", .v2⟩ = .error reason ∧
    crowded.rollout group ⟨"lz", "main", .v2⟩ = .error reason ∧
    crowded.deploy forgetful group ⟨"lz", "main", .v2⟩ 5 = (.error reason, 5) ∧
    (crowded.deploy forgetful.noting group ⟨"lz", "main", .v2⟩ (5, [])).2.2 = [] ∧
    ¬reason.isRetryable = true := by
  intro group reason
  obtain ⟨planned, -, -, -, -, whole⟩ := listed_versions_are_planned crowded group ⟨"lz", "other", .v2⟩
  obtain ⟨-, plans, rollouts, deployments, asked, -⟩ :=
    listed_versions_are_planned crowded group ⟨"lz", "main", .v2⟩
  have listed : crowded.Lists ⟨"lz", "other", .v2⟩ :=
    ⟨⟨by decide +kernel, by decide +kernel, by decide +kernel⟩,
      Registration.descriptor ⟨"other", .managedNetwork⟩, by decide +kernel, by decide +kernel⟩
  have refused : crowded.Refuses ⟨"lz", "main", .v2⟩ reason :=
    .unsupported ⟨by decide +kernel, by decide +kernel, by decide +kernel⟩
      ⟨"main", .kubernetesWorkspace⟩ (by decide +kernel) (by decide +kernel)
  obtain ⟨plan, here⟩ := planned.mpr listed
  obtain ⟨-, zone, -, distinct, named, drawn⟩ := whole plan here
  obtain ⟨silent, retryable⟩ := asked Nat forgetful 5 reason
  obtain ⟨failed, calls⟩ := silent.mpr refused
  exact ⟨⟨plan, here, zone, distinct, named, drawn⟩, (plans reason).mpr refused,
    (rollouts reason).mpr refused, congrFun (deployments reason refused _ forgetful) 5, calls,
    fun again => (retryable failed).mp again calls⟩

end Provision
