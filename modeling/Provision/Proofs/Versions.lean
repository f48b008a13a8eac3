/-
**Another version of what is deployed.**

The names of resources do not depend on the version of a topology. Whoever asks for another version of a
managed network that is deployed comes to the resources that are there, and is refused by the first one
whose tags would have to change:

* `Declaration.drift_tags` — the tags of two declarations for one purpose differ exactly for the subnets
  that are bound differently;
* `Scene.verdict_of_rival` — where a declaration was realised, another one of its kind and name is
  refused by what distinguishes the two;
* `Scene.Settled` — the declarations were realised, so that realising them again adds nothing;
* `Blueprint.deploy_of_settled` and `Topology.ManagedNetwork.deploy_of_switched` are the two deployments
  from there;
* **`version_switches_are_refused`** — the other version is refused without effect, and the deployed one
  is delivered again, after any attempts at either.
-/

import Provision.Proofs.Clashes
import Provision.Proofs.Requests
import Provision.Proofs.Retries

namespace Provision

/-! ### Tags that differ -/

namespace Declaration

variable {zone : String} {mine theirs : Declaration}

/-- What differs from some tags is what differs from any that agree with them. -/
theorem drift_congr {first existing : Tags} (agree : Tags.Agree first existing) (expected : Tags) :
    drift expected existing = drift expected first := by
  unfold drift
  refine List.filter_congr fun key managed => ?_
  rw [agree key managed]

theorem lookup_eq_some_iff {bindings : List (SubnetPurpose × String)}
    (once : (bindings.map (·.1)).Nodup) (purpose : SubnetPurpose) (subnet : String) :
    bindings.lookup purpose = some subnet ↔ (purpose, subnet) ∈ bindings := by
  induction bindings with
  | nil => simp
  | cons binding rest hyp =>
      obtain ⟨other, bound⟩ := binding
      rw [List.map_cons, List.nodup_cons] at once
      by_cases same : purpose = other
      · subst same
        have elsewhere : (purpose, subnet) ∉ rest := fun member =>
          once.1 (List.mem_map_of_mem (f := (·.1)) member)
        simp [elsewhere, eq_comm]
      · rw [List.lookup_cons, beq_false_of_ne same]
        simp [hyp once.2, same]

/-- The tag of a purpose names the subnet that is bound to it. -/
theorem tags_getElem?_word (zone : String) {declaration : Declaration}
    (once : (declaration.bindings.map (·.1)).Nodup) (purpose : SubnetPurpose) :
    (declaration.tags zone)[purpose.word]? = declaration.bindings.lookup purpose := by
  apply Option.ext
  intro subnet
  rw [tags_getElem?_word_eq_some_iff zone declaration once, lookup_eq_some_iff once]

/-- **The tags of two declarations for one purpose differ where subnets are bound differently.** -/
theorem drift_tags (zone : String) (purpose : theirs.purpose = mine.purpose)
    (onceTheirs : (theirs.bindings.map (·.1)).Nodup) (onceMine : (mine.bindings.map (·.1)).Nodup) :
    drift (theirs.tags zone) (mine.tags zone) =
      (SubnetPurpose.all.filter fun purpose =>
        mine.bindings.lookup purpose != theirs.bindings.lookup purpose).map SubnetPurpose.word := by
  have owner : (mine.tags zone)[Tags.ownerKey]? = (theirs.tags zone)[Tags.ownerKey]? :=
    (mine.owner?_tags zone).trans (theirs.owner?_tags zone).symm
  have whole : (mine.tags zone)[Tags.purposeKey]? = (theirs.tags zone)[Tags.purposeKey]? := by
    rw [mine.tags_eq_written, theirs.tags_eq_written, Tags.written_getElem?_purposeKey,
      Tags.written_getElem?_purposeKey, purpose]
  rw [drift, Tags.managedKeys, List.filter_cons_of_neg (by simpa using owner),
    List.filter_cons_of_neg (by simpa using whole), List.filter_map]
  congr 1
  refine List.filter_congr fun purpose _ => ?_
  rw [Function.comp_apply, tags_getElem?_word zone onceMine, tags_getElem?_word zone onceTheirs]

end Declaration

namespace Scene

variable {scene : Scene} {records later start : List Memory.Record} {mine theirs : Declaration}
  {declarations : List Declaration} {made : List DeployedResource}

/-- **Where a declaration was realised, another one of its kind and name is refused** for all the tags
in which the two differ, whatever was added in between. -/
theorem verdict_of_rival {resource : DeployedResource}
    (realised : scene.verdict records mine = .ok resource)
    (grows : scene.grown records mine <+: later)
    (kind : theirs.definition.kind = mine.definition.kind)
    (name : theirs.definition.name = mine.definition.name)
    (different : Declaration.drift (theirs.tags scene.zone) (mine.tags scene.zone) ≠ []) :
    scene.verdict later theirs =
      .error (theirs.refused (.alreadyExists (Declaration.driftText theirs.definition.name
        (Declaration.drift (theirs.tags scene.zone) (mine.tags scene.zone))))) := by
  have free : scene.bars mine = false := free_of_verdict realised
  obtain ⟨record, first⟩ := exists_holder?_grown records free
  have holds : scene.holder? later mine = some record := holder?_stable grows first
  have again : scene.verdict later mine = .ok resource := (verdict_stable grows).trans realised
  rw [verdict_of_holder? free holds, Declaration.settle_eq_ok_iff] at again
  obtain ⟨-, agree⟩ := again
  have owned : record.resource.tags.owner? = some scene.zone := by
    rw [← agree.owner?, Declaration.owner?_tags]
  have drifted := Declaration.drift_congr agree (theirs.tags scene.zone)
  have taken : scene.holder? later theirs = some record := by
    rw [← holds, holder?, holder?, kind, name]
  have also : scene.bars theirs = false := by
    rw [← free, bars, bars, name]
  rw [verdict_of_holder? also taken, Declaration.settle_of_drift owned, drifted]
  rwa [← Declaration.drift_eq_nil_iff, drifted]

/-! ### Declarations that were realised -/

/-- The declarations lead to some resources, and nothing is added for them. -/
structure Settled (scene : Scene) (declarations : List Declaration) (made : List DeployedResource)
    (records : List Memory.Record) : Prop where
  verdicts : scene.verdicts records declarations = made.map .ok
  laid : scene.laid declarations records = records

/-- Declarations that were realised are settled. -/
theorem settled_of_verdicts (realised : scene.verdicts start declarations = made.map .ok) :
    scene.Settled declarations made (scene.laid declarations start) where
  verdicts := (verdicts_stable (List.prefix_refl _)).trans realised
  laid := laid_stable (List.prefix_refl _)

/-- The first of the declarations is settled by itself, and so are the others. -/
theorem Settled.of_cons {declaration : Declaration} {rest : List Declaration}
    (settled : scene.Settled (declaration :: rest) made records) :
    ∃ resource others, made = resource :: others ∧
      scene.verdict records declaration = .ok resource ∧
      scene.grown records declaration = records ∧ scene.Settled rest others records := by
  have adds := prefix_grown scene records declaration
  have further := scene.prefix_laid rest (scene.grown records declaration)
  rw [← laid_cons, settled.laid] at further
  have same : scene.grown records declaration = records :=
    further.eq_of_length (Nat.le_antisymm further.length_le adds.length_le)
  have realised := settled.verdicts
  have laid := settled.laid
  rw [laid_cons, same] at laid
  cases made with
  | nil => cases realised
  | cons resource others =>
      simp only [Scene.verdicts, same, List.map_cons, List.cons.injEq] at realised
      exact ⟨resource, others, rfl, realised.1, same, realised.2, laid⟩

theorem settled_singleton {declaration : Declaration} {resource : DeployedResource}
    (realised : scene.verdict records declaration = .ok resource)
    (kept : scene.grown records declaration = records) :
    scene.Settled [declaration] [resource] records where
  verdicts := by rw [Scene.verdicts, realised, Scene.verdicts, List.map_singleton]
  laid := by rw [laid_cons, kept, laid_nil]

end Scene

namespace Blueprint

variable {blueprint : Blueprint} {memory : Memory} {made : List DeployedResource}

theorem sceneIn_of_willing (blueprint : Blueprint) (willing : memory.failing = []) :
    blueprint.sceneIn memory = blueprint.scene := by
  rw [sceneIn, Memory.scene, willing, scene]

/-- What is settled is delivered again. -/
theorem deploy_of_settled (faultless : blueprint.fault? = none) (willing : memory.failing = [])
    (settled : blueprint.scene.Settled blueprint.declarations made memory.records) :
    blueprint.deploy Memory.provider memory =
      (.ok made, memory.after memory.records blueprint.declarations.length) := by
  rw [← blueprint.sceneIn_of_willing willing] at settled
  rw [(deploy_of_realised faultless settled.verdicts).2, settled.laid]

/-- After a deployment to the end, everything is settled. -/
theorem settled_of_deployed (willing : memory.failing = [])
    (succeeds : (blueprint.deploy Memory.provider memory).1 = .ok made) :
    blueprint.fault? = none ∧ blueprint.scene.Settled blueprint.declarations made
      (blueprint.deploy Memory.provider memory).2.records := by
  obtain ⟨done, lays, -, all⟩ := blueprint.lays_deploy memory
  obtain ⟨faultless, rfl, realised⟩ := all made succeeds
  have scene : memory.scene blueprint.group blueprint.zone = blueprint.scene :=
    blueprint.sceneIn_of_willing willing
  rw [scene] at realised
  rw [lays.records, scene]
  exact ⟨faultless, Scene.settled_of_verdicts realised⟩

/-- **A deployment stops at a rival** of a declaration that is settled, if all before it are settled, and
nothing is added. -/
theorem deploy_of_rival (faultless : blueprint.fault? = none) (willing : memory.failing = [])
    {front rest : List Declaration} {mine theirs : Declaration} {resource : DeployedResource}
    (split : blueprint.declarations = front ++ theirs :: rest)
    (before : blueprint.scene.Settled front made memory.records)
    (realised : blueprint.scene.verdict memory.records mine = .ok resource)
    (kept : blueprint.scene.grown memory.records mine = memory.records)
    (kind : theirs.definition.kind = mine.definition.kind)
    (name : theirs.definition.name = mine.definition.name) {keys : List String}
    (drifted : Declaration.drift (theirs.tags blueprint.zone) (mine.tags blueprint.zone) = keys)
    (some : keys ≠ []) :
    blueprint.deploy Memory.provider memory =
      (.error (theirs.refused (.alreadyExists
        (Declaration.driftText theirs.definition.name keys))),
        memory.after memory.records (front.length + 1)) := by
  subst drifted
  have grows : blueprint.scene.grown memory.records mine <+:
      blueprint.scene.laid front memory.records := by
    rw [kept, before.laid]
  have refused := Scene.verdict_of_rival realised grows kind name some
  rw [← blueprint.sceneIn_of_willing willing] at refused before
  rw [(deploy_of_refused faultless split before.verdicts refused).2.2, before.laid]
  rfl

end Blueprint

/-! ### The managed network -/

namespace Topology.ManagedNetwork

/-- The account that is shared. -/
def account (zone region : String) : Declaration where
  definition := storage zone region 0
  purpose := some .shared

/-- The network with its bindings. -/
def boundNetwork (zone region : String) (batch : Bool) : Declaration where
  definition := (network zone region batch).toResource
  bindings := [(.workspaceCompute, "compute"), (.workspaceStorage, "storage")] ++
    if batch then [(.workspaceBatch, "batch")] else []

/-- What stands behind the network. -/
def behind (zone region : String) (batch : Bool) : List Declaration :=
  if batch then [{ definition := resource zone region 2 .batchAccount, purpose := some .shared }]
  else []

variable (zone region : String) (group : ResourceGroup)

/-- The shared account comes first, the network second, and then whatever stands behind it. -/
theorem declarations_eq (version : Version) :
    (managedNetwork.extend version region { group := group, zone := zone }).declarations =
      [account zone region] ++ boundNetwork zone region (version != .v1) ::
        behind zone region (version != .v1) :=
  declarations_extend region group zone (version != .v1)

/-- With and without batch computing, the network has the same tags but for the subnet for it. -/
theorem drift_boundNetwork (batch : Bool) :
    Declaration.drift ((boundNetwork zone region !batch).tags zone)
      ((boundNetwork zone region batch).tags zone) = ["WORKSPACE_BATCH_SUBNET"] := by
  have once (batch : Bool) : ((boundNetwork zone region batch).bindings.map (·.1)).Nodup := by
    cases batch <;> simp [boundNetwork]
  have purpose : (boundNetwork zone region !batch).purpose =
      (boundNetwork zone region batch).purpose := rfl
  rw [Declaration.drift_tags zone purpose (once _) (once _)]
  cases batch <;> rfl

/-- What a version is refused by where the other one is deployed. -/
def refusal (zone : String) : ZoneError :=
  let name := resourceName zone 1 .virtualNetwork
  .creation .virtualNetwork name
    (.alreadyExists (name ++ " exists with different tags (WORKSPACE_BATCH_SUBNET)"))

theorem refused_boundNetwork (batch : Bool) :
    (boundNetwork zone region batch).refused (.alreadyExists (Declaration.driftText
      (boundNetwork zone region batch).definition.name ["WORKSPACE_BATCH_SUBNET"])) =
      refusal zone := by
  have named : (boundNetwork zone region batch).definition.name =
      resourceName zone 1 .virtualNetwork := rfl
  have kind : (boundNetwork zone region batch).definition.kind = .virtualNetwork := rfl
  rw [Declaration.refused, named, kind, refusal, Declaration.driftText, String.append_assoc,
    String.append_assoc]
  rfl

variable {memory : Memory} {made : List DeployedResource} {version other : Version}
  {zone region group}

/-- **Where one version is settled, the other one is refused** by the network, and nothing is added. -/
theorem deploy_of_switched (named : Text.isBlank zone = false) (willing : memory.failing = [])
    (settled : Scene.Settled ⟨group, zone, []⟩
      (managedNetwork.extend version region { group := group, zone := zone }).declarations made
      memory.records)
    (switched : (other != .v1) = !(version != .v1)) :
    (managedNetwork.extend other region { group := group, zone := zone }).deploy
        Memory.provider memory = (.error (refusal zone), memory.after memory.records 2) := by
  have split := declarations_eq zone region group other
  have faultless := managedNetwork.fault?_extend region group zone other named
  have own := managedNetwork.extend_zone region group zone other
  have scene : (managedNetwork.extend other region { group := group, zone := zone }).scene =
      ⟨group, zone, []⟩ := by
    rw [Blueprint.scene, managedNetwork.extend_group, own]
  have drifted := drift_boundNetwork zone region (version != .v1)
  rw [switched] at split
  rw [declarations_eq] at settled
  obtain ⟨shared, others, -, verdict, kept, rest⟩ := settled.of_cons
  obtain ⟨resource, -, -, realised, grown, -⟩ := rest.of_cons
  have before := Scene.settled_singleton verdict kept
  rw [← scene] at before realised grown
  have stops := Blueprint.deploy_of_rival faultless willing split before realised grown rfl rfl
    (by rw [own, drifted]) (List.cons_ne_nil _ _)
  rwa [refused_boundNetwork] at stops

end Topology.ManagedNetwork

/-! ### Attempts at either version -/

/-- A memory holds what another one holds, and the same names fail. -/
structure Memory.Matches (memory later : Memory) : Prop where
  records : later.records = memory.records
  failing : later.failing = memory.failing

theorem Memory.Matches.trans {memory between later : Memory} (first : memory.Matches between)
    (second : between.Matches later) : memory.Matches later :=
  ⟨second.records.trans first.records, second.failing.trans first.failing⟩

/-- No version that a topology comes in is blank. -/
theorem Topology.filled_of_mem_versions {topology : Topology} {version : Version}
    (member : version ∈ topology.versions) : Text.trim version.text ≠ "" := by
  have filled : ∀ known ∈ [Version.v1, .v2], Text.trim known.text ≠ "" := by decide +kernel
  apply filled
  cases topology with
  | managedNetwork => exact member
  | kubernetesWorkspace => exact List.mem_of_mem_take (i := 1) member

namespace Catalog

variable {catalog : Catalog} {group : ResourceGroup} {identifier zone : String}
  {topology : Topology} {version other : Version}

theorem topology_eq_ok_iff (catalog : Catalog) (identifier : String) (topology : Topology) :
    catalog.topology identifier = .ok topology ↔
      ∃ registration, catalog.find? (·.identifier == identifier) = some registration ∧
        registration.topology = topology := by
  unfold Catalog.topology
  cases catalog.find? (·.identifier == identifier) <;> simp

/-- A request for a version of a registered topology is carried out as the topology says. -/
theorem deploy_of_registered {m : Type → Type} [Monad m] (provider : Provider m)
    (group : ResourceGroup) (registered : catalog.topology identifier = .ok topology)
    (listed : catalog.Lists ⟨zone, identifier, version⟩) :
    version ∈ topology.versions ∧
      catalog.deploy provider group ⟨zone, identifier, version⟩ =
        (topology.extend version group.region { group := group, zone := zone }).deploy provider := by
  obtain ⟨registration, first, rfl⟩ := (catalog.topology_eq_ok_iff identifier topology).mp registered
  obtain ⟨found, also, member, produced⟩ := blueprint_of_lists group listed
  obtain rfl := Option.some.inj (first.symm.trans also)
  exact ⟨member, deploy_of_ok provider produced⟩

/-- Where one version of a topology is listed, all its versions are. -/
theorem Lists.of_version (registered : catalog.topology identifier = .ok topology)
    (listed : catalog.Lists ⟨zone, identifier, version⟩) (member : other ∈ topology.versions) :
    catalog.Lists ⟨zone, identifier, other⟩ := by
  obtain ⟨registration, first, rfl⟩ := (catalog.topology_eq_ok_iff identifier topology).mp registered
  refine ⟨⟨listed.1.zone, listed.1.topology, Topology.filled_of_mem_versions member⟩,
    registration.descriptor, ?_, member⟩
  rw [descriptor?_eq, first, Option.map_some]

/-- What is deployed was listed. -/
theorem lists_of_deployed {memory : Memory} {request : Request} {made : List DeployedResource}
    (succeeds : (catalog.deploy Memory.provider group request memory).1 = .ok made) :
    catalog.Lists request := by
  refine (catalog.lists_or_refuses request).resolve_right fun ⟨error, refused⟩ => ?_
  rw [deploy_of_error _ (blueprint_of_refuses refused)] at succeeds
  cases succeeds

/-- The memory after requests for some versions of one landing zone. -/
def attempted (catalog : Catalog) (group : ResourceGroup) (zone identifier : String)
    (versions : List Version) (memory : Memory) : Memory :=
  versions.foldl
    (fun memory version => (catalog.deploy Memory.provider group ⟨zone, identifier, version⟩ memory).2)
    memory

variable {memory : Memory} {made : List DeployedResource}

/-- A managed network is deployed in a version, and nothing fails. -/
structure Deployed (catalog : Catalog) (group : ResourceGroup) (zone identifier : String)
    (version : Version) (made : List DeployedResource) (memory : Memory) : Prop where
  listed : catalog.Lists ⟨zone, identifier, version⟩
  willing : memory.failing = []
  settled : Scene.Settled ⟨group, zone, []⟩
    (Topology.managedNetwork.extend version group.region { group := group, zone := zone }).declarations
    made memory.records

namespace Deployed

/-- A managed network is deployed after it was deployed to the end. -/
theorem of_succeeds (registered : catalog.topology identifier = .ok .managedNetwork)
    (willing : memory.failing = [])
    (succeeds : (catalog.deploy Memory.provider group ⟨zone, identifier, version⟩ memory).1 =
      .ok made) :
    catalog.Deployed group zone identifier version made
      (catalog.deploy Memory.provider group ⟨zone, identifier, version⟩ memory).2 := by
  have listed := lists_of_deployed succeeds
  obtain ⟨-, deployment⟩ := deploy_of_registered Memory.provider group registered listed
  rw [deployment] at succeeds ⊢
  obtain ⟨done, lays, -, -⟩ := Blueprint.lays_deploy _ memory
  obtain ⟨-, settled⟩ := Blueprint.settled_of_deployed willing succeeds
  rw [Blueprint.scene, Topology.extend_group, Topology.extend_zone] at settled
  exact ⟨listed, lays.failing.trans willing, settled⟩

theorem of_matches {later : Memory}
    (deployed : catalog.Deployed group zone identifier version made memory)
    (same : memory.Matches later) : catalog.Deployed group zone identifier version made later where
  listed := deployed.listed
  willing := same.failing.trans deployed.willing
  settled := same.records.symm ▸ deployed.settled

/-- The version that is deployed is delivered again. -/
theorem deploy_same (registered : catalog.topology identifier = .ok .managedNetwork)
    (deployed : catalog.Deployed group zone identifier version made memory) :
    let reply := catalog.deploy Memory.provider group ⟨zone, identifier, version⟩ memory
    reply.1 = .ok made ∧ memory.Matches reply.2 := by
  intro reply
  obtain ⟨-, deployment⟩ := deploy_of_registered Memory.provider group registered deployed.listed
  have named := Bool.eq_false_iff.mpr (mt Text.isBlank_iff_trim_eq.mp deployed.listed.1.zone)
  have settled := deployed.settled
  have scene : (Topology.managedNetwork.extend version group.region
      { group := group, zone := zone }).scene = ⟨group, zone, []⟩ := by
    rw [Blueprint.scene, Topology.extend_group, Topology.extend_zone]
  rw [← scene] at settled
  have again := Blueprint.deploy_of_settled
    (Topology.managedNetwork.fault?_extend group.region group zone version named)
    deployed.willing settled
  rw [show reply = _ from (congrFun deployment memory).trans again]
  exact ⟨rfl, rfl, rfl⟩

/-- The other version is refused. -/
theorem deploy_switched (registered : catalog.topology identifier = .ok .managedNetwork)
    (deployed : catalog.Deployed group zone identifier version made memory)
    (member : other ∈ Topology.managedNetwork.versions) (different : other ≠ version) :
    let reply := catalog.deploy Memory.provider group ⟨zone, identifier, other⟩ memory
    reply.1 = .error (Topology.ManagedNetwork.refusal zone) ∧ memory.Matches reply.2 := by
  intro reply
  obtain ⟨own, -⟩ := deploy_of_registered Memory.provider group registered deployed.listed
  obtain ⟨-, deployment⟩ := deploy_of_registered Memory.provider group registered
    (deployed.listed.of_version registered member)
  have named := Bool.eq_false_iff.mpr (mt Text.isBlank_iff_trim_eq.mp deployed.listed.1.zone)
  have switched : (other != .v1) = !(version != .v1) := by
    simp only [Topology.versions, List.mem_cons, List.not_mem_nil, or_false] at own member
    rcases own with rfl | rfl <;> rcases member with rfl | rfl
    · exact absurd rfl different
    · rfl
    · rfl
    · exact absurd rfl different
  have refused := Topology.ManagedNetwork.deploy_of_switched named deployed.willing deployed.settled
    switched
  rw [show reply = _ from (congrFun deployment memory).trans refused]
  exact ⟨rfl, rfl, rfl⟩

/-- **No attempt at any version changes what is there.** -/
theorem attempt (registered : catalog.topology identifier = .ok .managedNetwork)
    (deployed : catalog.Deployed group zone identifier version made memory) (other : Version) :
    memory.Matches (catalog.deploy Memory.provider group ⟨zone, identifier, other⟩ memory).2 := by
  rcases catalog.lists_or_refuses ⟨zone, identifier, other⟩ with listed | ⟨error, refused⟩
  · obtain ⟨member, -⟩ := deploy_of_registered Memory.provider group registered listed
    by_cases same : other = version
    · subst same
      exact (deployed.deploy_same registered).2
    · exact (deployed.deploy_switched registered member same).2
  · -- it is turned down before any call
    rw [deploy_of_error _ (blueprint_of_refuses refused)]
    exact ⟨rfl, rfl⟩

theorem attempted (registered : catalog.topology identifier = .ok .managedNetwork)
    (deployed : catalog.Deployed group zone identifier version made memory)
    (versions : List Version) :
    memory.Matches (catalog.attempted group zone identifier versions memory) := by
  induction versions generalizing memory with
  | nil => exact ⟨rfl, rfl⟩
  | cons other rest hyp =>
      have first := deployed.attempt registered other
      exact first.trans (hyp (deployed.of_matches first))

end Deployed

end Catalog

/-- **Asking for another version is refused without effect.** Let a managed network be deployed in one of
its versions, in a memory that may hold anything else and in which nothing fails, by whatever catalog
registers it. After any attempts at any versions of it, the memory holds what it held after the first
deployment, and the next attempt changes nothing either:

* the version that is deployed is delivered again, with the same resources;
* the other one is refused by the network, for the subnet for batch computing and for nothing else. -/
theorem version_switches_are_refused (catalog : Catalog) (identifier : String)
    (registered : catalog.topology identifier = .ok .managedNetwork) (group : ResourceGroup)
    (zone : String) (memory : Memory) (willing : memory.failing = []) (version : Version)
    (made : List DeployedResource)
    (succeeds : (catalog.deploy Memory.provider group ⟨zone, identifier, version⟩ memory).1 =
      .ok made)
    (attempts : List Version) :
    let first := (catalog.deploy Memory.provider group ⟨zone, identifier, version⟩ memory).2
    let later := catalog.attempted group zone identifier attempts first
    let again := catalog.deploy Memory.provider group ⟨zone, identifier, version⟩ later
    first.Matches later ∧ again.1 = .ok made ∧ first.Matches again.2 ∧
    ∀ other ∈ [Version.v1, .v2], other ≠ version →
      let switched := catalog.deploy Memory.provider group ⟨zone, identifier, other⟩ later
      let name := Topology.resourceName zone 1 .virtualNetwork
      switched.1 = .error (.creation .virtualNetwork name (.alreadyExists
        (name ++ " exists with different tags (WORKSPACE_BATCH_SUBNET)"))) ∧
      first.Matches switched.2 := by
  intro first later again
  have deployed : catalog.Deployed group zone identifier version made first :=
    .of_succeeds registered willing succeeds
  have kept : first.Matches later := deployed.attempted registered attempts
  have still : catalog.Deployed group zone identifier version made later := deployed.of_matches kept
  obtain ⟨delivered, unchanged⟩ := still.deploy_same registered
  refine ⟨kept, delivered, kept.trans unchanged, fun other member different => ?_⟩
  obtain ⟨refused, spared⟩ := still.deploy_switched registered member different
  exact ⟨refused, kept.trans spared⟩

/-! ### A network in a group with another one -/

/-- A memory that holds a network of another landing zone, with a subnet for batch computing. -/
def tenanted : Memory where
  records := [.foreign ⟨"rg", "eastus", "sub"⟩ .virtualNetwork "vnet"
    ((Tags.owned "old").withSubnet .workspaceBatch "batch") ["batch"]]
  attempts := 3

theorem exists_deployed_tenanted : ∃ made,
    (crowded.deploy Memory.provider ⟨"rg", "eastus", "sub"⟩ ⟨"lz", "other", .v2⟩ tenanted).1 =
      .ok made := by
  have fine : (crowded.deploy Memory.provider ⟨"rg", "eastus", "sub"⟩ ⟨"lz", "other", .v2⟩
      tenanted).1.isOk = true := by
    decide +kernel
  generalize (crowded.deploy Memory.provider _ _ _).1 = answer at fine ⊢
  cases answer with
  | ok made => exact ⟨made, rfl⟩
  | error error => cases fine

/-- The second version is deployed beside it. Three attempts later, one of which is for a version that
there is not, the first version is refused and the second one delivered again. -/
theorem tenanted_switches_are_refused :
    crowded.topology "other" = .ok .managedNetwork ∧ tenanted.failing = [] ∧
    ∃ made, (crowded.deploy Memory.provider ⟨"rg", "eastus", "sub"⟩ ⟨"lz", "other", .v2⟩
        tenanted).1 = .ok made ∧
      let first := (crowded.deploy Memory.provider ⟨"rg", "eastus", "sub"⟩ ⟨"lz", "other", .v2⟩
        tenanted).2
      let later := crowded.attempted ⟨"rg", "eastus", "sub"⟩ "lz" "other" [.v1, .v5, .v2] first
      let again := crowded.deploy Memory.provider ⟨"rg", "eastus", "sub"⟩ ⟨"lz", "other", .v2⟩ later
      let switched := crowded.deploy Memory.provider ⟨"rg", "eastus", "sub"⟩ ⟨"lz", "other", .v1⟩
        later
      let name := Topology.resourceName "lz" 1 .virtualNetwork
      first.Matches later ∧ again.1 = .ok made ∧
      switched.1 = .error (.creation .virtualNetwork name (.alreadyExists
        (name ++ " exists with different tags (WORKSPACE_BATCH_SUBNET)"))) ∧
      first.Matches switched.2 := by
  obtain ⟨made, succeeds⟩ := exists_deployed_tenanted
  obtain ⟨kept, delivered, -, others⟩ := version_switches_are_refused crowded "other" rfl
    ⟨"rg", "eastus", "sub"⟩ "lz" tenanted rfl .v2 made succeeds [.v1, .v5, .v2]
  obtain ⟨refused, spared⟩ := others .v1 List.mem_cons_self (by decide)
  exact ⟨rfl, rfl, made, succeeds, kept, delivered, refused, spared⟩

end Provision
