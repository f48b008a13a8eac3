/-
**Landing zones side by side do not interfere.**

Deployments of other landing zones into the same group reach the memory while a deployment is under
way, and declare other names. The deployment cannot tell, and neither can a survey of its landing
zone:

* `Blueprint.Neighbour` is such a deployment, `Blueprint.Adds` holds of the records that a deployment
  can add;
* `Memory.Beside` compares records to which both have added with records to which only the deployment
  has; `Memory.Beside.filter_eq` reads the same from both;
* `Fleet.Beside` compares a whole fleet with a run that is alone, `Fleet.Beside.step` is one call and
  `Fleet.Beside.follow` a schedule;
* `Survey.resolve_congr` and `Memory.Beside.networks_eq` compare surveys, and
  `neighbours_do_not_interfere` puts this together.
-/

import Provision.Proofs.Convergence
import Provision.Proofs.Surveys

namespace Provision

/-- A deployment of another landing zone into the same group, under other names. -/
structure Blueprint.Neighbour (ours other : Blueprint) : Prop where
  group : other.group.Same ours.group
  zone : other.zone ≠ ours.zone
  names : ∀ own ∈ ours.declarations, ∀ declaration ∈ other.declarations,
    own.definition.kind = declaration.definition.kind →
      own.definition.name ≠ declaration.definition.name

/-- A record that the deployment of a blueprint can add. -/
def Blueprint.Adds (blueprint : Blueprint) (record : Memory.Record) : Prop :=
  ∃ declaration ∈ blueprint.declarations,
    record = .ofDefinition blueprint.group declaration.definition (declaration.tags blueprint.zone)

namespace Blueprint.Neighbour

variable {ours other : Blueprint} {record : Memory.Record}

/-- What a neighbour adds has none of our names. -/
theorem isAt_eq_false (neighbour : ours.Neighbour other) (adds : other.Adds record)
    {own : Declaration} (member : own ∈ ours.declarations) :
    record.isAt ours.group.name own.definition.kind own.definition.name = false := by
  obtain ⟨declaration, inside, rfl⟩ := adds
  refine Bool.eq_false_iff.mpr fun taken => ?_
  have key := (Memory.Record.isAt_iff ..).mp taken
  simp only [Memory.Record.key, Memory.Record.ofDefinition, Prod.mk.injEq] at key
  exact neighbour.names own member declaration inside key.2.1.symm key.2.2.symm

/-- What a neighbour adds has none of our identifiers. -/
theorem id_ne (neighbour : ours.Neighbour other) (adds : other.Adds record)
    {own : Memory.Record} (mine : ours.Adds own) : record.resource.id ≠ own.resource.id := by
  obtain ⟨declaration, inside, rfl⟩ := adds
  obtain ⟨ownDeclaration, member, rfl⟩ := mine
  intro same
  have ids : ours.group.resourceId declaration.definition.kind declaration.definition.name =
      ours.group.resourceId ownDeclaration.definition.kind ownDeclaration.definition.name :=
    (neighbour.group.resourceId _ _).symm.trans same
  obtain ⟨kinds, names⟩ := ours.group.resourceId_inj ids
  exact neighbour.names ownDeclaration member declaration inside kinds.symm names.symm

/-- A survey of our landing zone does not look at what a neighbour adds. -/
theorem covers_eq_false (neighbour : ours.Neighbour other) (adds : other.Adds record)
    {survey : Survey} (own : survey.zone? = some ours.zone) :
    survey.covers record.resource = false := by
  obtain ⟨declaration, -, rfl⟩ := adds
  have owner : (declaration.tags other.zone).owner? = some other.zone :=
    Declaration.owner?_tags other.zone declaration
  simp [Survey.covers, own, Memory.Record.ofDefinition, owner, neighbour.zone]

end Blueprint.Neighbour

/-! ### Records -/

/-- Records that were the same at the start: to the first ones our deployment and its neighbours have
added, to the second ones only our deployment, in the same order. -/
inductive Memory.Beside (ours : Blueprint) (others : List Blueprint) (start : List Memory.Record) :
    List Memory.Record → List Memory.Record → Prop
  | start : Beside ours others start start start
  | ours {mixed alone : List Memory.Record} {record : Memory.Record} :
    Beside ours others start mixed alone → ours.Adds record →
      Beside ours others start (mixed ++ [record]) (alone ++ [record])
  | other {mixed alone : List Memory.Record} {record : Memory.Record} {blueprint : Blueprint} :
    Beside ours others start mixed alone → blueprint ∈ others → blueprint.Adds record →
      Beside ours others start (mixed ++ [record]) alone

namespace Memory.Beside

variable {ours : Blueprint} {others : List Blueprint} {start mixed alone : List Record}

/-- **A test that nothing of the neighbours passes selects the same records.** -/
theorem filter_eq (beside : Beside ours others start mixed alone) (test : Record → Bool)
    (blind : ∀ blueprint ∈ others, ∀ record, blueprint.Adds record → test record = false) :
    mixed.filter test = alone.filter test := by
  induction beside with
  | start => rfl
  | ours _ _ hyp => rw [List.filter_append, List.filter_append, hyp]
  | other _ member adds hyp =>
      rw [List.filter_append, hyp, List.filter_singleton, blind _ member _ adds]
      exact List.append_nil _

theorem find?_eq (beside : Beside ours others start mixed alone) (test : Record → Bool)
    (blind : ∀ blueprint ∈ others, ∀ record, blueprint.Adds record → test record = false) :
    mixed.find? test = alone.find? test := by
  rw [← List.head?_filter, ← List.head?_filter, beside.filter_eq test blind]

theorem start_prefix (beside : Beside ours others start mixed alone) :
    start <+: mixed ∧ start <+: alone := by
  induction beside with
  | start => exact ⟨List.prefix_refl _, List.prefix_refl _⟩
  | ours _ _ hyp =>
      exact ⟨hyp.1.trans (List.prefix_append _ _), hyp.2.trans (List.prefix_append _ _)⟩
  | other _ _ _ hyp => exact ⟨hyp.1.trans (List.prefix_append _ _), hyp.2⟩

/-- Without the neighbours there are the records of the start and our own ones. -/
theorem mem_alone (beside : Beside ours others start mixed alone) {record : Record}
    (member : record ∈ alone) : record ∈ start ∨ ours.Adds record := by
  induction beside with
  | start => exact .inl member
  | ours _ adds hyp =>
      rcases List.mem_append.mp member with old | new
      · exact hyp old
      · exact .inr (List.mem_singleton.mp new ▸ adds)
  | other _ _ _ hyp => exact hyp member

variable (neighbours : ∀ blueprint ∈ others, ours.Neighbour blueprint)
include neighbours

/-- Our names are taken by the same records. -/
theorem holder?_eq (beside : Beside ours others start mixed alone) (scene : Scene)
    (place : scene.group = ours.group) {declaration : Declaration}
    (member : declaration ∈ ours.declarations) :
    scene.holder? mixed declaration = scene.holder? alone declaration := by
  refine beside.find?_eq _ fun blueprint inside record adds => ?_
  rw [place]
  exact (neighbours blueprint inside).isAt_eq_false adds member

/-- The identifier of a record that is there without the neighbours leads to the same record. It is
one of the start, and found there before anything that was added, or one of ours. -/
theorem find?_id_eq (beside : Beside ours others start mixed alone) {record : Record}
    (member : record ∈ alone) :
    mixed.find? (·.resource.id == record.resource.id) =
      alone.find? (·.resource.id == record.resource.id) := by
  rcases beside.mem_alone member with old | mine
  · have found : (start.find? (·.resource.id == record.resource.id)).isSome := by
      rw [List.find?_isSome]
      exact ⟨record, old, beq_self_eq_true _⟩
    obtain ⟨first, holds⟩ := Option.isSome_iff_exists.mp found
    rw [beside.start_prefix.1.find?_eq_some holds, beside.start_prefix.2.find?_eq_some holds]
  · refine beside.find?_eq _ fun blueprint inside other adds => ?_
    exact beq_false_of_ne ((neighbours blueprint inside).id_ne adds mine)

end Memory.Beside

/-! ### Runs -/

/-- A run of a blueprint, which has some of its declarations left. -/
structure Run.Of (blueprint : Blueprint) (run : Run) : Prop where
  group : run.group = blueprint.group
  zone : run.zone = blueprint.zone
  pending : run.pending <:+ blueprint.declarations

namespace Run.Of

variable {blueprint : Blueprint} {run : Run} {declaration : Declaration} {rest : List Declaration}

theorem start (blueprint : Blueprint) : (Run.start blueprint).Of blueprint :=
  ⟨rfl, rfl, List.suffix_refl _⟩

theorem mem (own : run.Of blueprint) (pending : run.pending = declaration :: rest) :
    declaration ∈ blueprint.declarations :=
  own.pending.subset (pending ▸ List.mem_cons_self)

theorem conclude (own : run.Of blueprint) (pending : run.pending = declaration :: rest)
    (outcome : Except ZoneError DeployedResource) : (run.conclude rest outcome).Of blueprint := by
  cases outcome with
  | error error => exact ⟨own.group, own.zone, own.pending⟩
  | ok resource =>
      have shorter : rest <:+ run.pending := pending ▸ List.suffix_cons _ _
      exact ⟨own.group, own.zone, shorter.trans own.pending⟩

theorem created (own : run.Of blueprint) (pending : run.pending = declaration :: rest)
    (answer : Answer DeployedResource) : (run.created declaration rest answer).Of blueprint := by
  unfold Run.created
  split
  · exact own.conclude pending _
  · exact ⟨own.group, own.zone, own.pending⟩
  · exact own.conclude pending _

/-- **One call of a run.** It adds a record of its blueprint, or none. -/
theorem advance (own : run.Of blueprint) (memory : Memory) :
    let reached := run.advance Memory.provider memory
    reached.1.Of blueprint ∧ reached.2.failing = memory.failing ∧
      (reached.2.records = memory.records ∨
        ∃ record, blueprint.Adds record ∧ reached.2.records = memory.records ++ [record]) := by
  rcases run.cases with ⟨declaration, rest, creating, pending⟩ |
    ⟨taken, declaration, rest, settling, pending⟩ | finished
  · rw [Run.advance_creating _ creating pending]
    simp only [Memory.provider_create]
    refine ⟨own.created pending _, rfl, ?_⟩
    rw [Memory.after_records]
    unfold Scene.grown
    split
    · exact .inl rfl
    · refine .inr ⟨_, ⟨declaration, own.mem pending, ?_⟩, rfl⟩
      rw [← own.group, ← own.zone]
      rfl
  · rw [Run.advance_settling _ settling pending]
    exact ⟨own.conclude pending _, rfl, .inl rfl⟩
  · rw [Run.advance_of_result? _ finished]
    exact ⟨own, rfl, .inl rfl⟩

/-- **One call of our run** has the same answer beside the neighbours as alone, and adds the same. -/
theorem advance_beside {ours : Blueprint} {others : List Blueprint}
    (neighbours : ∀ blueprint ∈ others, ours.Neighbour blueprint) (own : run.Of ours)
    {start : List Memory.Record} {mixed alone : Memory} (failing : mixed.failing = alone.failing)
    (beside : Memory.Beside ours others start mixed.records alone.records) :
    (run.advance Memory.provider mixed).1 = (run.advance Memory.provider alone).1 ∧
      Memory.Beside ours others start (run.advance Memory.provider mixed).2.records
        (run.advance Memory.provider alone).2.records := by
  have scenes : mixed.scene run.group run.zone = alone.scene run.group run.zone := by
    simp only [Memory.scene, failing]
  rcases run.cases with ⟨declaration, rest, creating, pending⟩ |
    ⟨taken, declaration, rest, settling, pending⟩ | finished
  · have holder := beside.holder?_eq neighbours (alone.scene run.group run.zone) own.group
      (own.mem pending)
    rw [Run.advance_creating _ creating pending, Run.advance_creating _ creating pending]
    simp only [Memory.provider_create, Memory.after_records, scenes]
    unfold Scene.answer Scene.grown
    rw [holder]
    refine ⟨rfl, ?_⟩
    split
    · exact beside
    · refine beside.ours ⟨declaration, own.mem pending, ?_⟩
      rw [← own.group, ← own.zone]
      rfl
  · have holder := beside.holder?_eq neighbours (alone.scene run.group run.zone) own.group
      (own.mem pending)
    rw [Run.advance_settling _ settling pending, Run.advance_settling _ settling pending,
      Memory.provider_find mixed run.group run.zone, Memory.provider_find alone run.group run.zone,
      scenes, holder]
    exact ⟨rfl, beside⟩
  · rw [Run.advance_of_result? _ finished, Run.advance_of_result? _ finished]
    exact ⟨rfl, beside⟩

end Run.Of

/-! ### Fleets -/

/-- Our run and those of neighbours in one memory, next to our run in a memory of its own. -/
structure Fleet.Beside (ours : Blueprint) (others : List Blueprint) (start : List Memory.Record)
    (run : Run) (rest : Fleet) (mixed alone : Memory) : Prop where
  own : run.Of ours
  rest : ∀ other ∈ rest, ∃ blueprint ∈ others, other.Of blueprint
  failing : mixed.failing = alone.failing
  records : Memory.Beside ours others start mixed.records alone.records

namespace Fleet.Beside

theorem start (ours : Blueprint) (others : List Blueprint) (memory : Memory) :
    Beside ours others memory.records (Run.start ours) (others.map Run.start) memory memory where
  own := .start ours
  rest := by
    intro other member
    obtain ⟨blueprint, inside, rfl⟩ := List.mem_map.mp member
    exact ⟨blueprint, inside, .start blueprint⟩
  failing := rfl
  records := .start

variable {ours : Blueprint} {others : List Blueprint} {first : List Memory.Record} {run : Run}
  {rest : Fleet} {mixed alone : Memory}

/-- A call of a neighbour is none in the memory of our own. -/
theorem step_other (beside : Beside ours others first run rest mixed alone) (index : Nat) :
    ∃ after, (Fleet.step Memory.provider (index + 1) (run :: rest) mixed).1 = run :: after ∧
      Beside ours others first run after
        (Fleet.step Memory.provider (index + 1) (run :: rest) mixed).2 alone := by
  cases there : rest[index]? with
  | none =>
      rw [Fleet.step_of_none _ (by rw [List.getElem?_cons_succ, there])]
      exact ⟨rest, rfl, beside⟩
  | some other =>
      obtain ⟨blueprint, inside, own⟩ := beside.rest other (List.mem_of_getElem? there)
      obtain ⟨moved, failing, grown⟩ := own.advance mixed
      rw [Fleet.step_of_getElem? _ (by rw [List.getElem?_cons_succ, there])]
      refine ⟨_, List.set_cons_succ .., beside.own, fun another member => ?_,
        failing.trans beside.failing, ?_⟩
      · rcases List.mem_or_eq_of_mem_set member with old | rfl
        · exact beside.rest another old
        · exact ⟨blueprint, inside, moved⟩
      · rcases grown with same | ⟨record, adds, more⟩
        · rw [same]
          exact beside.records
        · rw [more]
          exact beside.records.other inside adds

/-- **A whole schedule.** Our run comes as far beside the neighbours as it comes alone in its own
calls of the schedule. -/
theorem follow (neighbours : ∀ blueprint ∈ others, ours.Neighbour blueprint) (schedule : List Nat)
    (beside : Beside ours others first run rest mixed alone) :
    ∃ reached after,
      (Fleet.follow Memory.provider schedule (run :: rest) mixed).1 = reached :: after ∧
      (Fleet.follow Memory.provider (schedule.filter (· == 0)) [run] alone).1 = [reached] ∧
      Beside ours others first reached after
        (Fleet.follow Memory.provider schedule (run :: rest) mixed).2
        (Fleet.follow Memory.provider (schedule.filter (· == 0)) [run] alone).2 := by
  induction schedule generalizing run rest mixed alone with
  | nil => exact ⟨run, rest, rfl, rfl, beside⟩
  | cons index later hyp =>
      cases index with
      | zero =>
          obtain ⟨same, records⟩ := beside.own.advance_beside neighbours beside.failing beside.records
          obtain ⟨own, failing, -⟩ := beside.own.advance mixed
          obtain ⟨-, kept, -⟩ := beside.own.advance alone
          have onward : Beside ours others first (run.advance Memory.provider mixed).1 rest
              (run.advance Memory.provider mixed).2 (run.advance Memory.provider alone).2 :=
            ⟨own, beside.rest, (failing.trans beside.failing).trans kept.symm, records⟩
          obtain ⟨reached, after, together, single, still⟩ := hyp onward
          rw [List.filter_cons_of_pos (by rfl), Fleet.follow_cons, Fleet.follow_cons,
            Fleet.step_of_getElem? _ (List.getElem?_cons_zero),
            Fleet.step_of_getElem? _ (List.getElem?_cons_zero)]
          simp only [List.set_cons_zero, ← same]
          exact ⟨reached, after, together, single, still⟩
      | succ index =>
          obtain ⟨moved, stays, onward⟩ := beside.step_other index
          obtain ⟨reached, after, together, single, still⟩ := hyp onward
          rw [List.filter_cons_of_neg (by simp), Fleet.follow_cons, stays]
          exact ⟨reached, after, together, single, still⟩

end Fleet.Beside

/-! ### Surveys -/

namespace Survey

variable {mixed alone : Memory}

theorem network_congr {resource : DeployedResource}
    (same : mixed.subnets resource.id = alone.subnets resource.id) :
    ∃ answer, network Memory.provider resource mixed = (answer, mixed) ∧
      network Memory.provider resource alone = (answer, alone) := by
  rw [network, bind_apply, bind_apply]
  simp only [Memory.provider, same]
  cases alone.subnets resource.id with
  | error cause => exact ⟨_, rfl, rfl⟩
  | ok live => exact ⟨_, rfl, rfl⟩

/-- Resources are resolved alike in two memories in which they have the same subnets. -/
theorem resolve_congr (listed : List DeployedResource)
    (each : ∀ resource ∈ listed, mixed.subnets resource.id = alone.subnets resource.id) :
    ∃ answer, resolve Memory.provider listed mixed = (answer, mixed) ∧
      resolve Memory.provider listed alone = (answer, alone) := by
  induction listed with
  | nil => exact ⟨.ok [], rfl, rfl⟩
  | cons resource rest hyp =>
      obtain ⟨network, here, there⟩ := network_congr (each resource List.mem_cons_self)
      obtain ⟨networks, first, second⟩ :=
        hyp fun other member => each other (List.mem_cons_of_mem _ member)
      rw [resolve, bind_apply, bind_apply, here, there]
      cases network with
      | error error => exact ⟨.error error, rfl, rfl⟩
      | ok network =>
          simp only [bind_apply, first, second]
          cases networks with
          | error error => exact ⟨.error error, rfl, rfl⟩
          | ok others => exact ⟨.ok (network :: others), rfl, rfl⟩

end Survey

namespace Memory.Beside

variable {ours : Blueprint} {others : List Blueprint} {start : List Record} {mixed alone : Memory}
  {survey : Survey}

variable (neighbours : ∀ blueprint ∈ others, ours.Neighbour blueprint)
  (beside : Beside ours others start mixed.records alone.records)
  (own : survey.zone? = some ours.zone)
include neighbours beside own

/-- A survey of our landing zone looks at the same resources. -/
theorem list_eq :
    (mixed.list survey.group).filter survey.covers =
      (alone.list survey.group).filter survey.covers := by
  unfold Memory.list
  rw [List.filter_map, List.filter_map, List.filter_filter, List.filter_filter]
  refine congrArg _ (beside.filter_eq _ fun blueprint inside record adds => ?_)
  rw [Function.comp_apply, (neighbours blueprint inside).covers_eq_false adds own, Bool.false_and]

theorem resources_eq (test : DeployedResource → Bool) :
    (survey.resources Memory.provider test mixed).1 =
      (survey.resources Memory.provider test alone).1 := by
  rw [Survey.resources_apply, Survey.resources_apply, beside.list_eq neighbours own]

/-- **A survey of our virtual networks** lists the same ones, or fails for the same reason. -/
theorem networks_eq (purpose : SubnetPurpose) :
    (survey.networks Memory.provider purpose mixed).1 =
      (survey.networks Memory.provider purpose alone).1 := by
  unfold Survey.networks
  rw [bind_apply, bind_apply, Survey.resources_apply, Survey.resources_apply,
    beside.list_eq neighbours own]
  have subnets : ∀ resource ∈ ((alone.list survey.group).filter survey.covers).filter
      (Survey.isNetworkFor purpose), mixed.subnets resource.id = alone.subnets resource.id := by
    intro resource member
    have listed := List.mem_of_mem_filter (List.mem_of_mem_filter member)
    obtain ⟨record, inside, -, rfl⟩ := (Survey.mem_list_iff alone survey.group resource).mp listed
    unfold Memory.subnets
    rw [beside.find?_id_eq neighbours inside]
  obtain ⟨answer, first, second⟩ := Survey.resolve_congr _ subnets
  simp only [first, second]

end Memory.Beside

/-- **Landing zones do not interfere.** Let deployments of other landing zones into the same group,
under other names, be under way while a deployment is, with their calls in any order. Every run that
is let on often enough comes to its end. When ours is at its end it has the result of a deployment
alone, and every survey of our landing zone, also one of virtual networks, then has the result that it
has after a deployment alone, errors included. -/
theorem neighbours_do_not_interfere (ours : Blueprint) (others : List Blueprint) (memory : Memory)
    (neighbours : ∀ other ∈ others, ours.Neighbour other) (schedule : List Nat) :
    let alone := ours.deploy Memory.provider memory
    let reached := Fleet.follow Memory.provider schedule ((ours :: others).map Run.start) memory
    (∀ index blueprint, (ours :: others)[index]? = some blueprint →
      2 * blueprint.declarations.length ≤ schedule.count index →
      ∃ run, reached.1[index]? = some run ∧ run.result?.isSome = true) ∧
    ∀ run result, reached.1[0]? = some run → run.result? = some result →
      result = alone.1 ∧
      ∀ survey : Survey, survey.zone? = some ours.zone →
        (survey.owned Memory.provider reached.2).1 = (survey.owned Memory.provider alone.2).1 ∧
        (∀ purpose, (survey.withPurpose Memory.provider purpose reached.2).1 =
          (survey.withPurpose Memory.provider purpose alone.2).1) ∧
        ∀ purpose, (survey.networks Memory.provider purpose reached.2).1 =
          (survey.networks Memory.provider purpose alone.2).1 := by
  intro alone reached
  constructor
  · intro index blueprint there often
    have initially : ((ours :: others).map Run.start)[index]? = some (Run.start blueprint) := by
      rw [List.getElem?_map, there]
      rfl
    obtain ⟨run, found, less⟩ := Fleet.remaining_follow Memory.provider schedule _ memory index _
      initially
    have most := Run.remaining_start blueprint
    exact ⟨run, found, (Run.result?_isSome_iff run).mpr (by omega)⟩
  · intro run result there finished
    obtain ⟨own, rest, together, single, beside⟩ :=
      (Fleet.Beside.start ours others memory).follow neighbours schedule
    obtain rfl : own = run := by
      have first : reached.1[0]? = some own := by
        show (Fleet.follow Memory.provider schedule _ memory).1[0]? = _
        rw [List.map_cons, together]
        rfl
      exact Option.some.inj (first.symm.trans there)
    have member : own ∈ (Fleet.follow Memory.provider (schedule.filter (· == 0))
        (List.replicate 1 (Run.start ours)) memory).1 :=
      single ▸ List.mem_singleton_self own
    obtain ⟨same, records⟩ := Fleet.result_follow ours memory 1 _ member finished
    have left : Memory.Beside ours others memory.records reached.2.records alone.2.records := by
      show Memory.Beside ours others memory.records _
        (ours.deploy Memory.provider memory).2.records
      rw [records]
      exact beside.records
    refine ⟨same.symm, fun survey zone => ⟨?_, fun purpose => ?_, fun purpose => ?_⟩⟩
    · exact left.resources_eq neighbours zone _
    · exact left.resources_eq neighbours zone _
    · exact left.networks_eq neighbours zone purpose

/-- A blueprint of another landing zone, which gives the name of a virtual network to an account. -/
def adjoining : Blueprint where
  group := ⟨"rg", "westus", "sub"⟩
  zone := "theirs"
  declarations :=
    [{ definition := { name := "vnet", kind := .storageAccount, region := "westus" }
       purpose := some .shared },
     { definition := { name := "other", kind := .virtualNetwork, region := "westus" } }]

/-- Two landing zones whose calls alternate: ours comes to its end, and its surveys find in a memory of
both what they find in one of its own. -/
theorem adjoining_do_not_interfere :
    let ours := campusBlueprint "ours"
    let survey : Survey := { group := ours.group, zone? := some "ours" }
    let alone := ours.deploy Memory.provider {}
    let reached := Fleet.follow Memory.provider [1, 0, 1, 0, 0, 0]
      ([ours, adjoining].map Run.start) {}
    ours.Neighbour adjoining ∧ alone.2.records ≠ reached.2.records ∧
      (∃ run result, reached.1[0]? = some run ∧ run.result? = some result ∧ result = alone.1) ∧
      (survey.owned Memory.provider reached.2).1 = (survey.owned Memory.provider alone.2).1 ∧
      (survey.networks Memory.provider .postgresql reached.2).1 =
        (survey.networks Memory.provider .postgresql alone.2).1 := by
  intro ours survey alone reached
  have neighbour : ours.Neighbour adjoining :=
    ⟨⟨rfl, rfl⟩, by decide, by decide⟩
  obtain ⟨ends, same⟩ := neighbours_do_not_interfere ours [adjoining] {}
    (fun other member => List.mem_singleton.mp member ▸ neighbour) [1, 0, 1, 0, 0, 0]
  obtain ⟨run, there, finished⟩ := ends 0 ours rfl (by decide)
  obtain ⟨result, ends⟩ := Option.isSome_iff_exists.mp finished
  obtain ⟨own, surveys⟩ := same run result there ends
  obtain ⟨owned, -, networks⟩ := surveys survey rfl
  exact ⟨neighbour, by decide +kernel, ⟨run, result, there, ends, own⟩, owned, networks .postgresql⟩

end Provision
