/-
**Deployments side by side are safe.**

Whatever blueprints are deployed into one memory, and however their calls are mixed or broken off:

* `Run.Sound` holds of a run all of whose resources stand for its declarations, and
  `Run.Sound.advance` keeps it;
* `concurrent_runs_are_safe` puts this together for every reachable state.
-/

import Provision.Proofs.Fleet
import Provision.Proofs.Standing

namespace Provision

/-- A run of a blueprint all of whose resources stand for the declarations that it has realised. -/
structure Run.Sound (blueprint : Blueprint) (records : List Memory.Record) (run : Run) : Prop where
  group : run.group = blueprint.group
  zone : run.zone = blueprint.zone
  realised : ∃ done, blueprint.declarations = done ++ run.pending ∧
    List.Forall₂ (Declaration.Stands blueprint.group blueprint.zone records) done run.made

namespace Run.Sound

variable {blueprint : Blueprint} {records later : List Memory.Record} {run : Run}

theorem start (blueprint : Blueprint) (records : List Memory.Record) :
    (Run.start blueprint).Sound blueprint records :=
  ⟨rfl, rfl, [], rfl, .nil⟩

/-- Records that are added do not matter. -/
theorem grows (sound : run.Sound blueprint records) (more : records <+: later) :
    run.Sound blueprint later := by
  obtain ⟨done, split, stand⟩ := sound.realised
  exact ⟨sound.group, sound.zone, done, split, stand.imp fun _ _ stands => stands.grows more⟩

theorem conclude (sound : run.Sound blueprint records) {declaration : Declaration}
    {rest : List Declaration} (pending : run.pending = declaration :: rest)
    {outcome : Except ZoneError DeployedResource}
    (stands : ∀ resource, outcome = .ok resource →
      declaration.Stands blueprint.group blueprint.zone records resource) :
    (run.conclude rest outcome).Sound blueprint records := by
  obtain ⟨done, split, stand⟩ := sound.realised
  cases outcome with
  | error error => exact ⟨sound.group, sound.zone, done, split, stand⟩
  | ok resource =>
      refine ⟨sound.group, sound.zone, done ++ [declaration], ?_, ?_⟩
      · simp [Run.conclude, split, pending]
      · exact List.rel_append stand (.cons (stands resource rfl) .nil)

/-- **One call of a run.** The records grow at their end, no key is given twice, and what the run has
made still stands for its declarations. -/
theorem advance {memory : Memory} (sound : run.Sound blueprint memory.records)
    (distinct : (memory.records.map Memory.Record.key).Nodup) :
    let reached := run.advance Memory.provider memory
    memory.records <+: reached.2.records ∧ (reached.2.records.map Memory.Record.key).Nodup ∧
      reached.1.Sound blueprint reached.2.records := by
  rcases run.cases with ⟨declaration, rest, creating, pending⟩ |
    ⟨taken, declaration, rest, settling, pending⟩ | finished
  · rw [Run.advance_creating _ creating pending]
    simp only [Memory.provider_create]
    have grown := Scene.prefix_grown (memory.scene run.group run.zone) memory.records declaration
    refine ⟨grown, Scene.grown_nodup distinct, ?_⟩
    have kept := sound.grows grown
    cases free : (memory.scene run.group run.zone).bars declaration with
    | true =>
        rw [Scene.answer_of_bars free]
        show (run.conclude rest (.error _)).Sound blueprint _
        exact kept.conclude pending fun _ impossible => (nomatch impossible)
    | false =>
        cases holds : (memory.scene run.group run.zone).holder? memory.records declaration with
        | some record =>
            rw [Scene.answer_of_holder? free holds]
            exact ⟨kept.group, kept.zone, kept.realised⟩
        | none =>
            rw [Scene.answer_of_vacant free holds]
            show (run.conclude rest (.ok _)).Sound blueprint _
            refine kept.conclude pending fun resource same => ?_
            obtain rfl := Except.ok.inj same
            have stands := Scene.stands_record free holds
            rw [← sound.group, ← sound.zone]
            exact stands
  · rw [Run.advance_settling _ settling pending]
    refine ⟨List.prefix_refl _, distinct, sound.conclude pending fun resource settled => ?_⟩
    rw [Memory.provider_find memory run.group run.zone] at settled
    cases holds : (memory.scene run.group run.zone).holder? memory.records declaration with
    | none =>
        rw [holds] at settled
        exact absurd settled (Declaration.settle_ne_ok_of_none run.zone taken declaration resource)
    | some record =>
        rw [holds] at settled
        have stands := Scene.stands_of_settle holds settled
        rw [← sound.group, ← sound.zone]
        exact stands
  · rw [Run.advance_of_result? _ finished]
    exact ⟨List.prefix_refl _, distinct, sound⟩

/-- What a run reports stands, item by item, for what its blueprint declares. -/
theorem stand_of_result? (sound : run.Sound blueprint records) {made : List DeployedResource}
    (result : run.result? = some (.ok made)) :
    List.Forall₂ (Declaration.Stands blueprint.group blueprint.zone records)
      blueprint.declarations made := by
  obtain ⟨done, split, stand⟩ := sound.realised
  obtain ⟨nothing, rfl⟩ := Run.eq_of_result?_ok result
  rw [split, nothing, List.append_nil]
  exact stand

end Run.Sound

/-- A fleet of runs of some blueprints, in a memory that was another one at first. -/
structure Fleet.Safe (blueprints : List Blueprint) (start : List Memory.Record) (fleet : Fleet)
    (memory : Memory) : Prop where
  distinct : (memory.records.map Memory.Record.key).Nodup
  grown : start <+: memory.records
  runs : List.Forall₂ (fun blueprint run => run.Sound blueprint memory.records) blueprints fleet

namespace Fleet.Safe

variable {blueprints : List Blueprint} {first : List Memory.Record} {fleet : Fleet} {memory : Memory}

theorem start (blueprints : List Blueprint)
    (distinct : (memory.records.map Memory.Record.key).Nodup) :
    Safe blueprints memory.records (blueprints.map Run.start) memory where
  distinct := distinct
  grown := List.prefix_refl _
  runs := List.forall₂_map_right_iff.mpr
    (List.forall₂_same.mpr fun blueprint _ => Run.Sound.start blueprint _)

/-- A call of any run keeps the fleet safe. -/
theorem step (safe : Safe blueprints first fleet memory) {index : Nat} {run : Run}
    (there : fleet[index]? = some run) :
    Safe blueprints first (fleet.set index (run.advance Memory.provider memory).1)
      (run.advance Memory.provider memory).2 := by
  obtain ⟨inside, rfl⟩ := List.getElem?_eq_some_iff.mp there
  have size := safe.runs.length_eq
  have sound := List.Forall₂.get safe.runs (size ▸ inside) inside
  obtain ⟨grows, distinct, moved⟩ := Run.Sound.advance sound safe.distinct
  refine ⟨distinct, safe.grown.trans grows, List.forall₂_iff_get.mpr ⟨?_, ?_⟩⟩
  · rw [List.length_set, size]
  · intro other left right
    rw [List.get_eq_getElem, List.get_eq_getElem, List.getElem_set]
    split
    · subst_vars
      exact moved
    · have old := List.Forall₂.get safe.runs left (size ▸ left)
      exact old.grows grows

/-- **A fleet stays safe**, in whatever order its runs make their calls. -/
theorem follow (safe : Safe blueprints first fleet memory) (schedule : List Nat) :
    Safe blueprints first (Fleet.follow Memory.provider schedule fleet memory).1
      (Fleet.follow Memory.provider schedule fleet memory).2 :=
  Fleet.follow_invariant Memory.provider (Safe blueprints first)
    (fun _ _ _ _ there safe => safe.step there) schedule fleet memory safe

end Fleet.Safe

/-- The run at an index deploys a blueprint and has come to its end with these resources. -/
def Fleet.Delivers (blueprints : List Blueprint) (fleet : Fleet) (index : Nat) (blueprint : Blueprint)
    (made : List DeployedResource) : Prop :=
  blueprints[index]? = some blueprint ∧ fleet[index]?.bind Run.result? = some (.ok made)

/-- What a run delivers stands, item by item, for what its blueprint declares. -/
theorem Fleet.Safe.stand_of_delivers {blueprints : List Blueprint} {start : List Memory.Record}
    {fleet : Fleet} {memory : Memory} (safe : Safe blueprints start fleet memory) {index : Nat}
    {blueprint : Blueprint} {made : List DeployedResource}
    (delivers : fleet.Delivers blueprints index blueprint made) :
    List.Forall₂ (Declaration.Stands blueprint.group blueprint.zone memory.records)
      blueprint.declarations made := by
  obtain ⟨declared, finished⟩ := delivers
  obtain ⟨run, there, result⟩ := Option.bind_eq_some_iff.mp finished
  obtain ⟨left, rfl⟩ := List.getElem?_eq_some_iff.mp declared
  obtain ⟨right, rfl⟩ := List.getElem?_eq_some_iff.mp there
  exact Run.Sound.stand_of_result? (List.Forall₂.get safe.runs left right) result

/-- What a run delivers belongs to the landing zone of its blueprint. -/
theorem Fleet.Safe.owner?_of_delivers {blueprints : List Blueprint} {start : List Memory.Record}
    {fleet : Fleet} {memory : Memory} (safe : Safe blueprints start fleet memory) {index : Nat}
    {blueprint : Blueprint} {made : List DeployedResource}
    (delivers : fleet.Delivers blueprints index blueprint made) {resource : DeployedResource}
    (member : resource ∈ made) : resource.tags.owner? = some blueprint.zone := by
  have stand := safe.stand_of_delivers delivers
  obtain ⟨place, inside, rfl⟩ := List.mem_iff_getElem.mp member
  exact (List.Forall₂.get stand (stand.length_eq ▸ inside) inside).owner?

/-- **Deployments side by side are safe.** In every state that is reached, no two records have the
same key; records are only added, at the end; whatever a run has delivered is there, and gives to all
managed keys the values that the plan gives to them; and landing zones with different identifiers
have nothing in common. -/
theorem concurrent_runs_are_safe (blueprints : List Blueprint) (memory : Memory)
    (distinct : (memory.records.map Memory.Record.key).Nodup) (schedule later : List Nat) :
    let reached := Fleet.follow Memory.provider schedule (blueprints.map Run.start) memory
    let further := Fleet.follow Memory.provider (schedule ++ later) (blueprints.map Run.start) memory
    (reached.2.records.map Memory.Record.key).Nodup ∧
    memory.records <+: reached.2.records ∧ reached.2.records <+: further.2.records ∧
    (∀ index blueprint made, reached.1.Delivers blueprints index blueprint made →
      List.Forall₂ (fun (planned : PlannedResource) (resource : DeployedResource) =>
        (∃ record ∈ reached.2.records, record.resource = resource ∧
          record.key = (blueprint.group.name, planned.kind, planned.name)) ∧
        ∀ key ∈ Tags.managedKeys, resource.tags[key]? = planned.tags[key]?)
        blueprint.plan.resources made) ∧
    (∀ index other first second made others, reached.1.Delivers blueprints index first made →
      reached.1.Delivers blueprints other second others → first.zone ≠ second.zone →
      ∀ resource ∈ made, resource ∉ others) := by
  intro reached further
  have safe : Fleet.Safe blueprints memory.records reached.1 reached.2 :=
    (Fleet.Safe.start blueprints distinct).follow schedule
  have onward : reached.2.records <+: further.2.records := by
    -- the rest of the schedule starts where the first part has led to
    have rest : Fleet.Safe blueprints reached.2.records reached.1 reached.2 :=
      ⟨safe.distinct, List.prefix_refl _, safe.runs⟩
    have joined : further = Fleet.follow Memory.provider later reached.1 reached.2 :=
      Fleet.follow_append ..
    rw [joined]
    exact (rest.follow later).grown
  refine ⟨safe.distinct, safe.grown, onward, fun index blueprint made delivers => ?_,
    fun index other first second made others delivers alike different resource member shared => ?_⟩
  · refine List.forall₂_map_left_iff.mpr ((safe.stand_of_delivers delivers).imp ?_)
    rintro declaration resource ⟨present, agree⟩
    exact ⟨present, agree.symm⟩
  · have own := safe.owner?_of_delivers delivers member
    have foreign := safe.owner?_of_delivers alike shared
    exact different (Option.some.inj (own.symm.trans foreign))

/-- A declaration that several landing zones make. -/
def contested : Declaration where
  definition := { name := "sa", kind := .storageAccount, region := "eastus" }
  purpose := some .shared

/-- A blueprint of a landing zone that makes the contested declaration. -/
def claimant (zone : String) : Blueprint where
  group := ⟨"rg", "eastus", "sub"⟩
  zone := zone
  declarations := [contested]

/-- Two landing zones want one name: the run that comes first gets it, another one of its landing
zone takes the resource over, and what the two have delivered is safe. -/
theorem contested_name_is_safe :
    let blueprints := [claimant "ours", claimant "theirs", claimant "ours"]
    let reached := Fleet.follow Memory.provider [0, 1, 2, 1, 2] (blueprints.map Run.start) {}
    let shared := (Scene.record ⟨(claimant "ours").group, "ours", []⟩ contested).resource
    (([] : List Memory.Record).map Memory.Record.key).Nodup ∧
      reached.1.Delivers blueprints 2 (claimant "ours") [shared] ∧
      (reached.2.records.map Memory.Record.key).Nodup ∧
      List.Forall₂ (fun (planned : PlannedResource) (resource : DeployedResource) =>
        (∃ record ∈ reached.2.records, record.resource = resource ∧
          record.key = ("rg", planned.kind, planned.name)) ∧
        ∀ key ∈ Tags.managedKeys, resource.tags[key]? = planned.tags[key]?)
        (claimant "ours").plan.resources [shared] := by
  intro blueprints reached shared
  have distinct : (([] : List Memory.Record).map Memory.Record.key).Nodup := List.nodup_nil
  have delivers : reached.1.Delivers blueprints 2 (claimant "ours") [shared] :=
    ⟨rfl, by decide +kernel⟩
  obtain ⟨once, -, -, delivered, -⟩ :=
    concurrent_runs_are_safe blueprints {} distinct [0, 1, 2, 1, 2] []
  exact ⟨distinct, delivers, once, delivered 2 (claimant "ours") [shared] delivers⟩

end Provision
