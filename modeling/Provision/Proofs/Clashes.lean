/-
**Plans that contradict themselves.**

A blueprint is examined declaration by declaration. Two declarations that are fine by themselves can
still ask for one resource with different tags, and then the second one cannot be realised:

* `Plan.Coherent` says that no two resources of a plan do, `Plan.Clashes` that the one at an index does
  (`Plan.coherent_iff`);
* `Blueprint.bad_iff_clashes`: where nothing is stored and nothing fails, these are the declarations
  that cannot be realised;
* **`coherent_plans_are_carried_out`** — a blueprint without a fault is deployed to its end exactly
  when its plan is coherent, and up to the first clash otherwise;
* `rival_purposes_stop_halfway` is a blueprint of which half is deployed.
-/

import Mathlib.Data.Nat.Find
import Provision.Proofs.Forecast
import Provision.Proofs.Readback

namespace Provision

namespace Plan

/-- The first resource that is planned with a kind and a name. -/
def first? (plan : Plan) (kind : ResourceKind) (name : String) : Option PlannedResource :=
  plan.resources.find? fun planned => planned.kind = kind ∧ planned.name = name

/-- Resources that are planned with one kind and one name have the same tags. -/
def Coherent (plan : Plan) : Prop :=
  ∀ first ∈ plan.resources, ∀ second ∈ plan.resources,
    first.kind = second.kind → first.name = second.name → first.tags = second.tags

/-- The resource planned at an index has other tags than the first one of its kind and name. -/
def Clashes (plan : Plan) (index : Nat) : Prop :=
  ∃ planned ∈ plan.resources[index]?, ∃ first ∈ plan.first? planned.kind planned.name,
    first.tags ≠ planned.tags

instance (plan : Plan) : Decidable plan.Coherent :=
  inferInstanceAs (Decidable (∀ first ∈ plan.resources, _))

instance (plan : Plan) (index : Nat) : Decidable (plan.Clashes index) :=
  inferInstanceAs (Decidable (∃ planned ∈ plan.resources[index]?, _))

theorem first?_mem {plan : Plan} {kind : ResourceKind} {name : String} {first : PlannedResource}
    (found : plan.first? kind name = some first) :
    first ∈ plan.resources ∧ first.kind = kind ∧ first.name = name :=
  ⟨List.mem_of_find?_eq_some found, by simpa using List.find?_some found⟩

theorem exists_first? {plan : Plan} {planned : PlannedResource} (member : planned ∈ plan.resources) :
    ∃ first, plan.first? planned.kind planned.name = some first := by
  rw [← Option.isSome_iff_exists, first?, List.find?_isSome]
  exact ⟨planned, member, by simp⟩

/-- **A plan is coherent exactly when nothing in it clashes.** -/
theorem coherent_iff (plan : Plan) : plan.Coherent ↔ ∀ index, ¬plan.Clashes index := by
  constructor
  · rintro coherent index ⟨planned, here, first, found, different⟩
    obtain ⟨member, kind, name⟩ := first?_mem found
    exact different (coherent first member planned (List.mem_of_getElem? here) kind name)
  · intro fine
    have same : ∀ planned ∈ plan.resources, ∀ first,
        plan.first? planned.kind planned.name = some first → first.tags = planned.tags := by
      intro planned member first found
      obtain ⟨index, here⟩ := List.mem_iff_getElem?.mp member
      by_contra different
      exact fine index ⟨planned, here, first, found, different⟩
    intro one member other alike kind name
    obtain ⟨first, found⟩ := exists_first? member
    calc one.tags = first.tags := (same one member first found).symm
      _ = other.tags := same other alike first (by rw [← kind, ← name, found])

/-- In a plan that is not coherent there is a first clash. -/
theorem exists_first_clash {plan : Plan} (incoherent : ¬plan.Coherent) :
    ∃ index, plan.Clashes index ∧ ∀ earlier < index, ¬plan.Clashes earlier := by
  rw [coherent_iff, not_forall_not] at incoherent
  exact ⟨Nat.find incoherent, Nat.find_spec incoherent, fun _ => Nat.find_min incoherent⟩

end Plan

/-! ### What cannot be realised -/

/-- Declared tags that agree are the same, since they have no other keys. -/
theorem Declaration.tags_eq_of_agree {zone : String} {first second : Declaration}
    (agree : Tags.Agree (first.tags zone) (second.tags zone)) : first.tags zone = second.tags zone := by
  apply Std.ExtTreeMap.ext_getElem?
  intro key
  by_cases managed : key ∈ Tags.managedKeys
  · exact agree key managed
  · rw [first.tags_eq_written, second.tags_eq_written, Tags.written_getElem?_of_foreign _ _ _ managed,
      Tags.written_getElem?_of_foreign _ _ _ managed]

/-- A declaration is refused by what differs, where its name is taken by a resource of the landing zone
with other tags. -/
theorem Declaration.settle_of_drift {zone taken : String} {declaration : Declaration}
    {resource : DeployedResource} (owned : resource.tags.owner? = some zone)
    (disagree : ¬Tags.Agree (declaration.tags zone) resource.tags) :
    declaration.settle zone taken (.ok (some resource)) =
      .error (declaration.refused (.alreadyExists
        (driftText declaration.definition.name (drift (declaration.tags zone) resource.tags)))) := by
  rw [← drift_eq_nil_iff] at disagree
  cases keys : drift (declaration.tags zone) resource.tags with
  | nil => exact absurd keys disagree
  | cons key rest => simp [settle, owned, keys]

namespace Blueprint

variable {blueprint : Blueprint} {memory : Memory} {index : Nat} {declaration : Declaration}

/-- The first resource that is planned with the kind and the name of a declaration. -/
theorem first?_plan (blueprint : Blueprint) (declaration : Declaration) :
    blueprint.plan.first? declaration.definition.kind declaration.definition.name =
      (blueprint.declarations.find? fun other =>
        other.key blueprint.group = declaration.key blueprint.group).map (·.plan blueprint.zone) := by
  unfold Plan.first?
  show (blueprint.declarations.map _).find? _ = _
  rw [List.find?_map]
  congr 2
  funext other
  simp [Declaration.plan, Declaration.key]

/-- The first element of a kind is among those before one of that kind, or it is that one. -/
theorem find?_eq_or {α : Type} {chosen : α → Bool} {elements : List α} {index : Nat} {element : α}
    (there : elements[index]? = some element) (holds : chosen element = true) :
    elements.find? chosen = ((elements.take index).find? chosen).or (some element) := by
  obtain ⟨inside, rfl⟩ := List.getElem?_eq_some_iff.mp there
  calc elements.find? chosen
      = (elements.take index ++ elements.drop index).find? chosen := by rw [List.take_append_drop]
    _ = ((elements.take index).find? chosen).or ((elements.drop index).find? chosen) :=
        List.find?_append
    _ = ((elements.take index).find? chosen).or (some elements[index]) := by
        rw [List.drop_eq_getElem_cons inside, List.find?_cons_of_pos holds]

/-- Where nothing is stored and nothing fails, a declaration is bad exactly when its tags are not those
of the first one with its key. -/
theorem bad_iff_of_empty (empty : memory.records = []) (willing : memory.failing = [])
    (there : blueprint.declarations[index]? = some declaration) :
    blueprint.Bad memory index ↔
      ∃ first ∈ (blueprint.declarations.take index).find? fun other =>
          other.key blueprint.group = declaration.key blueprint.group,
        first.tags blueprint.zone ≠ declaration.tags blueprint.zone := by
  have planned := plan_resources_getElem? blueprint index
  rw [there, Option.map_some] at planned
  simp only [Bad, planned, there, Option.mem_def, Option.some.injEq, exists_eq_left', willing,
    List.not_mem_nil, false_or, earliest?, empty, List.find?_nil, Option.map_none, Option.none_or,
    Option.map_eq_some_iff]
  constructor
  · rintro ⟨resource, ⟨first, found, rfl⟩, key, managed, different⟩
    exact ⟨first, found, fun same => different (congrArg (·[key]?) same)⟩
  · rintro ⟨first, found, different⟩
    by_contra fine
    push Not at fine
    exact different (Declaration.tags_eq_of_agree fun key managed =>
      fine _ ⟨first, found, rfl⟩ key managed)

/-- **Where nothing is stored and nothing fails, exactly those declarations cannot be realised that
clash in the plan.** -/
theorem bad_iff_clashes (empty : memory.records = []) (willing : memory.failing = []) (index : Nat) :
    blueprint.Bad memory index ↔ blueprint.plan.Clashes index := by
  have planned := plan_resources_getElem? blueprint index
  cases there : blueprint.declarations[index]? with
  | none => simp [Bad, Plan.Clashes, planned, there]
  | some declaration =>
      rw [there, Option.map_some] at planned
      have found : blueprint.plan.first? declaration.definition.kind declaration.definition.name = _ :=
        (first?_plan blueprint declaration).trans
          (congrArg _ (find?_eq_or there (decide_eq_true rfl)))
      rw [bad_iff_of_empty empty willing there]
      simp only [Plan.Clashes, planned, Option.mem_def, Option.some.injEq, exists_eq_left']
      show _ ↔ ∃ first, blueprint.plan.first? declaration.definition.kind
        declaration.definition.name = some first ∧ first.tags ≠ declaration.tags blueprint.zone
      rw [found]
      cases (blueprint.declarations.take index).find? _ with
      | none => simp [Declaration.plan]
      | some first => simp [Declaration.plan]

/-! ### Deployments up to a clash -/

/-- A deployment stops at the first bad declaration. -/
theorem deploy_of_first_bad (faultless : blueprint.fault? = none) (bad : blueprint.Bad memory index)
    (fine : ∀ earlier < index, ¬blueprint.Bad memory earlier) :
    ∃ declaration error, blueprint.declarations[index]? = some declaration ∧
      (blueprint.sceneIn memory).verdict
        ((blueprint.sceneIn memory).laid (blueprint.declarations.take index) memory.records)
        declaration = .error error ∧
      blueprint.deploy Memory.provider memory = (.error error, memory.after
        ((blueprint.sceneIn memory).laid (blueprint.declarations.take index) memory.records)
        (index + 1)) := by
  rcases (blueprint.sceneIn memory).realised_or_refused blueprint.declarations memory.records with
    ⟨made, realised⟩ | ⟨first, declaration, rest, error, split, ⟨made, realised⟩, refused⟩
  · exact absurd bad ((deploy_of_realised faultless realised).1 index)
  · obtain ⟨stops, before, done⟩ := deploy_of_refused faultless split realised refused
    have same : index = first.length := by
      rcases Nat.lt_trichotomy index first.length with less | same | more
      · exact absurd bad (before index less)
      · exact same
      · exact absurd stops (fine _ more)
    have front : blueprint.declarations.take index = first := by simp [split, same]
    rw [front, same]
    exact ⟨declaration, error, by simp [split], refused, done⟩

theorem bars_of_willing (blueprint : Blueprint) (willing : memory.failing = [])
    (declaration : Declaration) : (blueprint.sceneIn memory).bars declaration = false := by
  simp [Scene.bars, sceneIn, Memory.scene, willing]

/-- Where nothing is stored and nothing fails, a declaration is refused by what distinguishes it from the
first one with its key. -/
theorem verdict_of_clash (empty : memory.records = []) (willing : memory.failing = [])
    {first : Declaration}
    (found : ((blueprint.declarations.take index).find? fun other =>
      other.key blueprint.group = declaration.key blueprint.group) = some first)
    (different : first.tags blueprint.zone ≠ declaration.tags blueprint.zone) :
    (blueprint.sceneIn memory).verdict
        ((blueprint.sceneIn memory).laid (blueprint.declarations.take index) memory.records)
        declaration =
      .error (declaration.refused (.alreadyExists (Declaration.driftText declaration.definition.name
        (Declaration.drift (declaration.tags blueprint.zone) (first.tags blueprint.zone))))) := by
  have free := blueprint.bars_of_willing willing
  have holds : (blueprint.sceneIn memory).holder?
      ((blueprint.sceneIn memory).laid (blueprint.declarations.take index) memory.records)
      declaration = some ((blueprint.sceneIn memory).record first) := by
    have others : (blueprint.declarations.take index).find? _ = some first := found
    rw [Scene.holder?_laid fun other _ => free other, empty]
    exact congrArg (Option.map _) others
  rw [Scene.verdict_of_holder? (free declaration) holds]
  refine Declaration.settle_of_drift (first.owner?_tags blueprint.zone) fun agree => different ?_
  exact (Declaration.tags_eq_of_agree agree).symm

/-- Where nothing is stored and nothing fails, a deployment stops at the first clash. -/
theorem stops_at_clash (faultless : blueprint.fault? = none) (empty : memory.records = [])
    (willing : memory.failing = []) (clash : blueprint.plan.Clashes index)
    (fine : ∀ earlier < index, ¬blueprint.plan.Clashes earlier) :
    let reply := blueprint.deploy Memory.provider memory
    ∃ planned first, blueprint.plan.resources[index]? = some planned ∧
      blueprint.plan.first? planned.kind planned.name = some first ∧
      reply.1 = .error (.creation planned.kind planned.name (.alreadyExists
        (Declaration.driftText planned.name (Declaration.drift planned.tags first.tags)))) ∧
      blueprint.Grows memory index reply.2.records := by
  intro reply
  have bad := blueprint.bad_iff_clashes empty willing
  obtain ⟨declaration, error, there, refused, done⟩ := deploy_of_first_bad faultless
    ((bad index).mpr clash) fun earlier before here => fine earlier before ((bad earlier).mp here)
  obtain ⟨first, found, different⟩ :=
    (bad_iff_of_empty empty willing there).mp ((bad index).mpr clash)
  rw [verdict_of_clash empty willing found different] at refused
  refine ⟨declaration.plan blueprint.zone, first.plan blueprint.zone, ?_, ?_, ?_, ?_⟩
  · rw [plan_resources_getElem?, there, Option.map_some]
  · have earlier : (blueprint.declarations.take index).find? _ = some first := found
    exact (first?_plan blueprint declaration).trans
      (by rw [find?_eq_or there (decide_eq_true rfl), earlier]; rfl)
  · rw [show reply = _ from done, ← Except.error.inj refused]
    rfl
  · rw [show reply = _ from done]
    exact grows_laid rfl fun other _ => blueprint.bars_of_willing willing other

/-- Where no declaration is bad, all of them are realised. -/
theorem exists_realised_of_fine (faultless : blueprint.fault? = none)
    (fine : ∀ index, ¬blueprint.Bad memory index) :
    ∃ made : List DeployedResource,
      (blueprint.sceneIn memory).verdicts memory.records blueprint.declarations = made.map .ok := by
  rcases (blueprint.sceneIn memory).realised_or_refused blueprint.declarations memory.records with
    done | ⟨first, declaration, rest, error, split, ⟨made, realised⟩, refused⟩
  · exact done
  · exact absurd (deploy_of_refused faultless split realised refused).1 (fine _)

/-- A coherent plan is carried out where nothing is stored and nothing fails. -/
theorem exists_realised_of_coherent (faultless : blueprint.fault? = none) (empty : memory.records = [])
    (willing : memory.failing = []) (coherent : blueprint.plan.Coherent) :
    ∃ made : List DeployedResource,
      (blueprint.sceneIn memory).verdicts memory.records blueprint.declarations = made.map .ok ∧
      made.length = blueprint.plan.resources.length := by
  obtain ⟨made, realised⟩ := exists_realised_of_fine faultless fun index bad =>
    blueprint.plan.coherent_iff.mp coherent index
      ((blueprint.bad_iff_clashes empty willing index).mp bad)
  refine ⟨made, realised, ?_⟩
  simpa [Blueprint.plan] using (Scene.stands_of_verdicts realised).length_eq.symm

end Blueprint

/-- **A coherent plan is carried out, and no other one.** Let nothing be stored and no name fail. The
deployment of a blueprint without a fault delivers one resource for each planned one exactly when
resources planned with one kind and one name have the same tags. Otherwise it stops halfway, at the first
resource whose tags are not those of the first one of its kind and name, with an error that lists what
differs; what was created before stays. -/
theorem coherent_plans_are_carried_out (blueprint : Blueprint) (memory : Memory)
    (faultless : blueprint.fault? = none) (empty : memory.records = [])
    (willing : memory.failing = []) :
    let plan := blueprint.plan
    let reply := blueprint.deploy Memory.provider memory
    ((∃ made, reply.1 = .ok made ∧ made.length = plan.resources.length) ↔ plan.Coherent) ∧
    (¬plan.Coherent → ∃ index,
      plan.Clashes index ∧ (∀ earlier < index, ¬plan.Clashes earlier) ∧
      ∃ planned first, plan.resources[index]? = some planned ∧
        plan.first? planned.kind planned.name = some first ∧
        reply.1 = .error (.creation planned.kind planned.name (.alreadyExists
          (Declaration.driftText planned.name (Declaration.drift planned.tags first.tags)))) ∧
        blueprint.Grows memory index reply.2.records) := by
  intro plan reply
  have incomplete : ¬plan.Coherent → ∃ error, reply.1 = .error error := by
    intro incoherent
    obtain ⟨index, clash, fine⟩ := Plan.exists_first_clash incoherent
    obtain ⟨planned, first, -, -, failed, -⟩ :=
      Blueprint.stops_at_clash faultless empty willing clash fine
    exact ⟨_, failed⟩
  refine ⟨⟨fun ⟨made, done, _⟩ => ?_, fun coherent => ?_⟩, fun incoherent => ?_⟩
  · by_contra incoherent
    obtain ⟨error, failed⟩ := incomplete incoherent
    cases done.symm.trans failed
  · obtain ⟨made, realised, count⟩ :=
      Blueprint.exists_realised_of_coherent faultless empty willing coherent
    exact ⟨made, congrArg (·.1) (Blueprint.deploy_of_realised faultless realised).2, count⟩
  · obtain ⟨index, clash, fine⟩ := Plan.exists_first_clash incoherent
    exact ⟨index, clash, fine, Blueprint.stops_at_clash faultless empty willing clash fine⟩

/-! ### Two purposes for one account -/

/-- A database, and an account that is declared twice, for different purposes. -/
def rivalling : Blueprint :=
  ((((⟨⟨"rg", "eastus", "sub"⟩, "", []⟩ : Blueprint).define "lz").declare
    { name := "db", kind := .postgresServer, region := "eastus" }).declare
      { name := "sa", kind := .storageAccount, region := "eastus" } (some .shared)).declare
        { name := "sa", kind := .storageAccount, region := "eastus" } (some .workspace)

/-- Without its last declaration the blueprint is deployed to the end, after any number of attempts. With
it, the second declaration of the account is the one that clashes. -/
theorem rivalling_plan_is_carried_out_in_part :
    let peaceful := { rivalling with declarations := rivalling.declarations.take 2 }
    (∃ made, (peaceful.deploy Memory.provider { attempts := 7 }).1 = .ok made ∧ made.length = 2) ∧
    rivalling.plan.Clashes 2 ∧
    ∃ (index : Nat) (planned first : PlannedResource), rivalling.plan.Clashes index ∧
      rivalling.plan.resources[index]? = some planned ∧
      (rivalling.deploy Memory.provider {}).1 = .error (.creation planned.kind planned.name
        (.alreadyExists (Declaration.driftText planned.name
          (Declaration.drift planned.tags first.tags)))) := by
  intro peaceful
  have clash : rivalling.plan.Clashes 2 := by decide +kernel
  have coherent : peaceful.plan.Coherent := by decide +kernel
  have incoherent : ¬rivalling.plan.Coherent := fun coherent =>
    rivalling.plan.coherent_iff.mp coherent 2 clash
  obtain ⟨index, clashes, -, planned, first, here, -, failed, -⟩ :=
    (coherent_plans_are_carried_out rivalling {} (by decide +kernel) rfl rfl).2 incoherent
  exact ⟨(coherent_plans_are_carried_out peaceful { attempts := 7 } (by decide +kernel) rfl rfl).1.mpr
    coherent, clash, index, planned, first, clashes, here, failed⟩

theorem rivalling_built : rivalling.Built :=
  ((((Blueprint.Built.fresh _).define _).declare _ _).declare _ _).declare _ _

/-- **A blueprint without a fault can be deployed by half**, because of its own declarations: the account
is created for the first purpose, and its second declaration is refused. -/
theorem rival_purposes_stop_halfway :
    rivalling.Built ∧ rivalling.fault? = none ∧ rivalling.plan.resources.length = 3 ∧
    (rivalling.deploy Memory.provider {}).1 =
      .error (.creation .storageAccount "sa"
        (.alreadyExists "sa exists with different tags (landing-zone-purpose)")) ∧
    (rivalling.deploy Memory.provider {}).2.records.map (·.name) = ["db", "sa"] :=
  ⟨rivalling_built, by decide +kernel⟩

end Provision
