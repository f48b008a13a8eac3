/-
**Plans say what deployments do.**

A plan is drawn up without asking anybody. What a deployment into memory comes to can nevertheless be
told from the plan and from the records that are there, also where names repeat, are taken already or
cannot be created:

* `Blueprint.fresh` is what a planned resource becomes when it is new, `Blueprint.earliest?` what stands
  at its key first;
* `Blueprint.Bad` says which declarations cannot be realised as planned
  (`Blueprint.bad_iff_verdict_error`);
* `Blueprint.Grows` says what is added to the records (`Blueprint.grows_laid`): one record for each new
  key, in order;
* **`plans_forecast_deployments`**: a deployment creates what is planned, up to the first bad declaration.
-/

import Provision.Proofs.Standing

namespace Provision

namespace Blueprint

variable (blueprint : Blueprint) (memory : Memory)

/-- The resource that a declaration is given when it is new, with the tags that are planned for it. -/
def fresh (declaration : Declaration) (tags : Tags) : DeployedResource where
  id := blueprint.group.resourceId declaration.definition.kind declaration.definition.name
  type := declaration.definition.kind.type
  region := declaration.definition.region
  tags := tags

/-- The resource that is stored first under the key of a declaration: it is there from the start, or it
is created for one of the declarations before an index. -/
def earliest? (index : Nat) (declaration : Declaration) : Option DeployedResource :=
  let stored := memory.records.find? fun record => record.key = declaration.key blueprint.group
  let earlier := (blueprint.declarations.take index).find? fun other =>
    other.key blueprint.group = declaration.key blueprint.group
  (stored.map (·.resource)).or
    (earlier.map fun other => blueprint.fresh other (other.plan blueprint.zone).tags)

/-- The declaration at an index cannot be realised as planned: its name cannot be created, or the
resource that is stored first under its key differs from the plan in a managed tag. -/
def Bad (index : Nat) : Prop :=
  ∃ declaration ∈ blueprint.declarations[index]?, ∃ planned ∈ blueprint.plan.resources[index]?,
    declaration.definition.name ∈ memory.failing ∨
      ∃ resource ∈ blueprint.earliest? memory index declaration,
        ∃ key ∈ Tags.managedKeys, resource.tags[key]? ≠ planned.tags[key]?

instance (index : Nat) : Decidable (blueprint.Bad memory index) :=
  inferInstanceAs (Decidable (∃ declaration ∈ blueprint.declarations[index]?, _))

/-- The records are those of a memory, followed by one for each key of the first declarations that is
new, in their order. Each of them is what the first declaration of its key is given. -/
def Grows (count : Nat) (later : List Memory.Record) : Prop :=
  ∃ added : List Memory.Record, later = memory.records ++ added ∧
    added.map Memory.Record.key =
      (((blueprint.declarations.take count).map (Declaration.key blueprint.group)).filter
        (· ∉ memory.records.map Memory.Record.key)).eraseDups ∧
    ∀ record ∈ added, ∃ declaration,
      (blueprint.declarations.take count).find?
        (fun declaration => declaration.key blueprint.group = record.key) = some declaration ∧
      record.resource = blueprint.fresh declaration (declaration.plan blueprint.zone).tags ∧
      record.subnets = declaration.definition.subnets.map (·.name)

end Blueprint

/-! ### The records after several declarations -/

namespace Scene

variable {scene : Scene} {declarations : List Declaration} {records : List Memory.Record}

theorem holder?_eq_find?_key (records : List Memory.Record) (declaration : Declaration) :
    scene.holder? records declaration =
      records.find? fun record => record.key = declaration.key scene.group := by
  unfold holder?
  congr 1
  funext record
  rw [Bool.eq_iff_iff, record.isAt_iff, decide_eq_true_iff]
  rfl

theorem grown_of_taken {declaration : Declaration}
    (taken : declaration.key scene.group ∈ records.map Memory.Record.key) :
    scene.grown records declaration = records := by
  cases holds : scene.holder? records declaration with
  | some record => exact grown_of_holder? holds
  | none => exact absurd taken (key_notMem_of_vacant holds)

theorem grown_of_new {declaration : Declaration} (free : scene.bars declaration = false)
    (new : declaration.key scene.group ∉ records.map Memory.Record.key) :
    scene.grown records declaration = records ++ [scene.record declaration] := by
  cases holds : scene.holder? records declaration with
  | none => exact grown_of_vacant free holds
  | some record =>
      obtain ⟨member, same⟩ := holder?_key holds
      exact absurd (List.mem_map.mpr ⟨record, member, same⟩) new

/-- After declarations that are not barred, the first record of a key is the one that was there, or
that of the first declaration with this key. -/
theorem holder?_laid (free : ∀ declaration ∈ declarations, scene.bars declaration = false)
    (declaration : Declaration) :
    scene.holder? (scene.laid declarations records) declaration =
      (scene.holder? records declaration).or
        ((declarations.find? fun other =>
          other.key scene.group = declaration.key scene.group).map scene.record) := by
  induction declarations generalizing records with
  | nil => simp
  | cons other rest hyp =>
      obtain ⟨freeOther, freeRest⟩ := List.forall_mem_cons.mp free
      rw [laid_cons, hyp freeRest]
      by_cases taken : other.key scene.group ∈ records.map Memory.Record.key
      · rw [grown_of_taken taken]
        by_cases same : other.key scene.group = declaration.key scene.group
        · -- what follows does not count, since the key is that of a record
          cases holds : scene.holder? records declaration with
          | some record => rfl
          | none => exact absurd (same ▸ taken) (key_notMem_of_vacant holds)
        · rw [List.find?_cons_of_neg (by simpa using same)]
      · rw [grown_of_new freeOther taken]
        simp only [holder?_eq_find?_key, List.find?_append, Option.or_assoc]
        by_cases same : other.key scene.group = declaration.key scene.group
        · simp [same]
        · simp [same]

/-- Records whose keys were selected have keys of that selection. -/
theorem holds_of_keys {added : List Memory.Record} {keys : List (String × ResourceKind × String)}
    {selects : String × ResourceKind × String → Bool}
    (same : added.map Memory.Record.key = (keys.filter selects).eraseDups)
    {record : Memory.Record} (member : record ∈ added) : selects record.key = true := by
  have inside : record.key ∈ (keys.filter selects).eraseDups := by
    rw [← same]
    exact List.mem_map_of_mem member
  rw [List.mem_eraseDups, List.mem_filter] at inside
  exact inside.2

/-- Declarations that are not barred add a record for each key that is new, in their order. -/
theorem exists_added (free : ∀ declaration ∈ declarations, scene.bars declaration = false)
    (records : List Memory.Record) :
    ∃ added, scene.laid declarations records = records ++ added ∧
      added.map Memory.Record.key =
        ((declarations.map (Declaration.key scene.group)).filter
          (· ∉ records.map Memory.Record.key)).eraseDups ∧
      ∀ record ∈ added, ∃ declaration,
        declarations.find? (fun declaration => declaration.key scene.group = record.key) =
          some declaration ∧ record = scene.record declaration := by
  induction declarations generalizing records with
  | nil => exact ⟨[], by simp, by simp, by simp⟩
  | cons other rest hyp =>
      obtain ⟨freeOther, freeRest⟩ := List.forall_mem_cons.mp free
      rw [laid_cons]
      by_cases taken : other.key scene.group ∈ records.map Memory.Record.key
      · obtain ⟨added, all, keys, each⟩ := hyp freeRest records
        refine ⟨added, by rw [grown_of_taken taken, all], ?_, ?_⟩
        · rw [List.map_cons, List.filter_cons_of_neg (by simpa using taken), keys]
        · intro record member
          have new : record.key ∉ records.map Memory.Record.key :=
            of_decide_eq_true (holds_of_keys keys member)
          have different : other.key scene.group ≠ record.key := fun same => new (same ▸ taken)
          rw [List.find?_cons_of_neg (by simpa using different)]
          exact each record member
      · obtain ⟨added, all, keys, each⟩ := hyp freeRest (records ++ [scene.record other])
        have known (key : String × ResourceKind × String) :
            key ∉ (records ++ [scene.record other]).map Memory.Record.key ↔
              key ∉ records.map Memory.Record.key ∧ key ≠ other.key scene.group := by
          simp
        simp only [known] at keys
        refine ⟨scene.record other :: added, ?_, ?_, ?_⟩
        · rw [grown_of_new freeOther taken, all, List.append_assoc, List.singleton_append]
        · rw [List.map_cons, List.map_cons, List.filter_cons_of_pos (by simpa using taken),
            List.eraseDups_cons, List.filter_filter, record_key, keys]
          congr 2
          apply List.filter_congr
          intro key _
          rw [Bool.eq_iff_iff]
          simp [and_comm]
        · intro record member
          rcases List.mem_cons.mp member with rfl | later
          · exact ⟨other, List.find?_cons_of_pos (by simp), rfl⟩
          · have different : other.key scene.group ≠ record.key :=
              (of_decide_eq_true (holds_of_keys keys later)).2.symm
            rw [List.find?_cons_of_neg (by simpa using different)]
            exact each record later

/-- What the declaration at an index leads to is decided by the records that those before it leave. -/
theorem verdicts_getElem? (records : List Memory.Record) (index : Nat) :
    (scene.verdicts records declarations)[index]? =
      declarations[index]?.map (scene.verdict (scene.laid (declarations.take index) records)) := by
  induction declarations generalizing records index with
  | nil => rfl
  | cons declaration rest hyp =>
      cases index with
      | zero => rfl
      | succ index => simpa [verdicts] using hyp (scene.grown records declaration) index

/-- A declaration that leads to something is not barred. -/
theorem free_of_verdict {declaration : Declaration} {resource : DeployedResource}
    (realised : scene.verdict records declaration = .ok resource) :
    scene.bars declaration = false := by
  cases free : scene.bars declaration with
  | false => rfl
  | true =>
      rw [verdict_of_bars free] at realised
      cases realised

/-- If all declarations lead to something, so does each of them at its place. -/
theorem exists_verdict {made : List DeployedResource} {index : Nat} {declaration : Declaration}
    (realised : scene.verdicts records declarations = made.map .ok)
    (there : declarations[index]? = some declaration) :
    ∃ resource, made[index]? = some resource ∧
      scene.verdict (scene.laid (declarations.take index) records) declaration = .ok resource := by
  have verdict := congrArg (·[index]?) realised
  simp only [verdicts_getElem?, there, Option.map_some, List.getElem?_map] at verdict
  obtain ⟨resource, here, same⟩ := Option.map_eq_some_iff.mp verdict.symm
  exact ⟨resource, here, same.symm⟩

theorem free_of_verdicts {made : List DeployedResource}
    (realised : scene.verdicts records declarations = made.map .ok) :
    ∀ declaration ∈ declarations, scene.bars declaration = false := by
  intro declaration member
  obtain ⟨index, there⟩ := List.mem_iff_getElem?.mp member
  obtain ⟨resource, -, verdict⟩ := exists_verdict realised there
  exact free_of_verdict verdict

end Scene

/-- Whatever a declaration does not settle for, the error is one of creating its resource. -/
theorem Declaration.exists_cause_of_settle {zone taken : String} {declaration : Declaration}
    {answer : Answer (Option DeployedResource)} {error : ZoneError}
    (unsettled : declaration.settle zone taken answer = .error error) :
    ∃ cause, error = declaration.refused cause := by
  unfold settle at unsettled
  split at unsettled
  · exact ⟨_, (Except.error.inj unsettled).symm⟩
  · exact ⟨_, (Except.error.inj unsettled).symm⟩
  · split at unsettled
    · split at unsettled
      · cases unsettled
      · exact ⟨_, (Except.error.inj unsettled).symm⟩
    · exact ⟨_, (Except.error.inj unsettled).symm⟩

theorem Scene.exists_cause_of_verdict {scene : Scene} {records : List Memory.Record}
    {declaration : Declaration} {error : ZoneError}
    (refused : scene.verdict records declaration = .error error) :
    ∃ cause, error = declaration.refused cause := by
  unfold verdict at refused
  split at refused
  · exact ⟨_, (Except.error.inj refused).symm⟩
  · split at refused
    · exact declaration.exists_cause_of_settle refused
    · cases refused

namespace Blueprint

variable {blueprint : Blueprint} {memory : Memory} {index : Nat} {declaration : Declaration}

/-! ### What is planned and what it leads to -/

theorem plan_resources_getElem? (blueprint : Blueprint) (index : Nat) :
    blueprint.plan.resources[index]? =
      blueprint.declarations[index]?.map (·.plan blueprint.zone) :=
  List.getElem?_map

/-- The scene of the deployment of a blueprint into a memory. -/
def sceneIn (blueprint : Blueprint) (memory : Memory) : Scene :=
  memory.scene blueprint.group blueprint.zone

theorem bars_iff (blueprint : Blueprint) (memory : Memory) (declaration : Declaration) :
    (blueprint.sceneIn memory).bars declaration = true ↔
      declaration.definition.name ∈ memory.failing :=
  List.contains_iff_mem

/-- What is stored first under a key is the resource of the record that the deployment finds there. -/
theorem earliest?_eq
    (free : ∀ earlier ∈ blueprint.declarations.take index,
      (blueprint.sceneIn memory).bars earlier = false) (declaration : Declaration) :
    blueprint.earliest? memory index declaration =
      ((blueprint.sceneIn memory).holder?
        ((blueprint.sceneIn memory).laid (blueprint.declarations.take index) memory.records)
        declaration).map (·.resource) := by
  rw [Scene.holder?_laid free, Option.map_or, Option.map_map, Scene.holder?_eq_find?_key]
  rfl

/-- A declaration leads to what is stored first under its key, if that is as planned, and otherwise to a
new resource with the planned tags. -/
theorem verdict_eq_ok_iff
    (free : ∀ earlier ∈ blueprint.declarations.take index,
      (blueprint.sceneIn memory).bars earlier = false)
    (resource : DeployedResource) :
    (blueprint.sceneIn memory).verdict
        ((blueprint.sceneIn memory).laid (blueprint.declarations.take index) memory.records)
        declaration = .ok resource ↔
      declaration.definition.name ∉ memory.failing ∧
        resource = (blueprint.earliest? memory index declaration).getD
          (blueprint.fresh declaration (declaration.plan blueprint.zone).tags) ∧
        ∀ stored, blueprint.earliest? memory index declaration = some stored →
          Tags.Agree (declaration.tags blueprint.zone) stored.tags := by
  rw [earliest?_eq free, ← bars_iff blueprint memory]
  generalize (blueprint.sceneIn memory).laid _ _ = records
  cases barred : (blueprint.sceneIn memory).bars declaration with
  | true => simp [Scene.verdict_of_bars barred]
  | false =>
      cases holds : (blueprint.sceneIn memory).holder? records declaration with
      | none =>
          have same : ((blueprint.sceneIn memory).record declaration).resource =
            blueprint.fresh declaration (declaration.plan blueprint.zone).tags := rfl
          rw [Scene.verdict_of_vacant barred holds, same]
          simp [eq_comm]
      | some record =>
          rw [Scene.verdict_of_holder? barred holds, Declaration.settle_eq_ok_iff]
          simp [sceneIn, Memory.scene, eq_comm]

/-- **The bad declarations are those that cannot be realised**, if none before them is barred. -/
theorem bad_iff_verdict_error
    (free : ∀ earlier ∈ blueprint.declarations.take index,
      (blueprint.sceneIn memory).bars earlier = false)
    (there : blueprint.declarations[index]? = some declaration) :
    blueprint.Bad memory index ↔
      ∃ error, (blueprint.sceneIn memory).verdict
        ((blueprint.sceneIn memory).laid (blueprint.declarations.take index) memory.records)
        declaration = .error error := by
  have planned : blueprint.plan.resources[index]? = some (declaration.plan blueprint.zone) := by
    rw [plan_resources_getElem?, there, Option.map_some]
  constructor
  · rintro ⟨other, here, plan, plans, wrong⟩
    obtain rfl := Option.some.inj (there.symm.trans here)
    obtain rfl := Option.some.inj (planned.symm.trans plans)
    cases verdict : (blueprint.sceneIn memory).verdict _ declaration with
    | error error => exact ⟨error, rfl⟩
    | ok resource =>
        obtain ⟨possible, -, agrees⟩ := (verdict_eq_ok_iff free resource).mp verdict
        rcases wrong with failing | ⟨stored, first, key, managed, different⟩
        · exact absurd failing possible
        · exact absurd (agrees stored first key managed).symm different
  · rintro ⟨error, refused⟩
    refine ⟨declaration, there, declaration.plan blueprint.zone, planned, ?_⟩
    by_contra fine
    push Not at fine
    have realised := (verdict_eq_ok_iff free _).mpr
      ⟨fine.1, rfl, fun stored first key managed => (fine.2 stored first key managed).symm⟩
    rw [refused] at realised
    cases realised

/-- What the first declarations leave, if none of them is barred, is a record for each new key. -/
theorem grows_laid {count : Nat} {first : List Declaration}
    (front : blueprint.declarations.take count = first)
    (free : ∀ earlier ∈ first, (blueprint.sceneIn memory).bars earlier = false) :
    blueprint.Grows memory count ((blueprint.sceneIn memory).laid first memory.records) := by
  obtain ⟨added, all, keys, each⟩ := Scene.exists_added free memory.records
  subst front
  refine ⟨added, all, keys, ?_⟩
  intro record member
  obtain ⟨declaration, first, rfl⟩ := each record member
  exact ⟨declaration, first, rfl, rfl⟩

/-! ### Deployments to the end, and up to the first failure -/

/-- If all declarations can be realised, none of them is bad, and the deployment comes to its end. -/
theorem deploy_of_realised (faultless : blueprint.fault? = none) {made : List DeployedResource}
    (realised : (blueprint.sceneIn memory).verdicts memory.records blueprint.declarations =
      made.map .ok) :
    (∀ index, ¬blueprint.Bad memory index) ∧
      blueprint.deploy Memory.provider memory =
        (.ok made, memory.after
          ((blueprint.sceneIn memory).laid blueprint.declarations memory.records)
          blueprint.declarations.length) := by
  have free := Scene.free_of_verdicts realised
  constructor
  · intro index bad
    obtain ⟨declaration, there, -⟩ := id bad
    obtain ⟨error, refused⟩ := (bad_iff_verdict_error
      (fun earlier member => free earlier (List.mem_of_mem_take member)) there).mp bad
    obtain ⟨resource, -, verdict⟩ := Scene.exists_verdict realised there
    cases refused.symm.trans verdict
  · rw [deploy_of_faultless faultless, Declaration.realiseAll_of_done _ _ _ _ _ realised]
    rfl

/-- What a deployment that comes to its end creates. -/
theorem made_getElem? {made : List DeployedResource}
    (realised : (blueprint.sceneIn memory).verdicts memory.records blueprint.declarations =
      made.map .ok)
    (there : blueprint.declarations[index]? = some declaration) :
    made[index]? = some ((blueprint.earliest? memory index declaration).getD
      (blueprint.fresh declaration (declaration.plan blueprint.zone).tags)) := by
  have free := Scene.free_of_verdicts realised
  obtain ⟨resource, here, verdict⟩ := Scene.exists_verdict realised there
  obtain ⟨-, rfl, -⟩ := (verdict_eq_ok_iff
    (fun earlier member => free earlier (List.mem_of_mem_take member)) resource).mp verdict
  exact here

/-- If a declaration cannot be realised and all before it can, it is the first bad one, and the
deployment stops there. -/
theorem deploy_of_refused (faultless : blueprint.fault? = none) {first rest : List Declaration}
    {made : List DeployedResource} {error : ZoneError}
    (split : blueprint.declarations = first ++ declaration :: rest)
    (realised : (blueprint.sceneIn memory).verdicts memory.records first = made.map .ok)
    (refused : (blueprint.sceneIn memory).verdict
      ((blueprint.sceneIn memory).laid first memory.records) declaration = .error error) :
    blueprint.Bad memory first.length ∧
      (∀ earlier < first.length, ¬blueprint.Bad memory earlier) ∧
      blueprint.deploy Memory.provider memory =
        (.error error, memory.after ((blueprint.sceneIn memory).laid first memory.records)
          (first.length + 1)) := by
  have free := Scene.free_of_verdicts realised
  have front : blueprint.declarations.take first.length = first := by simp [split]
  have there : blueprint.declarations[first.length]? = some declaration := by simp [split]
  refine ⟨?_, ?_, ?_⟩
  · rw [bad_iff_verdict_error (by rwa [front]) there, front]
    exact ⟨error, refused⟩
  · intro index before bad
    obtain ⟨earlier, here, -⟩ := id bad
    have within : blueprint.declarations.take index = first.take index := by
      rw [split, List.take_append_of_le_length (Nat.le_of_lt before)]
    have inside : first[index]? = some earlier := by
      rwa [split, List.getElem?_append_left before] at here
    rw [bad_iff_verdict_error
      (by rw [within]; exact fun other member => free other (List.mem_of_mem_take member)) here,
      within] at bad
    obtain ⟨failure, unrealised⟩ := bad
    obtain ⟨resource, -, verdict⟩ := Scene.exists_verdict realised inside
    cases unrealised.symm.trans verdict
  · rw [deploy_of_faultless faultless, split,
      Declaration.realiseAll_of_refused _ _ _ _ _ _ _ _ realised refused]
    rfl

end Blueprint

/-- **Plans say what deployments do.** Let a blueprint have no fault, and a memory hold and fail whatever
it may. If no declaration is bad, the deployment comes to its end: each planned resource is the one that
was stored first under its key, or a new one with the planned tags. Otherwise it stops with an error of
creating the resource of the first bad declaration. Either way nothing that was there is changed, and one
record is added for each new key before that, in order. -/
theorem plans_forecast_deployments (blueprint : Blueprint) (memory : Memory)
    (faultless : blueprint.fault? = none) :
    let reply := blueprint.deploy Memory.provider memory
    ((∀ index, ¬blueprint.Bad memory index) →
      ∃ made, reply.1 = .ok made ∧ made.length = blueprint.plan.resources.length ∧
        (∀ index declaration planned, blueprint.declarations[index]? = some declaration →
          blueprint.plan.resources[index]? = some planned →
          made[index]? = some ((blueprint.earliest? memory index declaration).getD
            (blueprint.fresh declaration planned.tags))) ∧
        blueprint.Grows memory blueprint.declarations.length reply.2.records) ∧
    (∀ index, blueprint.Bad memory index →
      (∀ earlier < index, ¬blueprint.Bad memory earlier) →
      ∃ declaration cause, blueprint.declarations[index]? = some declaration ∧
        reply.1 = .error
          (.creation declaration.definition.kind declaration.definition.name cause) ∧
        blueprint.Grows memory index reply.2.records) ∧
    reply.2.failing = memory.failing := by
  intro reply
  rcases (blueprint.sceneIn memory).realised_or_refused blueprint.declarations memory.records with
    ⟨made, realised⟩ | ⟨first, declaration, rest, error, split, ⟨made, realised⟩, refused⟩
  · obtain ⟨fine, done⟩ := Blueprint.deploy_of_realised faultless realised
    have free := Scene.free_of_verdicts realised
    refine ⟨?_, fun index bad _ => absurd bad (fine index), congrArg (·.2.failing) done⟩
    intro _
    have count : made.length = blueprint.plan.resources.length := by
      simpa [Blueprint.plan] using (Scene.stands_of_verdicts realised).length_eq.symm
    refine ⟨made, congrArg (·.1) done, count, ?_, ?_⟩
    · intro index declaration planned there plans
      rw [Blueprint.plan_resources_getElem?, there, Option.map_some] at plans
      obtain rfl := Option.some.inj plans
      exact Blueprint.made_getElem? realised there
    · have records : reply.2.records =
          (blueprint.sceneIn memory).laid blueprint.declarations memory.records :=
        congrArg (·.2.records) done
      rw [records]
      exact Blueprint.grows_laid List.take_length free
  · obtain ⟨bad, fine, done⟩ := Blueprint.deploy_of_refused faultless split realised refused
    refine ⟨fun none => absurd bad (none _), ?_, congrArg (·.2.failing) done⟩
    intro index badHere fineBefore
    -- the first bad declaration is the one that cannot be realised
    have same : index = first.length := by
      rcases Nat.lt_trichotomy index first.length with less | same | more
      · exact absurd badHere (fine index less)
      · exact same
      · exact absurd bad (fineBefore _ more)
    subst same
    obtain ⟨cause, rfl⟩ := Scene.exists_cause_of_verdict refused
    have records : reply.2.records = (blueprint.sceneIn memory).laid first memory.records :=
      congrArg (·.2.records) done
    refine ⟨declaration, cause, by simp [split], congrArg (·.1) done, ?_⟩
    rw [records]
    exact Blueprint.grows_laid (by simp [split]) (Scene.free_of_verdicts realised)

/-- A blueprint that declares a storage account twice and then a batch account. -/
def overlapping : Blueprint where
  group := ⟨"rg", "eastus", "sub"⟩
  zone := "lz"
  declarations :=
    [{ definition := { name := "sa", kind := .storageAccount, region := "eastus" } },
     { definition := { name := "sa", kind := .storageAccount, region := "westus" } },
     { definition := { name := "ba", kind := .batchAccount, region := "eastus" }
       purpose := some .shared }]

/-- A memory in which the batch account belongs to somebody else. -/
def occupied : Memory where
  records := [.foreign overlapping.group .batchAccount "ba" (Tags.owned "other") []]

/-- What is planned is created where nothing is in the way, and up to the batch account where somebody
else has it. -/
theorem overlapping_plan_forecasts :
    overlapping.fault? = none ∧
    (∃ made, (overlapping.deploy Memory.provider {}).1 = .ok made ∧ made.length = 3) ∧
    (∃ declaration cause, overlapping.declarations[2]? = some declaration ∧
      (overlapping.deploy Memory.provider occupied).1 =
        .error (.creation declaration.definition.kind declaration.definition.name cause) ∧
      overlapping.Grows occupied 2 (overlapping.deploy Memory.provider occupied).2.records) := by
  have faultless : overlapping.fault? = none := by decide +kernel
  refine ⟨faultless, ?_, ?_⟩
  · have fine : ∀ index, ¬overlapping.Bad {} index := by
      intro index bad
      obtain ⟨declaration, there, -⟩ := id bad
      have inside : index < 3 := List.getElem?_eq_some_iff.mp there |>.1
      have none : ∀ index < 3, ¬overlapping.Bad {} index := by decide +kernel
      exact none index inside bad
    obtain ⟨made, done, count, -⟩ := (plans_forecast_deployments overlapping {} faultless).1 fine
    exact ⟨made, done, count⟩
  · exact (plans_forecast_deployments overlapping occupied faultless).2.1 2 (by decide +kernel)
      (by decide +kernel)

end Provision
