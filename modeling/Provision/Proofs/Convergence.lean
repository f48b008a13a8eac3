/-
**Runs of one blueprint converge.**

Several runs of one blueprint reach one memory, and their calls come in any order. None of them can
tell that it is not alone:

* `Run.Course` is a run that has come as far as some of the declarations, in a memory that has come at
  least as far; `Run.Course.grows` keeps it there when others go ahead;
* `Run.Course.advance` is one call: the run comes one declaration further at most, and so does the
  memory if the run was in front;
* `Fleet.Convoy` is a whole fleet behind its front, `Fleet.Convoy.follow` keeps it there;
* `Run.Course.result_eq` and `concurrent_runs_converge` compare with a run that is alone.
-/

import Provision.Proofs.Fleet
import Provision.Proofs.Ledger

namespace Provision

/-- Of two beginnings of a list, one before a certain item and the other at least as long, the longer
one has the item or is the shorter one. -/
theorem eq_or_concat_prefix {α : Type} {whole shorter longer rest : List α} {item : α}
    (split : whole = shorter ++ item :: rest) (within : longer <+: whole)
    (behind : shorter <+: longer) : shorter = longer ∨ shorter ++ [item] <+: longer := by
  obtain ⟨further, rfl⟩ := behind
  cases further with
  | nil => exact .inl (List.append_nil _).symm
  | cons other others =>
      right
      subst split
      have same := (List.prefix_append_right_inj shorter).mp within
      obtain ⟨rfl, -⟩ := List.cons_prefix_cons.mp same
      exact (List.prefix_append_right_inj shorter).mpr (List.cons_prefix_cons.mpr ⟨rfl, List.nil_prefix⟩)

/-- A run that has realised the first declarations, `done`. The records were `start` at first. -/
structure Run.Course (scene : Scene) (start records : List Memory.Record)
    (declarations done : List Declaration) (run : Run) : Prop where
  group : run.group = scene.group
  zone : run.zone = scene.zone
  split : declarations = done ++ run.pending
  /-- It made what the declarations lead to when nobody else is there. -/
  made : scene.verdicts start done = run.made.map .ok
  /-- If it is about to settle, it settles as it does when nobody else is there. -/
  settling : ∀ taken, run.stage = .settling taken → ∃ declaration rest record,
    run.pending = declaration :: rest ∧ scene.bars declaration = false ∧
    scene.holder? records declaration = some record ∧
    declaration.settle scene.zone taken (.ok (some record.resource)) =
      scene.verdict (scene.laid done start) declaration
  /-- If it has failed, it fails when nobody else is there. -/
  failed : ∀ error, run.stage = .failed error → ∃ declaration rest,
    run.pending = declaration :: rest ∧
    scene.verdict (scene.laid done start) declaration = .error error

/-- A fleet of runs of one blueprint. The records are those that its first declarations leave, and no
run has come further. -/
structure Fleet.Convoy (scene : Scene) (start : List Memory.Record) (declarations : List Declaration)
    (fleet : Fleet) (memory : Memory) (front : List Declaration) : Prop where
  failing : memory.failing = scene.failing
  within : front <+: declarations
  realised : ∃ made, scene.verdicts start front = List.map .ok made
  records : memory.records = scene.laid front start
  runs : ∀ run ∈ fleet, ∃ done, done <+: front ∧
    run.Course scene start memory.records declarations done

namespace Run.Course

variable {scene : Scene} {start records later : List Memory.Record}
  {declarations done front : List Declaration} {run : Run}

/-- Records that others add do not matter to a run. -/
theorem grows (course : run.Course scene start records declarations done)
    (more : records <+: later) : run.Course scene start later declarations done where
  group := course.group
  zone := course.zone
  split := course.split
  made := course.made
  failed := course.failed
  settling := fun taken stage => by
    obtain ⟨declaration, rest, record, pending, free, holds, settles⟩ := course.settling taken stage
    exact ⟨declaration, rest, record, pending, free, Scene.holder?_stable more holds, settles⟩

/-- When a run is at a declaration that the memory may have passed, the verdict is that of the
declaration alone, and only a run in front changes the records. -/
theorem verdict_front {declaration : Declaration} {rest : List Declaration}
    (course : run.Course scene start records declarations done)
    (pending : run.pending = declaration :: rest) (within : front <+: declarations)
    (behind : done <+: front) :
    scene.verdict (scene.laid front start) declaration =
      scene.verdict (scene.laid done start) declaration ∧
    (done = front ∨ done ++ [declaration] <+: front ∧
      scene.grown (scene.laid front start) declaration = scene.laid front start) := by
  have split : declarations = done ++ declaration :: rest := by rw [course.split, pending]
  rcases eq_or_concat_prefix split within behind with rfl | passed
  · exact ⟨rfl, .inl rfl⟩
  · have grown := Scene.laid_prefix_laid scene passed start
    rw [Scene.laid_concat] at grown
    exact ⟨Scene.verdict_stable grown, .inr ⟨passed, Scene.grown_stable grown⟩⟩

/-- The course of a run whose declaration was realised. -/
theorem conclude_ok {declaration : Declaration} {rest : List Declaration}
    {resource : DeployedResource} (course : run.Course scene start records declarations done)
    (pending : run.pending = declaration :: rest)
    (realised : scene.verdict (scene.laid done start) declaration = .ok resource) :
    (run.conclude rest (.ok resource)).Course scene start records declarations
      (done ++ [declaration]) where
  group := course.group
  zone := course.zone
  split := by simp [Run.conclude, course.split, pending]
  made := by simp [Run.conclude, Scene.verdicts_concat, course.made, realised]
  settling := fun _ stage => by cases stage
  failed := fun _ stage => by cases stage

/-- The course of a run whose declaration could not be realised. -/
theorem conclude_error {declaration : Declaration} {rest : List Declaration} {error : ZoneError}
    (course : run.Course scene start records declarations done)
    (pending : run.pending = declaration :: rest)
    (refused : scene.verdict (scene.laid done start) declaration = .error error) :
    (run.conclude rest (.error error)).Course scene start records declarations done where
  group := course.group
  zone := course.zone
  split := course.split
  made := course.made
  settling := fun _ stage => by cases stage
  failed := fun other stage => by
    obtain rfl : error = other := by cases stage; rfl
    exact ⟨declaration, rest, pending, refused⟩

/-- The course of a run whose declaration has come to its end. A run in front takes the front along,
which then has the records that the declaration leaves. -/
theorem conclude {declaration : Declaration} {rest : List Declaration}
    {outcome : Except ZoneError DeployedResource}
    (course : run.Course scene start records declarations done)
    (pending : run.pending = declaration :: rest) (within : front <+: declarations)
    (behind : done <+: front) (realised : ∃ made, scene.verdicts start front = List.map .ok made)
    (verdict : scene.verdict (scene.laid done start) declaration = outcome) :
    ∃ next further, front <+: next ∧ further <+: next ∧ next <+: declarations ∧
      (∃ made, scene.verdicts start next = List.map .ok made) ∧
      scene.laid next start = scene.grown (scene.laid front start) declaration ∧
      (run.conclude rest outcome).Course scene start records declarations further := by
  obtain ⟨-, place⟩ := course.verdict_front pending within behind
  have here : done ++ [declaration] <+: declarations := by
    rw [course.split, pending]
    exact (List.prefix_append_right_inj done).mpr (List.cons_prefix_cons.mpr ⟨rfl, List.nil_prefix⟩)
  cases outcome with
  | error error =>
      have stays : scene.grown (scene.laid front start) declaration = scene.laid front start := by
        rcases place with rfl | ⟨-, stays⟩
        · exact Scene.grown_of_verdict_error verdict
        · exact stays
      exact ⟨front, done, List.prefix_refl _, behind, within, realised, stays.symm,
        course.conclude_error pending verdict⟩
  | ok resource =>
      have concluded := course.conclude_ok pending verdict
      rcases place with rfl | ⟨passed, stays⟩
      · refine ⟨done ++ [declaration], _, List.prefix_append _ _, List.prefix_refl _, here,
          ⟨run.made ++ [resource], ?_⟩, Scene.laid_concat .., concluded⟩
        rw [Scene.verdicts_concat, course.made, verdict, List.map_append, List.map_singleton]
      · exact ⟨front, _, List.prefix_refl _, passed, within, realised, stays.symm, concluded⟩

/-- **One call of a run.** Wherever the run is behind the front, it goes on as it does alone, and the
records afterwards are again those of a front. -/
theorem advance {memory : Memory}
    (course : run.Course scene start memory.records declarations done)
    (failing : memory.failing = scene.failing) (within : front <+: declarations)
    (behind : done <+: front) (realised : ∃ made, scene.verdicts start front = List.map .ok made)
    (laid : memory.records = scene.laid front start) :
    let reached := run.advance Memory.provider memory
    ∃ next further, front <+: next ∧ further <+: next ∧ next <+: declarations ∧
      (∃ made, scene.verdicts start next = List.map .ok made) ∧
      reached.2.failing = scene.failing ∧ reached.2.records = scene.laid next start ∧
      reached.1.Course scene start reached.2.records declarations further := by
  have same : memory.scene run.group run.zone = scene := by
    rw [Memory.scene, course.group, course.zone, failing]
  rcases run.cases with ⟨declaration, rest, creating, pending⟩ |
    ⟨taken, declaration, rest, settling, pending⟩ | finished
  · rw [Run.advance_creating _ creating pending]
    simp only [Memory.provider_create, same]
    obtain ⟨verdict, -⟩ := course.verdict_front pending within behind
    rw [← laid] at verdict
    cases free : scene.bars declaration with
    | true =>
        rw [Scene.verdict_of_bars free] at verdict
        obtain ⟨next, further, ahead, after, inside, made, records, concluded⟩ :=
          course.conclude pending within behind realised verdict.symm
        rw [← laid, Scene.grown_of_bars free] at records
        rw [Scene.answer_of_bars free, Scene.grown_of_bars free]
        exact ⟨next, further, ahead, after, inside, made, failing, records.symm, concluded⟩
    | false =>
        cases holds : scene.holder? memory.records declaration with
        | some record =>
            rw [Scene.verdict_of_holder? free holds] at verdict
            rw [Scene.answer_of_holder? free holds, Scene.grown_of_holder? holds]
            refine ⟨front, done, List.prefix_refl _, behind, within, realised, failing, laid,
              course.group, course.zone, course.split, course.made, fun other stage => ?_,
              fun _ stage => by cases stage⟩
            obtain rfl : declaration.definition.name = other := by cases stage; rfl
            exact ⟨declaration, rest, record, pending, free, holds, verdict⟩
        | none =>
            rw [Scene.verdict_of_vacant free holds] at verdict
            obtain ⟨next, further, ahead, after, inside, made, records, concluded⟩ :=
              course.conclude pending within behind realised verdict.symm
            rw [← laid] at records
            rw [Scene.answer_of_vacant free holds]
            exact ⟨next, further, ahead, after, inside, made, failing, records.symm,
              concluded.grows (Scene.prefix_grown _ _ _)⟩
  · rw [Run.advance_settling _ settling pending]
    obtain ⟨first, others, record, pending', free, holds, settles⟩ := course.settling taken settling
    obtain ⟨rfl, rfl⟩ := List.cons.inj (pending.symm.trans pending')
    have found : (declaration.settle run.zone taken
        (Memory.provider.find run.group declaration.definition.kind declaration.definition.name
          memory).1) = scene.verdict (scene.laid done start) declaration := by
      rw [Memory.provider_find memory run.group run.zone, same, holds, course.zone]
      exact settles
    obtain ⟨next, further, ahead, after, inside, made, records, concluded⟩ :=
      course.conclude pending within behind realised rfl
    rw [← laid, Scene.grown_of_holder? holds] at records
    simp only [found]
    exact ⟨next, further, ahead, after, inside, made, failing, records.symm, concluded⟩
  · rw [Run.advance_of_result? _ finished]
    exact ⟨front, done, List.prefix_refl _, behind, within, realised, failing, laid, course⟩

end Run.Course

namespace Fleet.Convoy

variable {scene : Scene} {start : List Memory.Record} {declarations : List Declaration}
  {fleet : Fleet} {memory : Memory} {front : List Declaration}

/-- A call of any run keeps the fleet behind its front, which may have moved on. -/
theorem step (convoy : Convoy scene start declarations fleet memory front) {index : Nat} {run : Run}
    (there : fleet[index]? = some run) :
    ∃ next, Convoy scene start declarations (fleet.set index (run.advance Memory.provider memory).1)
      (run.advance Memory.provider memory).2 next := by
  obtain ⟨done, behind, course⟩ := convoy.runs run (List.mem_of_getElem? there)
  obtain ⟨next, further, ahead, after, inside, made, failing, records, moved⟩ :=
    course.advance convoy.failing convoy.within behind convoy.realised convoy.records
  refine ⟨next, failing, inside, made, records, fun other member => ?_⟩
  rcases List.mem_or_eq_of_mem_set member with old | rfl
  · obtain ⟨own, ownBehind, ownCourse⟩ := convoy.runs other old
    refine ⟨own, ownBehind.trans ahead, ownCourse.grows ?_⟩
    rw [convoy.records, records]
    exact Scene.laid_prefix_laid scene ahead start
  · exact ⟨further, after, moved⟩

/-- **A fleet stays behind its front**, in whatever order its runs make their calls. -/
theorem follow (convoy : Convoy scene start declarations fleet memory front) (schedule : List Nat) :
    ∃ next, Convoy scene start declarations
      (Fleet.follow Memory.provider schedule fleet memory).1
      (Fleet.follow Memory.provider schedule fleet memory).2 next :=
  Fleet.follow_invariant Memory.provider
    (fun fleet memory => ∃ front, Convoy scene start declarations fleet memory front)
    (fun _ _ _ _ there ⟨_, convoy⟩ => convoy.step there) schedule fleet memory ⟨front, convoy⟩

end Fleet.Convoy

/-! ## Compared with a run that is alone -/

namespace Run.Course

variable {memory : Memory} {records : List Memory.Record} {blueprint : Blueprint}
  {done front : List Declaration} {run : Run}

/-- **The result of a run is that of a deployment alone**, which then has left the records of the
front. -/
theorem result_eq (faultless : blueprint.fault? = none)
    (course : run.Course (memory.scene blueprint.group blueprint.zone) memory.records records
      blueprint.declarations done)
    (behind : done <+: front) (within : front <+: blueprint.declarations)
    (realised : ∃ made, (memory.scene blueprint.group blueprint.zone).verdicts memory.records front =
      List.map .ok made)
    {result : Except ZoneError (List DeployedResource)} (finished : run.result? = some result) :
    (blueprint.deploy Memory.provider memory).1 = result ∧
      (blueprint.deploy Memory.provider memory).2.records =
        (memory.scene blueprint.group blueprint.zone).laid front memory.records := by
  rw [Blueprint.deploy_of_faultless faultless]
  cases result with
  | ok made =>
      obtain ⟨nothing, rfl⟩ := Run.eq_of_result?_ok finished
      have whole : blueprint.declarations = done := by rw [course.split, nothing, List.append_nil]
      have same : front = done := (whole ▸ within).eq_of_length_le behind.length_le
      have alone := Declaration.realiseAll_of_done memory blueprint.group blueprint.zone
        blueprint.declarations run.made (whole ▸ course.made)
      simp only [alone, Memory.after_records]
      exact ⟨rfl, by rw [same, whole]⟩
  | error error =>
      obtain ⟨declaration, rest, pending, refused⟩ :=
        course.failed error (Run.stage_of_result?_error finished)
      have split : blueprint.declarations = done ++ declaration :: rest := by
        rw [course.split, pending]
      have alone := Declaration.realiseAll_of_refused memory blueprint.group blueprint.zone done
        declaration rest run.made error course.made refused
      rw [split]
      simp only [alone, Memory.after_records]
      refine ⟨rfl, ?_⟩
      rcases eq_or_concat_prefix split within behind with same | passed
      · rw [same]
      · -- the front would have realised a declaration that cannot be realised
        exfalso
        obtain ⟨others, rfl⟩ := passed
        obtain ⟨made, all⟩ := realised
        rw [Scene.verdicts_append, Scene.verdicts_concat, refused] at all
        have member : Except.error error ∈ List.map Except.ok made := by
          rw [← all]
          simp
        obtain ⟨_, -, impossible⟩ := List.mem_map.mp member
        cases impossible

end Run.Course

/-- Before the first call of a blueprint without a fault, the front is at the first declaration. -/
theorem Fleet.Convoy.start {blueprint : Blueprint} (faultless : blueprint.fault? = none)
    (memory : Memory) (count : Nat) :
    Fleet.Convoy (memory.scene blueprint.group blueprint.zone) memory.records blueprint.declarations
      (List.replicate count (Run.start blueprint)) memory [] where
  failing := rfl
  within := List.nil_prefix
  realised := ⟨[], rfl⟩
  records := rfl
  runs := fun run member => by
    obtain rfl := List.eq_of_mem_replicate member
    have creating := Run.start_of_faultless faultless
    exact ⟨[], List.prefix_refl _, rfl, rfl, rfl, rfl,
      fun _ stage => (nomatch creating.symm.trans stage),
      fun _ stage => (nomatch creating.symm.trans stage)⟩

/-- Runs of a blueprint with a fault make no calls. -/
theorem Fleet.follow_of_fault {blueprint : Blueprint} {fault : Fault}
    (faulty : blueprint.fault? = some fault) (memory : Memory) (count : Nat) (schedule : List Nat) :
    (∀ run ∈ (Fleet.follow Memory.provider schedule
        (List.replicate count (Run.start blueprint)) memory).1, run = Run.start blueprint) ∧
      (Fleet.follow Memory.provider schedule
        (List.replicate count (Run.start blueprint)) memory).2 = memory := by
  refine Fleet.follow_invariant Memory.provider
    (fun fleet state => (∀ run ∈ fleet, run = Run.start blueprint) ∧ state = memory) ?_ schedule _
    memory ⟨fun run member => List.eq_of_mem_replicate member, rfl⟩
  rintro fleet state index run there ⟨same, rfl⟩
  obtain rfl := same run (List.mem_of_getElem? there)
  have finished : (Run.start blueprint).result?.isSome = true := by
    rw [Run.result?_of_failed (Run.start_of_fault faulty)]
    rfl
  rw [Run.advance_of_result? _ finished]
  refine ⟨fun other member => ?_, rfl⟩
  rcases List.mem_or_eq_of_mem_set member with old | new
  · exact same other old
  · exact new

/-- The result of each run of a fleet that has one, and the records when there is one, are those of a
deployment alone. -/
theorem Fleet.result_follow (blueprint : Blueprint) (memory : Memory) (count : Nat)
    (schedule : List Nat) {run : Run}
    (member : run ∈ (Fleet.follow Memory.provider schedule
      (List.replicate count (Run.start blueprint)) memory).1)
    {result : Except ZoneError (List DeployedResource)} (finished : run.result? = some result) :
    (blueprint.deploy Memory.provider memory).1 = result ∧
      (blueprint.deploy Memory.provider memory).2.records =
        (Fleet.follow Memory.provider schedule
          (List.replicate count (Run.start blueprint)) memory).2.records := by
  cases faulty : blueprint.fault? with
  | some fault =>
      obtain ⟨same, untouched⟩ := Fleet.follow_of_fault faulty memory count schedule
      obtain rfl := same run member
      rw [Run.result?_of_failed (Run.start_of_fault faulty)] at finished
      rw [Blueprint.deploy_of_fault faulty, untouched]
      exact ⟨Option.some.inj finished, rfl⟩
  | none =>
      obtain ⟨front, convoy⟩ := (Fleet.Convoy.start faulty memory count).follow schedule
      obtain ⟨done, behind, course⟩ := convoy.runs run member
      rw [convoy.records]
      exact course.result_eq faulty behind convoy.within convoy.realised finished

/-- **Concurrent deployments of one blueprint converge.** However many runs there are and in whatever
order their calls come: a run that is let on often enough comes to its end; a run at its end has the
result of a deployment alone; and when all are at their end the records are those that a deployment
alone leaves. -/
theorem concurrent_runs_converge (blueprint : Blueprint) (memory : Memory) (count : Nat)
    (schedule : List Nat) :
    let alone := blueprint.deploy Memory.provider memory
    let reached := Fleet.follow Memory.provider schedule
      (List.replicate count (Run.start blueprint)) memory
    (∀ index < count, ∃ run, reached.1[index]? = some run ∧
      (2 * blueprint.declarations.length ≤ schedule.count index → run.result?.isSome = true) ∧
      ∀ result, run.result? = some result → result = alone.1) ∧
    (0 < count → (∀ run ∈ reached.1, run.result?.isSome = true) →
      reached.2.records = alone.2.records) := by
  intro alone reached
  have size : reached.1.length = count := by
    rw [Fleet.length_follow, List.length_replicate]
  constructor
  · intro index inside
    have initially : (List.replicate count (Run.start blueprint))[index]? =
        some (Run.start blueprint) := by
      rw [List.getElem?_replicate, if_pos inside]
    obtain ⟨run, there, less⟩ := Fleet.remaining_follow Memory.provider schedule _ memory index _
      initially
    have most := Run.remaining_start blueprint
    refine ⟨run, there, fun often => (Run.result?_isSome_iff run).mpr (by omega),
      fun result finished => ?_⟩
    exact (Fleet.result_follow blueprint memory count schedule (List.mem_of_getElem? there)
      finished).1.symm
  · intro positive all
    have inside : 0 < reached.1.length := by omega
    have member : reached.1[0] ∈ reached.1 := List.getElem_mem inside
    obtain ⟨result, finished⟩ := Option.isSome_iff_exists.mp (all _ member)
    exact (Fleet.result_follow blueprint memory count schedule member finished).2.symm

/-- A blueprint that declares one storage account twice, the second time for the same purpose. -/
def repetitive : Blueprint where
  group := ⟨"rg", "eastus", "sub"⟩
  zone := "lz"
  declarations :=
    [{ definition := { name := "sa", kind := .storageAccount, region := "eastus" }
       purpose := some .shared },
     { definition := { name := "sa", kind := .storageAccount, region := "westus" }
       purpose := some .shared }]

/-- Two runs whose calls alternate, the second of which is always the one to settle. -/
theorem alternating_runs_converge :
    let reached := Fleet.follow Memory.provider [0, 1, 0, 1, 0, 1, 1]
      (List.replicate 2 (Run.start repetitive)) {}
    2 * repetitive.declarations.length ≤ [0, 1, 0, 1, 0, 1, 1].count 1 ∧ 0 < 2 ∧
      (∀ run ∈ reached.1, run.result?.isSome = true) ∧
      (∃ run, reached.1[1]? = some run ∧ run.result?.isSome = true) ∧
      reached.2.records = (repetitive.deploy Memory.provider {}).2.records := by
  have often : 2 * repetitive.declarations.length ≤ [0, 1, 0, 1, 0, 1, 1].count 1 := by decide
  have all : ∀ run ∈ (Fleet.follow Memory.provider [0, 1, 0, 1, 0, 1, 1]
      (List.replicate 2 (Run.start repetitive)) {}).1, run.result?.isSome = true := by
    decide +kernel
  obtain ⟨each, together⟩ := concurrent_runs_converge repetitive {} 2 [0, 1, 0, 1, 0, 1, 1]
  obtain ⟨run, there, ends, -⟩ := each 1 (by decide)
  exact ⟨often, by decide, all, ⟨run, there, ends often⟩, together (by decide) all⟩

end Provision
