/-
**Trying again until it succeeds.**

A deployment that would succeed in a memory in which nothing fails succeeds there after any earlier
attempts as well, however far each of them came:

* `Scene.laid_stable` and `Scene.verdicts_stable`: a second pass over declarations adds nothing and
  has the verdicts of the first one;
* `Scene.laid_willing`: what was realised although some names could not be created is what is
  realised when all of them can;
* `Memory.Partway`: the records are those of the deployment alone at some point of its way, which
  every attempt keeps (`Memory.Partway.perform`, `Memory.Partway.performed`);
* `retries_complete`: the deployment after the attempts comes to what it comes to alone.
-/

import Mathlib.Data.List.Infix
import Provision.Proofs.History

namespace Provision

/-! ### A second pass -/

namespace Scene

variable {scene : Scene} {records later : List Memory.Record} {declaration : Declaration}
  {declarations front done : List Declaration}

/-- A second pass adds nothing, whatever was added in between. -/
theorem laid_stable (grows : scene.laid declarations records <+: later) :
    scene.laid declarations later = later := by
  induction declarations generalizing records with
  | nil => rfl
  | cons declaration rest hyp =>
      have first : scene.grown records declaration <+: later :=
        (scene.prefix_laid rest _).trans grows
      rw [laid_cons, grown_stable first]
      exact hyp grows

theorem verdicts_stable (grows : scene.laid declarations records <+: later) :
    scene.verdicts later declarations = scene.verdicts records declarations := by
  induction declarations generalizing records with
  | nil => rfl
  | cons declaration rest hyp =>
      have first : scene.grown records declaration <+: later :=
        (scene.prefix_laid rest _).trans grows
      rw [verdicts, verdicts, grown_stable first, verdict_stable first]
      exact congrArg _ (hyp grows)

/-- Two passes from the front, each of which stopped somewhere, come to one that stopped somewhere. -/
theorem exists_laid_laid (scene : Scene) (records : List Memory.Record)
    (first : front <+: declarations) (second : done <+: declarations) :
    ∃ reached, reached <+: declarations ∧
      scene.laid done (scene.laid front records) = scene.laid reached records := by
  rcases List.prefix_or_prefix_of_prefix first second with further | less
  · -- the second pass went at least as far, and what it repeats adds nothing
    obtain ⟨rest, rfl⟩ := further
    refine ⟨front ++ rest, second, ?_⟩
    rw [laid_append, laid_stable (List.prefix_refl _), ← laid_append]
  · exact ⟨front, first, laid_stable (scene.laid_prefix_laid less records)⟩

/-! ### Names that cannot be created -/

/-- The scene in which every name can be created. -/
def willing (scene : Scene) : Scene := { scene with failing := [] }

theorem bars_of_verdict_ok {resource : DeployedResource}
    (realised : scene.verdict records declaration = .ok resource) :
    scene.bars declaration = false := by
  cases free : scene.bars declaration with
  | false => rfl
  | true =>
      rw [verdict_of_bars free] at realised
      cases realised

/-- A declaration that is realised adds what it adds when every name can be created. -/
theorem grown_willing (free : scene.bars declaration = false) :
    scene.willing.grown records declaration = scene.grown records declaration := by
  have unbarred : scene.willing.bars declaration = false := rfl
  have look : scene.willing.holder? records declaration = scene.holder? records declaration := rfl
  unfold grown
  rw [unbarred, free, look]
  rfl

theorem laid_willing (made : List DeployedResource)
    (realised : scene.verdicts records declarations = made.map .ok) :
    scene.willing.laid declarations records = scene.laid declarations records := by
  induction declarations generalizing records made with
  | nil => rfl
  | cons declaration rest hyp =>
      cases made with
      | nil => cases realised
      | cons resource others =>
          simp only [verdicts, List.map_cons, List.cons.injEq] at realised
          rw [laid_cons, laid_cons, grown_willing (bars_of_verdict_ok realised.1)]
          exact hyp others realised.2

end Scene

/-! ### On the way to the end -/

/-- The scene of a deployment when every name can be created. -/
def Blueprint.scene (blueprint : Blueprint) : Scene := ⟨blueprint.group, blueprint.zone, []⟩

/-- The records are the ones that a deployment has laid, at some point of its way, from the records
at the start, when every name can be created. -/
def Memory.Partway (blueprint : Blueprint) (start records : List Memory.Record) : Prop :=
  ∃ front, front <+: blueprint.declarations ∧ records = blueprint.scene.laid front start

namespace Memory.Partway

variable {blueprint : Blueprint} {start records : List Record}

theorem refl (blueprint : Blueprint) (start : List Record) : Partway blueprint start start :=
  ⟨[], List.nil_prefix, rfl⟩

/-- **An attempt stays on the way**, whatever it cannot create and wherever it stops. -/
theorem perform {memory : Memory} {attempt : Attempt} (own : attempt.blueprint = blueprint)
    (partway : Partway blueprint start memory.records) :
    Partway blueprint start (attempt.perform memory).2.records := by
  subst own
  obtain ⟨front, first, reached⟩ := partway
  obtain ⟨done, lays, -⟩ := attempt.lays memory
  obtain ⟨made, realised⟩ := lays.realised
  have laid : (attempt.perform memory).2.records =
      attempt.blueprint.scene.laid done memory.records :=
    lays.records.trans (Scene.laid_willing made realised).symm
  obtain ⟨further, within, both⟩ := attempt.blueprint.scene.exists_laid_laid start first lays.within
  exact ⟨further, within, by rw [laid, reached, both]⟩

theorem performed (memory : Memory) (history : List Attempt)
    (same : ∀ attempt ∈ history, attempt.blueprint = blueprint) :
    Partway blueprint memory.records (memory.performed history).records :=
  performed_invariant (Partway blueprint memory.records) history
    (fun _ member _ partway => partway.perform (same _ member)) memory (refl _ _)

/-- From every point of the way, the declarations have the verdicts that they have from the start:
those before the point are repeated, and the others come where they came. -/
theorem verdicts (partway : Partway blueprint start records) :
    blueprint.scene.verdicts records blueprint.declarations =
      blueprint.scene.verdicts start blueprint.declarations := by
  obtain ⟨front, ⟨rest, split⟩, reached⟩ := partway
  rw [reached, ← split, Scene.verdicts_append, Scene.verdicts_append,
    Scene.verdicts_stable (List.prefix_refl _), Scene.laid_stable (List.prefix_refl _)]

/-- From every point of the way, the declarations lead to the same end. -/
theorem laid (partway : Partway blueprint start records) :
    blueprint.scene.laid blueprint.declarations records =
      blueprint.scene.laid blueprint.declarations start := by
  obtain ⟨front, ⟨rest, split⟩, reached⟩ := partway
  rw [reached, ← split, Scene.laid_append, Scene.laid_append,
    Scene.laid_stable (List.prefix_refl _)]

/-- At every point of the way, some of what is added up to the end is there. -/
theorem exists_part {added : List Record} (partway : Partway blueprint start records)
    (whole : blueprint.scene.laid blueprint.declarations start = start ++ added) :
    ∃ part, part <+: added ∧ records = start ++ part := by
  obtain ⟨front, within, reached⟩ := partway
  obtain ⟨part, grown⟩ := blueprint.scene.prefix_laid front start
  refine ⟨part, ?_, reached.trans grown.symm⟩
  have shorter := blueprint.scene.laid_prefix_laid within start
  rw [← grown, whole] at shorter
  exact (List.prefix_append_right_inj start).mp shorter

end Memory.Partway

/-- **Trying again blindly is safe.** Let a deployment succeed in a memory in which every name can be
created. After any attempts at it in that memory, each of them carried out or abandoned after some
items and each with names of its own that could not be created, it still delivers the same resources
and leaves the same records. After each of the attempts, some of the records that it adds are there,
from the first one on, and nothing else is. -/
theorem retries_complete (blueprint : Blueprint) (memory : Memory) (made : List DeployedResource)
    (succeeds : (blueprint.deploy Memory.provider memory.recover).1 = .ok made)
    (history : List Attempt) (same : ∀ attempt ∈ history, attempt.blueprint = blueprint) :
    let alone := blueprint.deploy Memory.provider memory.recover
    let again := blueprint.deploy Memory.provider (memory.performed history).recover
    again.1 = .ok made ∧ again.2.records = alone.2.records ∧
      ∃ added, alone.2.records = memory.records ++ added ∧
        ∀ earlier, earlier <+: history →
          ∃ part, part <+: added ∧
            (memory.performed earlier).records = memory.records ++ part := by
  intro alone again
  obtain ⟨done, lays, -, all⟩ := blueprint.lays_deploy memory.recover
  obtain ⟨faultless, rfl, realised⟩ := all made succeeds
  have left : alone.2.records = blueprint.scene.laid blueprint.declarations memory.records :=
    lays.records
  have partway := Memory.Partway.performed memory history same
  have repeated : again = (.ok made, (memory.performed history).recover.after
      (blueprint.scene.laid blueprint.declarations (memory.performed history).records)
      blueprint.declarations.length) := by
    have verdicts := partway.verdicts.trans realised
    have pass := Declaration.realiseAll_of_done (memory.performed history).recover blueprint.group
      blueprint.zone blueprint.declarations made verdicts
    show blueprint.deploy Memory.provider (memory.performed history).recover = _
    rw [Blueprint.deploy_of_faultless faultless, pass]
    rfl
  obtain ⟨added, grown⟩ := blueprint.scene.prefix_laid blueprint.declarations memory.records
  refine ⟨by rw [repeated], ?_, added, left.trans grown.symm, fun earlier before => ?_⟩
  · rw [repeated, left]
    exact partway.laid
  · have point := Memory.Partway.performed memory earlier
      fun attempt member => same attempt (before.subset member)
    exact point.exists_part grown.symm

/-- A blueprint in which one name is declared twice: the second time it is settled for what the first
time has created. -/
def twofold : Blueprint where
  group := ⟨"rg", "eastus", "sub"⟩
  zone := "lz"
  declarations :=
    [{ definition := { name := "sa", kind := .storageAccount, region := "eastus" }
       purpose := some .shared },
     { definition := { name := "sa", kind := .storageAccount, region := "westus" }
       purpose := some .shared },
     { definition := { name := "db", kind := .postgresServer, region := "eastus" } }]

/-- The blueprint is tried three times: once its first name cannot be created, once the attempt is
abandoned after the first item, and once its last name cannot be created. -/
def stumbling : List Attempt :=
  [{ blueprint := twofold, failing := ["sa"] }, { blueprint := twofold, items? := some 1 },
    { blueprint := twofold, failing := ["other", "db"] }]

/-- The fourth attempt delivers three resources, two of which are the same one. -/
theorem stumbling_retries_complete :
    let made := [twofold.declarations[0], twofold.declarations[0], twofold.declarations[2]].map
      fun declaration => (twofold.scene.record declaration).resource
    (twofold.deploy Memory.provider ({} : Memory).recover).1 = .ok made ∧
      (∀ attempt ∈ stumbling, attempt.blueprint = twofold) ∧
      (twofold.deploy Memory.provider (({} : Memory).performed stumbling).recover).1 = .ok made := by
  intro made
  have succeeds : (twofold.deploy Memory.provider ({} : Memory).recover).1 = .ok made := by
    decide +kernel
  have same : ∀ attempt ∈ stumbling, attempt.blueprint = twofold := by
    simp [stumbling]
  exact ⟨succeeds, same, (retries_complete twofold {} made succeeds stumbling same).1⟩

end Provision
