/-
**Providers that keep records.**

The provider in memory and the one on a store differ in where they keep their records and in the text
by which they say that a name is taken. What a deployment comes to is a function of the records:

* `Scene.ruling` is what a declaration leads to when names are said to be taken by a given text,
  `Scene.rulings` what several declarations lead to;
* `Provider.Keeps` says that a provider answers from records, `Memory.provider_keeps` and
  `Store.provider_keeps` that both providers do;
* `Provider.Keeps.deploy_apply` and `Provider.Keeps.deployed`: deployments through such a provider come
  to `Blueprint.outcome`.
-/

import Provision.Proofs.Blueprints
import Provision.Proofs.Standing
import Provision.Proofs.Store.Answers

namespace Provision

/-! ### Rulings -/

namespace Scene

variable (scene : Scene)

/-- What a provider answers that says by a text that a name is taken. -/
def reply (taken : String) (records : List Memory.Record) (declaration : Declaration) :
    Answer DeployedResource :=
  if scene.bars declaration then .error (Memory.failure declaration.definition.name)
  else if (scene.holder? records declaration).isSome then .error (.alreadyExists taken)
  else .ok (scene.record declaration).resource

/-- What a declaration leads to when it is said by a text that a name is taken. -/
def ruling (taken : String) (records : List Memory.Record) (declaration : Declaration) :
    Except ZoneError DeployedResource :=
  if scene.bars declaration then
    .error (declaration.refused (Memory.failure declaration.definition.name))
  else
    match scene.holder? records declaration with
    | some record => declaration.settle scene.zone taken (.ok (some record.resource))
    | none => .ok (scene.record declaration).resource

/-- What several declarations lead to, up to the first that cannot be realised, and the records
after them. -/
def rulings (taken : ResourceDefinition → String) :
    List Memory.Record → List Declaration → Progress × List Memory.Record
  | records, [] => ({}, records)
  | records, declaration :: rest =>
    match scene.ruling (taken declaration.definition) records declaration with
    | .ok resource =>
      let further := rulings taken (scene.grown records declaration) rest
      (further.1.after resource, further.2)
    | .error error => ({ failure? := some error }, scene.grown records declaration)

variable {scene} {records : List Memory.Record} {declaration : Declaration}

/-- The text does not matter to what is realised. -/
theorem verdict_of_ruling_ok {taken : String} {resource : DeployedResource}
    (ruling : scene.ruling taken records declaration = .ok resource) :
    scene.verdict records declaration = .ok resource := by
  unfold Scene.ruling at ruling
  cases free : scene.bars declaration with
  | true =>
      rw [free] at ruling
      cases ruling
  | false =>
      rw [free, if_neg Bool.false_ne_true] at ruling
      cases holds : scene.holder? records declaration with
      | none =>
          rw [holds] at ruling
          exact (verdict_of_vacant free holds).trans ruling
      | some record =>
          rw [holds] at ruling
          have settled := (Declaration.settle_eq_ok_iff ..).mp ruling
          rw [verdict_of_holder? free holds]
          exact (Declaration.settle_eq_ok_iff ..).mpr settled

/-- Declarations that are all realised leave what they lay. -/
theorem realised_of_rulings {taken : ResourceDefinition → String} {declarations : List Declaration}
    (complete : (scene.rulings taken records declarations).1.failure? = none) :
    scene.verdicts records declarations =
        (scene.rulings taken records declarations).1.made.map .ok ∧
      (scene.rulings taken records declarations).2 = scene.laid declarations records := by
  induction declarations generalizing records with
  | nil => exact ⟨rfl, rfl⟩
  | cons declaration rest hyp =>
      unfold rulings at complete ⊢
      cases ruling : scene.ruling (taken declaration.definition) records declaration with
      | error error =>
          rw [ruling] at complete
          cases complete
      | ok resource =>
          rw [ruling] at complete
          obtain ⟨others, left⟩ := hyp complete
          refine ⟨?_, left⟩
          rw [verdicts, others, verdict_of_ruling_ok ruling]
          rfl

/-- What adding the record of a declaration keeps, several declarations keep. -/
theorem rulings_invariant (holds : List Memory.Record → Prop) {taken : ResourceDefinition → String}
    {declarations : List Declaration}
    (keeps : ∀ declaration ∈ declarations, ∀ records, holds records →
      holds (scene.grown records declaration))
    (initially : holds records) : holds (scene.rulings taken records declarations).2 := by
  induction declarations generalizing records with
  | nil => exact initially
  | cons declaration rest hyp =>
      have first := keeps declaration List.mem_cons_self records initially
      unfold rulings
      split
      · exact hyp (fun other member => keeps other (List.mem_cons_of_mem _ member)) first
      · exact first

end Scene

theorem Progress.result_eq_ok {progress : Progress} {made : List DeployedResource}
    (complete : progress.result = .ok made) : progress.failure? = none ∧ progress.made = made := by
  unfold result at complete
  split at complete
  · cases complete
  next none => exact ⟨none, Except.ok.inj complete⟩

/-- What the deployment of a blueprint comes to, and the records after it, when some names cannot be
created and names are said to be taken by given texts. -/
def Blueprint.outcome (failing : List String) (taken : ResourceGroup → ResourceDefinition → String)
    (blueprint : Blueprint) (records : List Memory.Record) :
    Except ZoneError (List DeployedResource) × List Memory.Record :=
  match blueprint.fault? with
  | some fault => (.error (.invalidRequest fault), records)
  | none =>
    let rulings := Scene.rulings ⟨blueprint.group, blueprint.zone, failing⟩ (taken blueprint.group)
      records blueprint.declarations
    (rulings.1.result, rulings.2)

/-- A deployment that succeeds has realised all its declarations. -/
theorem Blueprint.realised_of_outcome {failing : List String}
    {taken : ResourceGroup → ResourceDefinition → String} {blueprint : Blueprint}
    {records : List Memory.Record} {made : List DeployedResource}
    (succeeds : (blueprint.outcome failing taken records).1 = .ok made) :
    Scene.verdicts ⟨blueprint.group, blueprint.zone, failing⟩ records blueprint.declarations =
        made.map .ok ∧
      (blueprint.outcome failing taken records).2 =
        Scene.laid ⟨blueprint.group, blueprint.zone, failing⟩ blueprint.declarations records := by
  unfold outcome at succeeds ⊢
  cases faulty : blueprint.fault? with
  | some fault =>
      rw [faulty] at succeeds
      cases succeeds
  | none =>
      rw [faulty] at succeeds
      obtain ⟨complete, rfl⟩ := Progress.result_eq_ok succeeds
      exact Scene.realised_of_rulings complete

/-- The records after several deployments. -/
def Blueprint.outcomes (failing : List String) (taken : ResourceGroup → ResourceDefinition → String)
    (history : List Blueprint) (records : List Memory.Record) : List Memory.Record :=
  history.foldl (fun records blueprint => (blueprint.outcome failing taken records).2) records

/-! ### Providers -/

/-- A provider that answers from records. -/
structure Provider.Keeps {σ : Type} (provider : Provider (StateM σ)) (failing : List String)
    (taken : ResourceGroup → ResourceDefinition → String) (holds : List Memory.Record → σ → Prop) :
    Prop where
  create : ∀ (group : ResourceGroup) (zone : String) (declaration : Declaration)
    (records : List Memory.Record) (state : σ),
    Text.isBlank declaration.definition.name = false → holds records state → ∃ later,
      provider.create group declaration.definition (declaration.tags zone) state =
          (Scene.reply ⟨group, zone, failing⟩ (taken group declaration.definition) records declaration,
            later) ∧
        holds (Scene.grown ⟨group, zone, failing⟩ records declaration) later
  find : ∀ (group : ResourceGroup) (kind : ResourceKind) (name : String)
    (records : List Memory.Record) (state : σ), holds records state → ∃ later,
      provider.find group kind name state =
          (.ok ((records.find? (Memory.Record.isAt group.name kind name)).map (·.resource)), later) ∧
        holds records later
  list : ∀ (group : ResourceGroup) (records : List Memory.Record) (state : σ),
    holds records state → ∃ later,
      provider.list group state =
          (.ok ((records.filter (·.group == group.name)).map (·.resource)), later) ∧
        holds records later

/-- The state of a provider after several deployments. -/
def Provider.deployed {σ : Type} (provider : Provider (StateM σ)) (history : List Blueprint)
    (state : σ) : σ :=
  history.foldl (fun state blueprint => (blueprint.deploy provider state).2) state

namespace Provider.Keeps

variable {σ : Type} {provider : Provider (StateM σ)} {failing : List String}
  {taken : ResourceGroup → ResourceDefinition → String} {holds : List Memory.Record → σ → Prop}
  {records : List Memory.Record} {state : σ}

theorem realise_apply (keeps : provider.Keeps failing taken holds) (group : ResourceGroup)
    (zone : String) {declaration : Declaration}
    (named : Text.isBlank declaration.definition.name = false) (here : holds records state) :
    ∃ later, declaration.realise provider group zone state =
        (Scene.ruling ⟨group, zone, failing⟩ (taken group declaration.definition) records declaration,
          later) ∧
      holds (Scene.grown ⟨group, zone, failing⟩ records declaration) later := by
  obtain ⟨later, answer, there⟩ := keeps.create group zone declaration records state named here
  rw [Declaration.realise_apply, answer]
  unfold Scene.reply Scene.ruling
  cases Scene.bars ⟨group, zone, failing⟩ declaration with
  | true => exact ⟨later, rfl, there⟩
  | false =>
      cases held : Scene.holder? ⟨group, zone, failing⟩ records declaration with
      | none => exact ⟨later, rfl, there⟩
      | some record =>
          rw [Scene.grown_of_holder? held] at there ⊢
          obtain ⟨last, found, still⟩ := keeps.find group declaration.definition.kind
            declaration.definition.name records later there
          rw [show records.find? _ = some record from held] at found
          refine ⟨last, ?_, still⟩
          show (declaration.settle zone (taken group declaration.definition)
            (provider.find group _ _ later).1, (provider.find group _ _ later).2) = _
          rw [found]
          rfl

theorem realiseAll_apply (keeps : provider.Keeps failing taken holds) (group : ResourceGroup)
    (zone : String) {declarations : List Declaration}
    (named : ∀ declaration ∈ declarations, Text.isBlank declaration.definition.name = false)
    (here : holds records state) :
    ∃ later, Declaration.realiseAll provider group zone declarations state =
        ((Scene.rulings ⟨group, zone, failing⟩ (taken group) records declarations).1, later) ∧
      holds (Scene.rulings ⟨group, zone, failing⟩ (taken group) records declarations).2 later := by
  induction declarations generalizing records state with
  | nil => exact ⟨state, rfl, here⟩
  | cons declaration rest hyp =>
      obtain ⟨after, first, there⟩ :=
        keeps.realise_apply group zone (named declaration List.mem_cons_self) here
      rw [Declaration.realiseAll_apply, first]
      unfold Scene.rulings
      cases Scene.ruling ⟨group, zone, failing⟩ (taken group declaration.definition) records
        declaration with
      | error error => exact ⟨after, rfl, there⟩
      | ok resource =>
          obtain ⟨later, others, still⟩ :=
            hyp (fun other member => named other (List.mem_cons_of_mem _ member)) there
          simp only [others]
          exact ⟨later, rfl, still⟩

/-- **A deployment comes to its outcome.** -/
theorem deploy_apply (keeps : provider.Keeps failing taken holds) (blueprint : Blueprint)
    (here : holds records state) :
    ∃ later, blueprint.deploy provider state = ((blueprint.outcome failing taken records).1, later) ∧
      holds (blueprint.outcome failing taken records).2 later := by
  unfold Blueprint.outcome
  cases faulty : blueprint.fault? with
  | some fault => exact ⟨state, Blueprint.deploy_of_fault faulty state, here⟩
  | none =>
      have named : ∀ declaration ∈ blueprint.declarations,
          Text.isBlank declaration.definition.name = false := fun declaration member =>
        Declaration.isBlank_of_faultless (Blueprint.faultless_declaration faulty declaration member)
      obtain ⟨later, all, there⟩ :=
        keeps.realiseAll_apply blueprint.group blueprint.zone named here
      rw [Blueprint.deploy_of_faultless faulty, all]
      exact ⟨later, rfl, there⟩

/-- **Deployments leave the records of their outcomes.** -/
theorem deployed (keeps : provider.Keeps failing taken holds) (history : List Blueprint)
    (here : holds records state) :
    holds (Blueprint.outcomes failing taken history records) (provider.deployed history state) := by
  induction history generalizing records state with
  | nil => exact here
  | cons blueprint rest hyp =>
      obtain ⟨later, answer, there⟩ := keeps.deploy_apply blueprint here
      have next : (blueprint.deploy provider state).2 = later := by rw [answer]
      show holds (Blueprint.outcomes failing taken rest _)
        (provider.deployed rest (blueprint.deploy provider state).2)
      rw [next]
      exact hyp there

end Provider.Keeps

/-- **The provider in memory keeps its records.** -/
theorem Memory.provider_keeps (failing : List String) :
    Memory.provider.Keeps failing (fun _ definition => definition.name)
      (fun records memory => memory.records = records ∧ memory.failing = failing) where
  create := by
    rintro group zone declaration records memory - ⟨rfl, rfl⟩
    exact ⟨_, Memory.provider_create memory group zone declaration, rfl, rfl⟩
  find := by
    rintro group kind name records memory ⟨rfl, rfl⟩
    exact ⟨memory, rfl, rfl, rfl⟩
  list := by
    rintro group records memory ⟨rfl, rfl⟩
    exact ⟨memory, rfl, rfl, rfl⟩

/-- **The provider on a store keeps its records.** -/
theorem Store.provider_keeps (holder : String) {store : Store} {route : Route} (fits : store.Fits) :
    (store.provider (Ticking.host holder)).Keeps [] StoreState.takenText (store.Remembers route) where
  create := by
    intro group zone declaration records ticking named remembers
    have free : Scene.bars ⟨group, zone, []⟩ declaration = false := rfl
    unfold Scene.reply
    rw [free, if_neg Bool.false_ne_true]
    cases held : Scene.holder? ⟨group, zone, []⟩ records declaration with
    | some record =>
        rw [Scene.grown_of_holder? held]
        exact create_of_taken holder fits remembers _ named held
    | none =>
        rw [Scene.grown_of_vacant free held]
        exact create_of_vacant holder fits remembers _ named held
  find := fun group kind name _ _ remembers => find_apply holder fits remembers group kind name
  list := fun group _ _ remembers => list_apply holder fits remembers group

end Provision
