/-
**Groups do not leak into each other.**

A provider tells groups apart by their names. Deployments into groups of other names leave the records
of a group alone, and its deployments depend on those records alone:

* `Memory.ofGroup` are the records of a group, `Blueprint.outcome_ofGroup` and
  `Blueprint.ofGroup_outcome_of_ne` say what a deployment makes of them, and `Blueprint.ofGroup_outcomes`
  what a history does;
* `Memory.Rooted` says that the records of a group have the identifiers of that group, which holds as
  long as nobody deploys into a group of that name in another subscription;
* `Provider.KeepsApart` says what it is for a provider to keep a group apart, and
  `Provider.Keeps.keepsApart` that every provider that answers from records does;
* `groups_stay_apart` puts this together for both providers; `subscriptions_leak` shows two groups of
  one name in different subscriptions.
-/

import Provision.Proofs.Identifiers
import Provision.Proofs.Keepers
import Provision.Proofs.Refinement

namespace Provision

/-- The records of the group with a name. -/
def Memory.ofGroup (name : String) (records : List Memory.Record) : List Memory.Record :=
  records.filter (·.group == name)

namespace Scene

variable {scene : Scene} {records : List Memory.Record} {declaration : Declaration} {name : String}

/-- Whose name is taken can be read off the records of the group. -/
theorem holder?_ofGroup (scene : Scene) (records : List Memory.Record) (declaration : Declaration) :
    scene.holder? (Memory.ofGroup scene.group.name records) declaration =
      scene.holder? records declaration := by
  unfold holder? Memory.ofGroup
  rw [List.find?_filter]
  refine congrArg (List.find? · records) (funext fun record => ?_)
  cases same : record.group == scene.group.name with
  | true => simp
  | false => simp [Memory.Record.isAt, same]

theorem grown_ofGroup (scene : Scene) (records : List Memory.Record) (declaration : Declaration) :
    scene.grown (Memory.ofGroup scene.group.name records) declaration =
      Memory.ofGroup scene.group.name (scene.grown records declaration) := by
  unfold grown
  rw [holder?_ofGroup]
  split
  · rfl
  · have inside : ((scene.record declaration).group == scene.group.name) = true :=
      beq_self_eq_true scene.group.name
    unfold Memory.ofGroup
    rw [List.filter_append, List.filter_singleton, inside]
    rfl

/-- The records of a group of another name stay. -/
theorem ofGroup_grown_of_ne (other : scene.group.name ≠ name) :
    Memory.ofGroup name (scene.grown records declaration) = Memory.ofGroup name records := by
  unfold grown
  split
  · rfl
  · have outside : ((scene.record declaration).group == name) = false := beq_false_of_ne other
    unfold Memory.ofGroup
    rw [List.filter_append, List.filter_singleton, outside]
    exact List.append_nil _

theorem ruling_ofGroup (scene : Scene) (taken : String) (records : List Memory.Record)
    (declaration : Declaration) :
    scene.ruling taken (Memory.ofGroup scene.group.name records) declaration =
      scene.ruling taken records declaration := by
  unfold ruling
  rw [holder?_ofGroup]

/-- **Declarations lead to what they lead to in the records of the group alone.** -/
theorem rulings_ofGroup (scene : Scene) (taken : ResourceDefinition → String)
    (records : List Memory.Record) (declarations : List Declaration) :
    scene.rulings taken (Memory.ofGroup scene.group.name records) declarations =
      ((scene.rulings taken records declarations).1,
        Memory.ofGroup scene.group.name (scene.rulings taken records declarations).2) := by
  induction declarations generalizing records with
  | nil => rfl
  | cons declaration rest hyp =>
      unfold rulings
      rw [ruling_ofGroup, grown_ofGroup, hyp]
      split <;> rfl

end Scene

namespace Blueprint

variable (failing : List String) (taken : ResourceGroup → ResourceDefinition → String)

theorem outcome_ofGroup (blueprint : Blueprint) (records : List Memory.Record) :
    blueprint.outcome failing taken (Memory.ofGroup blueprint.group.name records) =
      ((blueprint.outcome failing taken records).1,
        Memory.ofGroup blueprint.group.name (blueprint.outcome failing taken records).2) := by
  unfold outcome
  split
  · rfl
  · have rulings := Scene.rulings_ofGroup ⟨blueprint.group, blueprint.zone, failing⟩
      (taken blueprint.group) records blueprint.declarations
    simp only [rulings]

/-- What holds of records and is kept when one of the blueprint is added holds after a deployment. -/
theorem outcome_invariant (holds : List Memory.Record → Prop) {blueprint : Blueprint}
    {records : List Memory.Record}
    (keeps : ∀ declaration records, holds records →
      holds (Scene.grown ⟨blueprint.group, blueprint.zone, failing⟩ records declaration))
    (initially : holds records) : holds (blueprint.outcome failing taken records).2 := by
  unfold outcome
  split
  · exact initially
  · exact Scene.rulings_invariant holds (fun declaration _ records => keeps declaration records)
      initially

theorem ofGroup_outcome_of_ne {blueprint : Blueprint} {name : String}
    (other : blueprint.group.name ≠ name) (records : List Memory.Record) :
    Memory.ofGroup name (blueprint.outcome failing taken records).2 = Memory.ofGroup name records :=
  outcome_invariant failing taken (fun later => Memory.ofGroup name later = Memory.ofGroup name records)
    (fun _ _ same => (Scene.ofGroup_grown_of_ne other).trans same) rfl

/-- **The records of a group after a history** are those after its own deployments. -/
theorem ofGroup_outcomes (name : String) (history : List Blueprint) (records : List Memory.Record) :
    Memory.ofGroup name (outcomes failing taken history records) =
      outcomes failing taken (history.filter (·.group.name == name)) (Memory.ofGroup name records) := by
  induction history generalizing records with
  | nil => rfl
  | cons blueprint rest hyp =>
      show Memory.ofGroup name (outcomes failing taken rest _) = _
      rw [hyp]
      by_cases same : blueprint.group.name = name
      · subst same
        rw [List.filter_cons_of_pos (by simp)]
        show _ = outcomes failing taken _ (blueprint.outcome failing taken _).2
        rw [outcome_ofGroup]
      · rw [List.filter_cons_of_neg (by simpa using same), ofGroup_outcome_of_ne _ _ same]

end Blueprint

/-! ### Identifiers -/

/-- The records of the group of a name have the identifiers of that group. -/
def Memory.Rooted (group : ResourceGroup) (records : List Memory.Record) : Prop :=
  ∀ record ∈ records, record.group = group.name →
    record.resource.id = group.resourceId record.kind record.name

namespace Memory.Rooted

variable {group : ResourceGroup} {records : List Record} {blueprint : Blueprint}
  {failing : List String} {taken : ResourceGroup → ResourceDefinition → String}

theorem outcome (rooted : Rooted group records)
    (known : blueprint.group.name = group.name → blueprint.group.Same group) :
    Rooted group (blueprint.outcome failing taken records).2 := by
  refine Blueprint.outcome_invariant failing taken (Rooted group) (fun declaration before rooted => ?_)
    rooted
  unfold Scene.grown
  split
  · exact rooted
  · intro record member home
    rcases List.mem_append.mp member with old | new
    · exact rooted record old home
    · obtain rfl := List.mem_singleton.mp new
      exact (known home).resourceId _ _

theorem outcomes {history : List Blueprint} (rooted : Rooted group records)
    (known : ∀ blueprint ∈ history, blueprint.group.name = group.name →
      blueprint.group.Same group) :
    Rooted group (Blueprint.outcomes failing taken history records) := by
  induction history generalizing records with
  | nil => exact rooted
  | cons blueprint rest hyp =>
      have first := known blueprint List.mem_cons_self
      exact hyp (rooted.outcome first) fun other member => known other (List.mem_cons_of_mem _ member)

/-- **What a deployment delivers has the identifiers of its group.** -/
theorem made (rooted : Rooted group records) (home : blueprint.group.Same group)
    {made : List DeployedResource}
    (succeeds : (blueprint.outcome failing taken records).1 = .ok made) :
    List.Forall₂ (fun declaration resource =>
      resource.id = group.resourceId declaration.definition.kind declaration.definition.name)
      blueprint.declarations made := by
  have after : Rooted group (blueprint.outcome failing taken records).2 :=
    rooted.outcome fun _ => home
  obtain ⟨realised, left⟩ := Blueprint.realised_of_outcome succeeds
  rw [left] at after
  refine (Scene.stands_of_verdicts realised).imp fun declaration resource stands => ?_
  obtain ⟨⟨record, member, rfl, key⟩, -⟩ := stands
  simp only [Record.key, Declaration.key, Prod.mk.injEq] at key
  rw [after record member (key.1.trans home.1), key.2.1, key.2.2]

end Memory.Rooted

/-! ### Both providers -/

instance (first second : ResourceGroup) : Decidable (first.Same second) :=
  inferInstanceAs (Decidable (_ ∧ _))

/-- After a history of deployments through a provider, a group is as it is after its own ones, and
what is delivered and listed there has the identifiers of the group. -/
structure Provider.KeepsApart {σ : Type} (provider : Provider (StateM σ)) (start : σ)
    (history : List Blueprint) (group : ResourceGroup) : Prop where
  /-- The next deployment into the group comes to what it comes to without the other groups. -/
  deploy : ∀ blueprint : Blueprint, blueprint.group.Same group →
    (blueprint.deploy provider (provider.deployed history start)).1 =
      (blueprint.deploy provider
        (provider.deployed (history.filter (·.group.Same group)) start)).1
  /-- What it delivers has the identifiers that the group gives to what is declared. -/
  made : ∀ (blueprint : Blueprint) (made : List DeployedResource), blueprint.group.Same group →
    (blueprint.deploy provider (provider.deployed history start)).1 = .ok made →
    List.Forall₂ (fun declaration resource =>
      resource.id = group.resourceId declaration.definition.kind declaration.definition.name)
      blueprint.declarations made
  /-- The resources of the group can be listed, are the same ones without the other groups, and have
  identifiers of the group. -/
  listed : ∃ listed, (provider.list group (provider.deployed history start)).1 = .ok listed ∧
    (provider.list group (provider.deployed (history.filter (·.group.Same group)) start)).1 =
      .ok listed ∧
    ∀ resource ∈ listed, ∃ kind name, resource.id = group.resourceId kind name

namespace Provider.Keeps

variable {σ : Type} {provider : Provider (StateM σ)} {failing : List String}
  {taken : ResourceGroup → ResourceDefinition → String} {holds : List Memory.Record → σ → Prop}
  {start : σ} {history : List Blueprint} {group : ResourceGroup}

/-- After a history, the provider keeps some records, in which the group has the identifiers of its own.
After the deployments into the group alone, it keeps those of the group. -/
theorem exists_apart (keeps : provider.Keeps failing taken holds) (initially : holds [] start)
    (known : ∀ blueprint ∈ history, blueprint.group.name = group.name →
      blueprint.group.Same group) :
    ∃ records, holds records (provider.deployed history start) ∧ Memory.Rooted group records ∧
      holds (Memory.ofGroup group.name records)
        (provider.deployed (history.filter (·.group.Same group)) start) := by
  have own : history.filter (·.group.Same group) =
      history.filter (·.group.name == group.name) := by
    refine List.filter_congr fun blueprint member => ?_
    rw [decide_eq_decide.mpr (⟨And.left, known blueprint member⟩ :
      blueprint.group.Same group ↔ blueprint.group.name = group.name)]
    rfl
  refine ⟨Blueprint.outcomes failing taken history [], keeps.deployed history initially,
    Memory.Rooted.outcomes (fun _ member => (nomatch member)) known, ?_⟩
  rw [own, Blueprint.ofGroup_outcomes]
  exact keeps.deployed _ initially

theorem keepsApart (keeps : provider.Keeps failing taken holds) (initially : holds [] start)
    (known : ∀ blueprint ∈ history, blueprint.group.name = group.name →
      blueprint.group.Same group) : provider.KeepsApart start history group := by
  obtain ⟨records, together, rooted, apart⟩ := keeps.exists_apart initially known
  refine ⟨fun blueprint home => ?deploy, fun blueprint made home succeeds => ?made, ?listed⟩
  case deploy =>
    obtain ⟨_, answer, -⟩ := keeps.deploy_apply blueprint together
    obtain ⟨_, answer', -⟩ := keeps.deploy_apply blueprint apart
    rw [answer, answer', ← home.1, Blueprint.outcome_ofGroup]
  case made =>
    obtain ⟨_, answer, -⟩ := keeps.deploy_apply blueprint together
    rw [answer] at succeeds
    exact rooted.made home succeeds
  case listed =>
    obtain ⟨_, answer, -⟩ := keeps.list group _ _ together
    obtain ⟨_, answer', -⟩ := keeps.list group _ _ apart
    refine ⟨(Memory.ofGroup group.name records).map (·.resource), by rw [answer]; rfl, ?_,
      fun resource member => ?_⟩
    · rw [answer']
      show Except.ok ((Memory.ofGroup group.name (Memory.ofGroup group.name records)).map _) = _
      rw [Memory.ofGroup, Memory.ofGroup, List.filter_filter]
      simp only [Bool.and_self]
    · obtain ⟨record, inside, rfl⟩ := List.mem_map.mp member
      obtain ⟨old, home⟩ := List.mem_filter.mp inside
      exact ⟨record.kind, record.name, rooted record old (beq_iff_eq.mp home)⟩

end Provider.Keeps

/-- **Groups do not leak into each other**, as long as groups of one name are in one subscription.
After any history of deployments into any groups, through a provider in memory that starts empty or
through one on a store whose directory starts empty or missing, a deployment into a group comes to
what it comes to after the deployments into that group alone, and what is delivered and listed there
has the identifiers of the group. -/
theorem groups_stay_apart (group : ResourceGroup) (history : List Blueprint)
    (known : ∀ blueprint ∈ history, blueprint.group.name = group.name →
      blueprint.group.Same group) :
    (∀ failing, Memory.provider.KeepsApart { failing := failing } history group) ∧
      ∀ (store : Store) (holder : String) (route : Route) (ticking opened : Ticking),
        store.Ready route ticking opened →
          (store.provider (Ticking.host holder)).KeepsApart ticking history group := by
  refine ⟨fun failing => ?_, fun store holder route ticking opened ready => ?_⟩
  · exact (Memory.provider_keeps failing).keepsApart ⟨rfl, rfl⟩ known
  · exact (Store.provider_keeps holder ready.fits).keepsApart ready.mirrors.remembers known

/-- A landing zone with a storage account in a group of a subscription. -/
def lodger (name subscription : String) : Blueprint where
  group := ⟨name, "eastus", subscription⟩
  zone := "lz"
  declarations := [{ definition := { name := "sa1", kind := .storageAccount, region := "eastus" } }]

/-- The resource that is created for it where there is none yet. -/
def lodging (name subscription : String) : DeployedResource :=
  (Memory.Record.ofDefinition (lodger name subscription).group
    { name := "sa1", kind := .storageAccount, region := "eastus" }
    (Tags.owned "lz")).resource

/-- A landing zone that is deployed into two groups of different names has a storage account of its own
in each. -/
theorem lodgers_stay_apart :
    let group : ResourceGroup := ⟨"rg", "westus", "sub-1"⟩
    let history := [lodger "other" "sub-2", lodger "rg" "sub-1", lodger "other" "sub-1"]
    (∀ blueprint ∈ history, blueprint.group.name = group.name → blueprint.group.Same group) ∧
      Store.Ready ⟨"state"⟩ ["state"] depotMachine depotOpened ∧
      ((lodger "rg" "sub-1").deploy Memory.provider (Memory.provider.deployed history {})).1 =
        .ok [lodging "rg" "sub-1"] ∧
      (lodging "rg" "sub-1").id = group.resourceId .storageAccount "sa1" ∧
      (Store.provider ⟨"state"⟩ (Ticking.host "holder")).KeepsApart depotMachine history group := by
  intro group history
  have known : ∀ blueprint ∈ history, blueprint.group.name = group.name →
      blueprint.group.Same group := by decide
  have delivered : ((lodger "rg" "sub-1").deploy Memory.provider
      (Memory.provider.deployed history {})).1 = .ok [lodging "rg" "sub-1"] := by decide +kernel
  obtain ⟨memory, stores⟩ := groups_stay_apart group history known
  have made := (memory []).made (lodger "rg" "sub-1") _ ⟨rfl, rfl⟩ delivered
  exact ⟨known, depotMachine_ready, delivered, (List.forall₂_cons.mp made).1,
    stores ⟨"state"⟩ "holder" ["state"] depotMachine depotOpened depotMachine_ready⟩

/-- **Groups of one name in different subscriptions are taken for one.** A deployment into the second
one delivers, and a list of it shows, the storage account of the first one. -/
theorem subscriptions_leak :
    let first := lodger "rg" "sub-1"
    let second := lodger "rg" "sub-2"
    let after := Memory.provider.deployed [first] {}
    ¬first.group.Same second.group ∧
      (second.deploy Memory.provider after).1 = .ok [lodging "rg" "sub-1"] ∧
      (Memory.provider.list second.group after).1 = .ok [lodging "rg" "sub-1"] ∧
      (lodging "rg" "sub-1").id ≠ second.group.resourceId .storageAccount "sa1" ∧
      (second.deploy Memory.provider {}).1 = .ok [lodging "rg" "sub-2"] := by
  decide +kernel

end Provision
