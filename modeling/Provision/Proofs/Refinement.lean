/-
**A store refines the memory.**

Demands are answered alike by a provider that keeps its resources in a store and by one that keeps them
in memory, and after each of them both have the same records:

* `Demand` is a call to a provider, a deployment or a survey, `Demand.ask` makes it, and `observe`
  makes several in order and looks at the state after each;
* `Store.Ready` is what holds of a store whose directory is empty or missing;
* `Store.simulates_memory` goes from one call to the next;
* `store_refines_memory` puts this together.
-/

import Provision.Proofs.Simulation
import Provision.Proofs.Store.Answers

namespace Provision

/-! ### Requests -/

/-- What can be asked of a provider. -/
inductive Demand where
  | create (group : ResourceGroup) (definition : ResourceDefinition) (tags : Tags)
  | find (group : ResourceGroup) (kind : ResourceKind) (name : String)
  | list (group : ResourceGroup)
  | subnets (network : String)
  | deploy (blueprint : Blueprint)
  | owned (survey : Survey)
  | withPurpose (survey : Survey) (purpose : ResourcePurpose)
  | shared (survey : Survey)
  | networks (survey : Survey) (purpose : SubnetPurpose)

/-- What comes of a demand. -/
inductive Reply where
  | created (answer : Answer DeployedResource)
  | found (answer : Answer (Option DeployedResource))
  | listed (answer : Answer (List DeployedResource))
  | subnets (answer : Answer Subnets)
  | deployed (outcome : Except ZoneError (List DeployedResource))
  | surveyed (outcome : Except ZoneError (List DeployedResource))
  | networks (outcome : Except ZoneError (List DeployedNetwork))

/-- A reply without the text by which a name is said to be taken. -/
def Reply.plain : Reply → Reply
  | created answer => created (answer.mapError CloudError.plain)
  | deployed outcome => deployed (outcome.mapError ZoneError.plain)
  | reply => reply

namespace Demand

/-- A demand that creates no resource without a name; a deployment refuses those by itself. -/
def Named : Demand → Prop
  | create _ definition _ => Text.isBlank definition.name = false
  | _ => True

/-- Makes a demand. -/
def ask {m : Type → Type} [Monad m] (provider : Provider m) : Demand → m Reply
  | create group definition tags => do
    let answer ← provider.create group definition tags
    pure (.created answer)
  | find group kind name => do
    let answer ← provider.find group kind name
    pure (.found answer)
  | list group => do
    let answer ← provider.list group
    pure (.listed answer)
  | subnets network => do
    let answer ← provider.subnets network
    pure (.subnets answer)
  | deploy blueprint => do
    let outcome ← blueprint.deploy provider
    pure (.deployed outcome)
  | owned survey => do
    let outcome ← survey.owned provider
    pure (.surveyed outcome)
  | withPurpose survey purpose => do
    let outcome ← survey.withPurpose provider purpose
    pure (.surveyed outcome)
  | shared survey => do
    let outcome ← survey.shared provider
    pure (.surveyed outcome)
  | networks survey purpose => do
    let outcome ← survey.networks provider purpose
    pure (.networks outcome)

end Demand

/-- The replies to demands that are made in order, without the texts by which names are said to be
taken, and what there is to be seen after each. -/
def observe {σ α : Type} (provider : Provider (StateM σ)) (look : σ → α) :
    List Demand → σ → List (Reply × α)
  | [], _ => []
  | demand :: rest, state =>
    let reply := demand.ask provider state
    (reply.1.plain, look reply.2) :: observe provider look rest reply.2

section Simulation

variable {σ τ α : Type} {first : Provider (StateM σ)} {second : Provider (StateM τ)}
  {related : σ → τ → Prop} {state : σ} {other : τ}

/-- What is made of answers that are alike is alike. -/
theorem Agree.reply {α β : Type} {plain : α → β} {operation : StateM σ α} {operation' : StateM τ α}
    (agree : Agree plain related (operation state) (operation' other)) (reply : α → Reply)
    (alike : ∀ answer answer', plain answer = plain answer' →
      (reply answer).plain = (reply answer').plain) :
    Agree Reply.plain related ((do let answer ← operation; pure (reply answer) : StateM σ Reply) state)
      ((do let answer ← operation'; pure (reply answer) : StateM τ Reply) other) :=
  ⟨alike _ _ agree.answer, agree.state⟩

/-- **Demands are answered alike by providers that answer alike.** -/
theorem Provider.Simulates.ask (simulates : first.Simulates second related) {demand : Demand}
    (named : demand.Named) (start : related state other) :
    Agree Reply.plain related (demand.ask first state) (demand.ask second other) := by
  cases demand with
  | create group definition tags =>
      exact (simulates.create group definition tags state other named start).reply .created
        fun _ _ same => congrArg Reply.created same
  | find group kind name =>
      exact (simulates.find group kind name state other start).reply .found
        fun _ _ same => congrArg Reply.found same
  | list group =>
      exact (simulates.list group state other start).reply .listed
        fun _ _ same => congrArg Reply.listed same
  | subnets network =>
      exact (simulates.subnets network state other start).reply .subnets
        fun _ _ same => congrArg Reply.subnets same
  | deploy blueprint =>
      exact (simulates.deploy blueprint start).reply .deployed
        fun _ _ same => congrArg Reply.deployed same
  | owned survey =>
      exact (simulates.resources survey _ start).reply .surveyed
        fun _ _ same => congrArg Reply.surveyed same
  | withPurpose survey purpose =>
      exact (simulates.resources survey _ start).reply .surveyed
        fun _ _ same => congrArg Reply.surveyed same
  | shared survey =>
      exact (simulates.resources survey _ start).reply .surveyed
        fun _ _ same => congrArg Reply.surveyed same
  | networks survey purpose =>
      exact (simulates.networks survey purpose start).reply .networks
        fun _ _ same => congrArg Reply.networks same

/-- Providers that answer alike cannot be told apart by demands. -/
theorem Provider.Simulates.observe (simulates : first.Simulates second related) {look : σ → α}
    {look' : τ → α} (seen : ∀ state other, related state other → look state = look' other)
    {demands : List Demand} (named : ∀ demand ∈ demands, demand.Named)
    (start : related state other) :
    observe first look demands state = observe second look' demands other := by
  induction demands generalizing state other with
  | nil => rfl
  | cons demand rest hyp =>
      have agree := simulates.ask (named demand List.mem_cons_self) start
      have others := hyp (fun other member => named other (List.mem_cons_of_mem _ member)) agree.state
      rw [Provision.observe, Provision.observe]
      simp only [agree.answer, seen _ _ agree.state, others]

end Simulation

/-! ### A store and the memory -/

namespace Store

open FileTree

variable {store : Store} {route : Route} (holder : String)

/-- A store and a memory with the same records. -/
structure Mirrors (store : Store) (route : Route) (ticking : Ticking) (memory : Memory) : Prop where
  remembers : store.Remembers route memory.records ticking
  /-- The memory was not told to fail. -/
  willing : memory.failing = []

theorem create_agrees (fits : store.Fits) (group : ResourceGroup) (definition : ResourceDefinition)
    (tags : Tags) {ticking : Ticking} {memory : Memory}
    (named : Text.isBlank definition.name = false) (start : store.Mirrors route ticking memory) :
    Agree (Except.mapError CloudError.plain) (store.Mirrors route)
      ((store.provider (Ticking.host holder)).create group definition tags ticking)
      (Memory.provider.create group definition tags memory) := by
  have willing : memory.failing.contains definition.name = false := by
    rw [start.willing]
    rfl
  show Agree _ _ _ (memory.create group definition tags)
  rw [Memory.create, willing]
  cases found : memory.record? group.name definition.kind definition.name with
  | some record =>
      obtain ⟨later, answer, remembers⟩ :=
        create_of_taken holder fits start.remembers tags named found
      rw [answer]
      exact ⟨rfl, remembers, start.willing⟩
  | none =>
      obtain ⟨later, answer, remembers⟩ :=
        create_of_vacant holder fits start.remembers tags named found
      rw [answer]
      exact ⟨rfl, remembers, start.willing⟩

/-- **A store and a memory with the same records answer alike.** -/
theorem simulates_memory (fits : store.Fits) :
    (store.provider (Ticking.host holder)).Simulates Memory.provider (store.Mirrors route) where
  create := fun group definition tags _ _ named start =>
    create_agrees holder fits group definition tags named start
  find := fun group kind name ticking memory start => by
    obtain ⟨later, answer, remembers⟩ := find_apply holder fits start.remembers group kind name
    rw [answer]
    exact ⟨rfl, remembers, start.willing⟩
  list := fun group ticking memory start => by
    obtain ⟨later, answer, remembers⟩ := list_apply holder fits start.remembers group
    rw [answer]
    exact ⟨rfl, remembers, start.willing⟩
  subnets := fun network ticking memory start => by
    obtain ⟨later, answer, remembers⟩ := subnets_apply holder fits start.remembers network
    rw [answer]
    exact ⟨rfl, remembers, start.willing⟩

/-- The records that the state file of a store spells, none while there is no such file. -/
def recorded (store : Store) (ticking : Ticking) : Option (List Memory.Record) :=
  match ticking.machine.tree.read ticking.machine.directory store.statePath with
  | .ok bytes => (Document.ofBytes? (α := StoreState) bytes).map StoreState.records
  | .error .notFound => some []
  | .error _ => none

/-- Whether the directory of a store is at a route. An empty path stands for the current directory. -/
def Leads (store : Store) (route : Route) (ticking : Ticking) : Prop :=
  store.directory = "" ∧ route = ticking.machine.directory ∨
    ticking.machine.tree.resolve .target ticking.machine.directory store.directory =
      .ok (.existing route .directory)

theorem Leads.folder {ticking : Ticking} (leads : store.Leads route ticking) :
    Folder ticking.machine.tree ticking.machine.directory store.directory route := by
  rcases leads with ⟨here, rfl⟩ | leads
  · rw [here]
    exact .here _ _
  · exact .of_resolve leads

/-- A store whose directory is empty once it has been made, on a machine whose clock shows times that
can be written. -/
structure Ready (store : Store) (route : Route) (ticking opened : Ticking) : Prop where
  made : Ticking.disk.makeDirectories store.directory ticking = (.ok (), opened)
  leads : store.Leads route opened
  empty : ∀ name, opened.machine.tree.entry? (route ++ [name]) = none
  fits : store.Fits
  timely : ∀ index, (opened.readings index).Nameable

/-- **A directory that is there and empty need not be made.** -/
theorem ready_of_empty {ticking : Ticking} (leads : store.Leads route ticking)
    (empty : ∀ name, ticking.machine.tree.entry? (route ++ [name]) = none) (fits : store.Fits)
    (timely : ∀ index, (ticking.readings index).Nameable) : store.Ready route ticking ticking where
  made :=
    have desk : Desk store route (fun _ => none) ticking := ⟨⟨leads.folder, empty⟩, timely⟩
    desk.makeDirectories_apply "" fits.directory
  leads := leads
  empty := empty
  fits := fits
  timely := timely

theorem Ready.mirrors {ticking opened : Ticking} (ready : store.Ready route ticking opened) :
    store.Mirrors route ticking {} where
  remembers :=
    .inr ⟨⟨opened, ready.made, ⟨ready.leads.folder, ready.empty⟩, ready.timely⟩, rfl⟩
  willing := rfl

theorem ofBytes?_of_stateOf {bytes : Bytes} {state : StoreState}
    (spelled : stateOf bytes = .ok state) : Document.ofBytes? bytes = some state := by
  unfold stateOf at spelled
  split at spelled
  · cases spelled
  next read =>
    split at spelled
    · cases spelled
    · rw [read, Except.ok.inj spelled]

theorem Mirrors.recorded (fits : store.Fits) {ticking : Ticking} {memory : Memory}
    (mirrors : store.Mirrors route ticking memory) :
    store.recorded ticking = some memory.records := by
  have stateFits := fits.file stateName (by decide)
  rw [Store.recorded, show store.statePath = Path.join store.directory stateName from rfl]
  rcases mirrors.remembers with ⟨contents, desk, -, spells⟩ | ⟨untouched, none⟩
  · rw [desk.shelf.read_eq stateFits]
    cases known : contents stateName with
    | none =>
        rw [known] at spells
        exact congrArg some (Eq.symm spells)
    | some bytes =>
        rw [known] at spells
        obtain ⟨state, spelled, -, same⟩ := spells
        simp only [ofBytes?_of_stateOf spelled, Option.map_some, same]
  · obtain ⟨tree, grows, shelf, -, -⟩ := untouched.exists_shelf
    rw [shelf.read_eq_of_grows grows stateFits rfl, none]

end Store

/-- **A store refines the memory.** Whatever is asked of a store whose directory starts empty, or is not
there yet, and is touched by nobody else, while the clock shows any times: each demand is answered as by
a memory that starts empty, up to the text by which a name is said to be taken, and after each demand the
state file spells the records of that memory, in their order. -/
theorem store_refines_memory (store : Store) (holder : String) (route : Route)
    (ticking opened : Ticking) (ready : store.Ready route ticking opened) (demands : List Demand)
    (named : ∀ demand ∈ demands, demand.Named) :
    observe (store.provider (Ticking.host holder)) store.recorded demands ticking =
      observe Memory.provider (fun memory => some memory.records) demands {} :=
  (Store.simulates_memory holder ready.fits).observe
    (fun _ _ mirrors => mirrors.recorded ready.fits) named ready.mirrors

/-- A machine without any files, whose clock starts a day anew after its last second. -/
def depotMachine : Ticking where
  machine := { now := ⟨0, 0⟩ }
  readings := fun index => ⟨(index % 86400 : Nat), 0⟩

/-- The same machine with a directory. -/
def depotOpened : Ticking := depotMachine.withTree ((∅ : FileTree).insert ["state"] .directory)

/-- A storage account to create. -/
def depot : ResourceDefinition where
  name := "sa"
  kind := .storageAccount
  region := "eastus"

/-- A storage account is created twice, then deployed, and looked for. -/
def depotDemands : List Demand :=
  let group : ResourceGroup := ⟨"rg", "eastus", "sub"⟩
  [.create group depot ∅, .create group depot ∅,
    .deploy { group := group, zone := "lz", declarations := [{ definition := depot }] },
    .find group .storageAccount "sa", .list group, .owned { group := group }]

theorem depotMachine_ready : Store.Ready ⟨"state"⟩ ["state"] depotMachine depotOpened where
  made := rfl
  leads := by
    have name : FileTree.IsName "state" := ⟨by decide, by decide, by decide, by decide⟩
    have below : FileTree.entry? depotOpened.machine.tree ([] ++ ["state"]) = some .directory :=
      (FileTree.entry?_insert (by decide) _ _).trans (if_pos rfl)
    refine .inr ?_
    rw [FileTree.resolve, FileTree.resolvePart_eq (by decide) (by decide) (by decide)]
    exact (FileTree.resolveSegments_down name rfl below).trans FileTree.resolveSegments_nil
  empty := fun name => (FileTree.entry?_insert (by decide) _ _).trans (if_neg (by simp))
  fits := by show String.utf8ByteSize _ ≤ _; decide
  timely := fun index => by
    refine ⟨.inl (show 0 < 1000000000 by decide), ?_⟩
    have day : (((index % 86400 : Nat) : Int)) / 86400 = 0 := by omega
    show Instant.isDay (((index % 86400 : Nat) : Int) / 86400) = true
    rw [day]
    decide

/-- What is asked about a storage account is answered alike. -/
theorem depot_store_refines_memory :
    Store.Ready ⟨"state"⟩ ["state"] depotMachine depotOpened ∧ (∀ demand ∈ depotDemands, demand.Named) ∧
      observe (Store.provider ⟨"state"⟩ (Ticking.host "holder")) (Store.recorded ⟨"state"⟩) depotDemands
          depotMachine =
        observe Memory.provider (fun memory => some memory.records) depotDemands {} := by
  have named : ∀ demand ∈ depotDemands, demand.Named := by
    intro demand member
    simp only [depotDemands, List.mem_cons, List.not_mem_nil, or_false] at member
    rcases member with rfl | rfl | rfl | rfl | rfl | rfl
    · show Text.isBlank depot.name = false
      decide
    · show Text.isBlank depot.name = false
      decide
    all_goals exact trivial
  exact ⟨depotMachine_ready, named,
    store_refines_memory ⟨"state"⟩ "holder" ["state"] depotMachine depotOpened depotMachine_ready
      depotDemands named⟩

end Provision
