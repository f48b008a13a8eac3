/-
**What is kept is read back.**

Whatever a store keeps and whatever people are shown is a document, and it is read back as it was:

* `Store.load_of_save`: a state that was saved is loaded, or its version refused;
* **`documents_round_trip`** puts this together with the round trips of all records.
-/

import Provision.Proofs.Records
import Provision.Proofs.Store.Rotation

namespace Provision

open Document FileTree

namespace Store

variable {store : Store} {shows : Instant → Prop} {route : Route} {ticking later : Ticking}
  {state : StoreState}

/-- **A state that was saved is loaded**, by whomever; only one of a later version is refused. -/
theorem load_of_save (holder reader : String) (placed : store.Placed shows route ticking)
    (nameable : state.Nameable)
    (saved : store.save (Ticking.host holder) state ticking = (.ok (), later)) :
    store.load (Ticking.host reader) later =
      (if StoreError.supportedVersion < state.version then .error (.unsupportedVersion state.version)
      else .ok state, later) := by
  rcases save_cases holder placed state with
    ⟨entries, other, saved', accepts, -, contains⟩ | ⟨-, error, other, failed, -⟩
  · cases saved.symm.trans saved'
    have stateMem : stateName ∈ fileNames := by decide
    have read := ((contains.read_cases reader stateMem).resolve_right
      fun not => not.1 accepts.state.1).2
    rw [← stateOf_toBytes nameable]
    exact load_of_read reader read
  · cases saved.symm.trans failed

end Store

/-- **What is kept is read back.** Each state of a store, each resource in it, each deployed resource,
subnet and network, each planned resource and plan, each description of a topology and each definition of
a network is read back from any arrangement of its fields: from its own document and a file that holds
it, from the array of its fields, and from the object of them in any order and among others. Tags are
read back in whatever order they are written. A state that is saved, which it is wherever the directory
can be made and takes it, is loaded again if its version is known, and refused with its version
otherwise. Times are those that can be written, and no file of the store is a link: were the backup a
link to the scratch file, the old state would be copied over the new one. -/
theorem documents_round_trip :
    ((∀ state : StoreState, state.Nameable → RoundTrips state.fields [] state) ∧
      (∀ stored : StoredResource, stored.createdAt.Nameable →
        RoundTrips stored.fields stored.omitted stored) ∧
      (∀ resource : DeployedResource, RoundTrips resource.fields [] resource) ∧
      (∀ subnet : DeployedSubnet, RoundTrips subnet.fields [] subnet) ∧
      (∀ network : DeployedNetwork, RoundTrips network.fields [] network) ∧
      (∀ resource : PlannedResource, RoundTrips resource.fields [] resource) ∧
      (∀ plan : Plan, RoundTrips plan.fields [] plan) ∧
      (∀ descriptor : Descriptor, RoundTrips descriptor.fields [] descriptor) ∧
      ∀ network : NetworkDefinition, RoundTrips network.fields [] network) ∧
    (∀ (α : Type) [Document α] (fields : List Json.Field) (omitted : List String) (value : α),
      RoundTrips fields omitted value →
        decode? (Json.tree (encode value)) = some value ∧ ofBytes? (toBytes value) = some value ∧
        decode? (Json.tree (.array (fields.map (·.document)))) = some value ∧
        ∀ written others, written.Perm (Json.members fields omitted ++ others) →
          (∀ other ∈ others, other.1 ∉ fields.map (·.name)) →
          decode? (Json.tree (.object written)) = some value) ∧
    (∀ (tags : Tags) (members : List (String × String)), members.Perm tags.toList →
      decode? (Json.tree (.object (members.map fun member => (member.1, .string member.2)))) =
        some tags) ∧
    ∀ (store : Store) (holder : String) (route : Route) (ticking : Ticking),
      store.Placed (fun _ => True) route ticking → ∀ state : StoreState, state.Nameable →
        (∀ opened, Ticking.disk.makeDirectories store.directory ticking = (.ok (), opened) →
          store.Accepts (opened.entries route) →
          ∃ later, store.save (Ticking.host holder) state ticking = (.ok (), later)) ∧
        ∀ later, store.save (Ticking.host holder) state ticking = (.ok (), later) →
          ∀ reader, store.load (Ticking.host reader) later =
            (if StoreError.supportedVersion < state.version then
              .error (.unsupportedVersion state.version) else .ok state, later) := by
  refine ⟨⟨fun _ => roundTrips_storeState, fun _ => roundTrips_storedResource,
    roundTrips_deployedResource, roundTrips_deployedSubnet, roundTrips_deployedNetwork,
    roundTrips_plannedResource, roundTrips_plan, roundTrips_descriptor, roundTrips_networkDefinition⟩,
    fun α _ fields omitted value trips => ?_, fun _ _ => decode?_of_perm,
    fun store holder route ticking placed state nameable => ⟨?_, ?_⟩⟩
  · exact ⟨trips.faithful, ofBytes?_toBytes trips.faithful, trips.array, fun _ _ => trips.object⟩
  · intro opened made accepts
    exact Store.exists_save holder placed made accepts state
  · intro later saved reader
    exact Store.load_of_save holder reader placed nameable saved

/-- A virtual network without subnets, made in the last second of the last year of four digits. -/
def bareNetwork : StoredResource where
  group := "rg"
  kind := .virtualNetwork
  name := "größe"
  resource := ⟨"/vnets/größe", "Microsoft.Network/virtualNetworks", "eastus", Tags.owned "lz"⟩
  createdAt := ⟨253402300799, 999999999⟩

/-- A virtual network is loaded whose subnets were not written, but not from a state of a later version. -/
theorem bare_network_round_trips :
    let state : StoreState := ⟨1, ⟨253402300799, 999999999⟩, [bareNetwork]⟩
    let beyond : StoreState := ⟨2, ⟨253402300799, 999999999⟩, [bareNetwork]⟩
    state.Nameable ∧ beyond.Nameable ∧
      Store.Placed ⟨"state"⟩ (fun _ => True) ["state"] depotMachine ∧
      Store.Accepts ⟨"state"⟩ (depotOpened.entries ["state"]) ∧
      RoundTrips bareNetwork.fields ["subnets"] bareNetwork ∧
      ofBytes? (toBytes bareNetwork) = some bareNetwork ∧
      (∃ later, Store.save ⟨"state"⟩ (Ticking.host "holder") state depotMachine = (.ok (), later) ∧
        Store.load ⟨"state"⟩ (Ticking.host "reader") later = (.ok state, later)) ∧
      ∃ later, Store.save ⟨"state"⟩ (Ticking.host "holder") beyond depotMachine = (.ok (), later) ∧
        Store.load ⟨"state"⟩ (Ticking.host "reader") later = (.error (.unsupportedVersion 2), later) := by
  intro state beyond
  have last : Instant.Nameable ⟨253402300799, 999999999⟩ :=
    Instant.nameable_of_bounds (by decide) (by decide) (by decide)
  have resources : ∀ stored ∈ [bareNetwork], stored.createdAt.Nameable := by
    intro stored member
    obtain rfl := List.mem_singleton.mp member
    exact last
  obtain ⟨⟨-, ofStored, -⟩, ofTrips, -, ofStore⟩ := documents_round_trip
  have trips := ofStored bareNetwork last
  have placed := depotMachine_placed
  have accepts := depotOpened_accepts
  obtain ⟨saves, loads⟩ := ofStore _ "holder" _ _ placed state ⟨last, resources⟩
  obtain ⟨later, saved⟩ := saves _ depotMachine_ready.made accepts
  obtain ⟨saves', refuses⟩ := ofStore _ "holder" _ _ placed beyond ⟨last, resources⟩
  obtain ⟨later', saved'⟩ := saves' _ depotMachine_ready.made accepts
  exact ⟨⟨last, resources⟩, ⟨last, resources⟩, placed, accepts, trips, (ofTrips _ _ _ _ trips).2.1,
    ⟨later, saved, loads later saved "reader"⟩, later', saved', refuses later' saved' "reader"⟩

end Provision
