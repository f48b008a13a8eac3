/-
**What a provider on a store answers.**

Every call to a provider that keeps its resources in a store is answered from the records that the
state file spells:

* `Store.create_of_taken` and `Store.create_of_vacant` create a resource;
* `Store.find_apply`, `Store.list_apply` and `Store.subnets_apply` look resources up.
-/

import Provision.Proofs.Store.Changes

namespace Provision

namespace StoreState

variable (state : StoreState)

theorem find?_records (group : String) (kind : ResourceKind) (name : String) :
    state.records.find? (Memory.Record.isAt group kind name) =
      (state.find? group kind name).map StoredResource.record := by
  rw [records, List.find?_map]
  rfl

theorem findId?_records (id : String) :
    state.records.find? (·.resource.id == id) =
      (state.findId? id).map StoredResource.record := by
  rw [records, List.find?_map]
  rfl

theorem filter_records (group : String) :
    state.records.filter (·.group == group) =
      (state.inGroup group).map StoredResource.record := by
  rw [records, List.filter_map]
  rfl

end StoreState

namespace Store

variable {store : Store} {route : Route} {records : List Memory.Record} {ticking : Ticking}
  {group : ResourceGroup} {definition : ResourceDefinition}

/-- Creating a resource that has a name is a change of the state. -/
theorem create_eq_change (holder : String) (tags : Tags)
    (named : Text.isBlank definition.name = false) :
    (store.provider (Ticking.host holder)).create group definition tags =
      store.change (Ticking.host holder) (StoreState.create group definition tags) := by
  show Store.create store (Ticking.host holder) group definition tags = _
  rw [Store.create, named]
  rfl

variable (holder : String) (fits : store.Fits) (remembers : store.Remembers route records ticking)
include fits remembers

/-- A name that is taken is refused, and the records stay. -/
theorem create_of_taken (tags : Tags) (named : Text.isBlank definition.name = false)
    {record : Memory.Record}
    (taken : records.find? (Memory.Record.isAt group.name definition.kind definition.name) =
      some record) :
    ∃ later, (store.provider (Ticking.host holder)).create group definition tags ticking =
        (.error (.alreadyExists (StoreState.takenText group definition)), later) ∧
      store.Remembers route records later := by
  obtain ⟨state, -, same, refused, -⟩ :=
    change_apply holder (StoreState.create group definition tags) fits remembers
  rw [← same, state.find?_records] at taken
  obtain ⟨stored, found, -⟩ := Option.map_eq_some_iff.mp taken
  obtain ⟨later, answer, kept⟩ := refused (.alreadyExists (StoreState.takenText group definition))
    (by rw [StoreState.create, found])
  exact ⟨later, (congrFun (create_eq_change holder tags named) ticking).trans answer, kept⟩

/-- A resource that has a name of its own is created, and its record comes last. -/
theorem create_of_vacant (tags : Tags) (named : Text.isBlank definition.name = false)
    (vacant : records.find? (Memory.Record.isAt group.name definition.kind definition.name) = none) :
    ∃ later, (store.provider (Ticking.host holder)).create group definition tags ticking =
        (.ok (Memory.Record.ofDefinition group definition tags).resource, later) ∧
      store.Remembers route (records ++ [.ofDefinition group definition tags]) later := by
  obtain ⟨state, sound, same, -, made⟩ :=
    change_apply holder (StoreState.create group definition tags) fits remembers
  rw [← same, state.find?_records] at vacant
  obtain ⟨created, updated, later, answer, kept⟩ := made _
    (StoreState.create_eq_ok_iff.mpr ⟨Option.map_eq_none_iff.mp vacant, rfl⟩)
    fun _ _ nameable nameable' => sound.push nameable nameable'
  rw [StoreState.records_push, same] at kept
  exact ⟨later, (congrFun (create_eq_change holder tags named) ticking).trans answer, kept⟩

theorem find_apply (group : ResourceGroup) (kind : ResourceKind) (name : String) :
    ∃ later, (store.provider (Ticking.host holder)).find group kind name ticking =
        (.ok ((records.find? (Memory.Record.isAt group.name kind name)).map (·.resource)), later) ∧
      store.Remembers route records later := by
  obtain ⟨state, later, same, answer, kept⟩ := ask_apply holder fits remembers
    fun state => .ok ((state.find? group.name kind name).map (·.resource))
  refine ⟨later, ?_, kept⟩
  rw [← same, state.find?_records, Option.map_map]
  exact answer

theorem list_apply (group : ResourceGroup) :
    ∃ later, (store.provider (Ticking.host holder)).list group ticking =
        (.ok ((records.filter (·.group == group.name)).map (·.resource)), later) ∧
      store.Remembers route records later := by
  obtain ⟨state, later, same, answer, kept⟩ := ask_apply holder fits remembers
    fun state => .ok ((state.inGroup group.name).map (·.resource))
  refine ⟨later, ?_, kept⟩
  rw [← same, state.filter_records, List.map_map]
  exact answer

theorem subnets_apply (network : String) :
    ∃ later, (store.provider (Ticking.host holder)).subnets network ticking =
        (match records.find? (·.resource.id == network) with
          | some record => .ok (.ofNames network record.subnets)
          | none => .error (.notFound network), later) ∧
      store.Remembers route records later := by
  obtain ⟨state, later, same, answer, kept⟩ := ask_apply holder fits remembers
    fun state => state.subnets network
  refine ⟨later, ?_, kept⟩
  have stored : (store.provider (Ticking.host holder)).subnets network ticking = _ := answer
  rw [stored, ← same, state.findId?_records, StoreState.subnets]
  cases state.findId? network <;> rfl

end Store

end Provision
