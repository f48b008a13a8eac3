/-
**States that are read.**

A state file may have been written by anybody. What is read from it can be written again, and then it is
read as it was:

* `Document.nameable_of_stored` and `Document.nameable_of_state` read the times off a document;
* `Store.stateOf_push` — a state that was read, with one more resource, is read back;
* `Store.Offers` says which state a store has whose state file has given contents, and `Offers.alike` that
  there is one such state;
* `Store.Reads` says so of whatever stands under the name of the state file.
-/

import Provision.Proofs.Instant.Readings
import Provision.Proofs.Store.Changes

namespace Provision

namespace Document

theorem nameable_of_instant {tree : Json.Tree} {instant : Instant}
    (read : decode? tree = some instant) : instant.Nameable := by
  obtain ⟨text, -, spelled⟩ := Option.bind_eq_some_iff.mp read
  exact Instant.nameable_of_ofText? spelled

theorem exists_of_required? {α : Type} {fields : Json.Fields} {name : String}
    {read? : Json.Tree → Option α} {value : α} (read : fields.required? name read? = some value) :
    ∃ tree, read? tree = some value := by
  obtain ⟨tree, -, known⟩ := Option.bind_eq_some_iff.mp read
  exact ⟨tree, known⟩

/-- Whatever is in a list was read from a document of its own. -/
theorem exists_of_mem_mapM {α β : Type} {read? : α → Option β} {sources : List α} {values : List β}
    (read : sources.mapM read? = some values) :
    ∀ value ∈ values, ∃ source, read? source = some value := by
  induction sources generalizing values with
  | nil =>
      cases read
      exact fun _ member => nomatch member
  | cons source rest hyp =>
      rw [List.mapM_cons] at read
      obtain ⟨first, own, read⟩ := Option.bind_eq_some_iff.mp read
      obtain ⟨others, further, same⟩ := Option.bind_eq_some_iff.mp read
      cases same
      exact List.forall_mem_cons.mpr ⟨⟨source, own⟩, hyp further⟩

theorem nameable_of_stored {tree : Json.Tree} {stored : StoredResource}
    (read : decode? tree = some stored) : stored.createdAt.Nameable := by
  obtain ⟨fields, -, read⟩ := Option.bind_eq_some_iff.mp read
  simp only [Option.bind_eq_bind, Option.bind_eq_some_iff] at read
  obtain ⟨group, -, kind, -, name, -, resource, -, subnets, -, createdAt, created, same⟩ := read
  cases same
  obtain ⟨tree, known⟩ := exists_of_required? created
  exact nameable_of_instant known

/-- The times of a state that was read can be written. -/
theorem nameable_of_state {tree : Json.Tree} {state : StoreState}
    (read : decode? tree = some state) : state.Nameable := by
  obtain ⟨fields, -, read⟩ := Option.bind_eq_some_iff.mp read
  simp only [Option.bind_eq_bind, Option.bind_eq_some_iff] at read
  obtain ⟨version, -, updatedAt, updated, resources, listed, same⟩ := read
  cases same
  obtain ⟨tree, known⟩ := exists_of_required? updated
  obtain ⟨list, items⟩ := exists_of_required? listed
  refine ⟨nameable_of_instant known, ?_⟩
  intro stored member
  change Json.Tree.list? decode? list = some resources at items
  unfold Json.Tree.list? at items
  split at items
  · obtain ⟨tree, own⟩ := exists_of_mem_mapM items stored member
    exact nameable_of_stored own
  · cases items

end Document

namespace Store

theorem nameable_of_stateOf {bytes : Bytes} {state : StoreState} (read : stateOf bytes = .ok state) :
    state.Nameable ∧ ¬StoreError.supportedVersion < state.version := by
  unfold stateOf at read
  split at read
  · cases read
  next found document =>
    split at read
    · cases read
    next known =>
      obtain rfl := Except.ok.inj read
      obtain ⟨tree, -, decoded⟩ := Option.bind_eq_some_iff.mp document
      exact ⟨Document.nameable_of_state decoded, known⟩

/-- The state of a store whose state file has given contents, or is missing. -/
def Offers : Option Bytes → StoreState → Prop
  | none, state => ∃ now, state = .fresh now
  | some bytes, state => stateOf bytes = .ok state

/-- The state that is read from what stands under the name of the state file. -/
def Reads : Option Entry → StoreState → Prop
  | none, state => Offers none state
  | some (.file bytes _), state => Offers (some bytes) state
  | some .directory, _ | some (.link _), _ => False

theorem Reads.offers {entry : Option Entry} {state : StoreState} (reads : Reads entry state) :
    ∃ contents, Offers contents state := by
  match entry, reads with
  | none, offers => exact ⟨none, offers⟩
  | some (.file bytes _), offers => exact ⟨some bytes, offers⟩

theorem Reads.ne_directory {entry : Option Entry} {state : StoreState} (reads : Reads entry state) :
    entry ≠ some .directory := by
  rintro rfl
  exact reads

/-- A state file stands for one state; only the time of a state that is missing is open. -/
theorem Offers.alike {contents : Option Bytes} {state other : StoreState}
    (offers : Offers contents state) (offers' : Offers contents other) :
    state.version = other.version ∧ state.resources = other.resources := by
  cases contents with
  | none =>
      obtain ⟨now, rfl⟩ := offers
      obtain ⟨time, rfl⟩ := offers'
      exact ⟨rfl, rfl⟩
  | some bytes =>
      obtain rfl := Except.ok.inj (offers.symm.trans offers')
      exact ⟨rfl, rfl⟩

theorem Offers.push_eq {contents : Option Bytes} {state other : StoreState}
    (offers : Offers contents state) (offers' : Offers contents other) (stored : StoredResource)
    (now : Instant) : state.push stored now = other.push stored now := by
  obtain ⟨version, resources⟩ := offers.alike offers'
  rw [StoreState.push, StoreState.push, version, resources]

theorem Offers.find?_eq {contents : Option Bytes} {state other : StoreState}
    (offers : Offers contents state) (offers' : Offers contents other) (group : String)
    (kind : ResourceKind) (name : String) : state.find? group kind name = other.find? group kind name := by
  rw [StoreState.find?, StoreState.find?, (offers.alike offers').2]

/-- **A state with one more resource is read back.** -/
theorem stateOf_push {contents : Option Bytes} {state : StoreState} (offers : Offers contents state)
    {stored : StoredResource} {now : Instant} (created : stored.createdAt.Nameable)
    (nameable : now.Nameable) :
    stateOf (Document.toBytes (state.push stored now)) = .ok (state.push stored now) := by
  have sound : (∀ other ∈ state.resources, other.createdAt.Nameable) ∧
      ¬StoreError.supportedVersion < state.version := by
    cases contents with
    | none =>
        obtain ⟨time, rfl⟩ := offers
        exact ⟨fun _ member => (nomatch member), UInt32.lt_irrefl _⟩
    | some bytes =>
        obtain ⟨times, known⟩ := nameable_of_stateOf offers
        exact ⟨times.createdAt, known⟩
  have times : (state.push stored now).Nameable := by
    refine ⟨nameable, ?_⟩
    intro other member
    rcases List.mem_append.mp member with before | last
    · exact sound.1 other before
    · obtain rfl := List.mem_singleton.mp last
      exact created
  exact stateOf_toBytes_of_known times sound.2

end Store

end Provision
