/-
**Calls that fail.**

A call that creates a resource may fail at any of its steps, with the lock held or not. Whatever the files
of the store are when it starts:

* `Store.acquire_cases`, `load_cases`, `update_cases` and `change_cases`: each step is made as a whole, or
  nothing has changed but the scratch file and a lock that is gone;
* `Store.Gains` says what a creation makes of a state file;
* **`failed_creations_change_nothing`** puts this together;
* `missing_state_becomes_directory`: the one way in which a call that fails changes a state file.
-/

import Provision.Proofs.Store.Rotation
import Provision.Proofs.Store.Staleness
import Provision.Proofs.Store.States

namespace Provision

open FileTree

namespace Store

variable {store : Store} {shows : Instant → Prop} {route : Route} {entries : String → Option Entry}
  {ticking : Ticking} (holder : String)

/-- **The lock is taken, or nothing has changed** since the directory was made. -/
theorem acquire_cases (placed : store.Placed shows route ticking) :
    (∃ entries bytes modified later,
        store.acquire (Ticking.host holder) ticking = (.ok ⟨store.lockPath⟩, later) ∧
        FileTree.Fits store.directory lockName ∧ store.Contains shows route entries later ∧
        entries lockName = some (.file bytes modified) ∧
        ∀ name, name ≠ lockName → store.Leaves route ticking name (entries name)) ∨
      ∃ error later, store.acquire (Ticking.host holder) ticking = (.error error, later) ∧
        ∀ name, store.Leaves route ticking name (later.entries route name) := by
  rcases placed.makeDirectories_cases with
    ⟨entries, tree, made, contains, leaves⟩ | ⟨error, tree, failed, leaves⟩
  · rcases clearLock_cases holder contains with
      ⟨fits, middle, clear, cleared⟩ | ⟨error, later, refused, contains⟩
    · obtain ⟨now, modified, later, -, written, contains⟩ :=
        writeLock_apply holder cleared fits (Function.update_self _ _ _)
      refine .inl ⟨_, _, modified, later, acquire_of_clear holder made clear written, fits, contains,
        Function.update_self _ _ _, fun name apart => ?_⟩
      rw [Function.update_of_ne apart, Function.update_of_ne apart]
      exact leaves name
    · refine .inr ⟨error, later, acquire_of_refused holder made refused, ?_⟩
      rw [contains.entries_eq]
      exact leaves
  · exact .inr ⟨.file error, _, error_bind_apply (step_apply_error failed) _, leaves⟩

/-- **A state is read, or nothing has changed.** -/
theorem load_cases (contains : store.Contains shows route entries ticking) :
    (∃ state later, store.load (Ticking.host holder) ticking = (.ok state, later) ∧
        Reads (entries stateName) state ∧ store.Contains shows route entries later) ∨
      ∃ error later, store.load (Ticking.host holder) ticking = (.error error, later) ∧
        store.Contains shows route entries later := by
  have failing {error : FileError} (different : error ≠ .notFound)
      (read : (Ticking.host holder).disk.read store.statePath ticking = (.error error, ticking)) :
      store.load (Ticking.host holder) ticking = (.error (.file error), ticking) := by
    unfold load
    rw [bind_apply, read]
    cases error <;> first | rfl | exact absurd rfl different
  have stateMem : stateName ∈ fileNames := by decide
  rcases contains.read_cases holder stateMem with ⟨-, read⟩ | ⟨-, failed⟩
  · match known : entries stateName with
    | none =>
        obtain ⟨later, clock, -, waiting⟩ := contains.now_apply holder
        rw [known] at read
        exact .inl ⟨_, later, load_fresh holder read clock, ⟨_, rfl⟩, waiting⟩
    | some (.file bytes modified) =>
        rw [known] at read
        have loaded : store.load (Ticking.host holder) ticking = (stateOf bytes, ticking) :=
          load_of_read holder read
        cases spelled : stateOf bytes with
        | error error => exact .inr ⟨error, ticking, spelled ▸ loaded, contains⟩
        | ok state => exact .inl ⟨state, ticking, spelled ▸ loaded, spelled, contains⟩
    | some .directory =>
        rw [known] at read
        exact .inr ⟨_, ticking, failing (by decide) read, contains⟩
    | some (.link target) => exact absurd known (contains.noLink stateName stateMem target)
  · exact .inr ⟨_, ticking, failing (by decide) failed, contains⟩

theorem save_of_leads (leads : store.Leads route ticking) (state : StoreState) :
    store.save (Ticking.host holder) state ticking =
      store.replaceState (Ticking.host holder) state ticking :=
  ok_bind_apply (step_apply leads.makeDirectories_apply) _

section Changes

variable {α : Type} (edit : StoreState.Edit α)

theorem toCloud_apply_error {operation : StateM Ticking (Except StoreError α)} {later : Ticking}
    {error : StoreError} (answer : operation ticking = (.error error, later)) :
    toCloud operation ticking = (.error error.toCloud, later) := by
  show (operation >>= _) ticking = _
  rw [bind_apply, answer]
  rfl

/-- **A change is saved, or nothing has changed but the scratch file.** -/
theorem update_cases (contains : store.Contains shows route entries ticking)
    (fits : FileTree.Fits store.directory lockName) :
    (∃ state change created updated stamp later,
        store.update (Ticking.host holder) edit ticking = (.ok (change created updated).1, later) ∧
        Reads (entries stateName) state ∧ edit state = .ok change ∧ shows created ∧ shows updated ∧
        store.Contains shows route
          (rotated entries (Document.toBytes (change created updated).2) stamp) later) ∨
      ∃ error after later,
        store.update (Ticking.host holder) edit ticking = (.error error, later) ∧
        store.Contains shows route after later ∧
        ∀ name, name ≠ scratchName → after name = entries name := by
  rcases load_cases holder contains with
    ⟨state, loaded, load, reads, contains⟩ | ⟨error, later, failed, contains⟩
  rotate_left
  · exact .inr ⟨_, entries, later, error_bind_apply (toCloud_apply_error failed) _, contains,
      fun _ _ => rfl⟩
  cases outcome : edit state with
  | error error =>
      exact .inr ⟨error, entries, loaded, update_of_refused holder load outcome, contains,
        fun _ _ => rfl⟩
  | ok change =>
      obtain ⟨first, clock, shown, contains⟩ := contains.now_apply holder
      obtain ⟨second, clock', shown', contains⟩ := contains.now_apply holder
      have start : store.update (Ticking.host holder) edit ticking =
          (do toCloud (store.save (Ticking.host holder)
                (change (loaded.readings 0) (first.readings 0)).2)
              pure (change (loaded.readings 0) (first.readings 0)).1 :
            ExceptT CloudError (StateM Ticking) α) second := by
        unfold update
        rw [ok_bind_apply (toCloud_apply load)]
        refine (ok_bind_apply (congrArg (·, loaded) outcome) _).trans ?_
        exact (lift_bind_apply clock _).trans (lift_bind_apply clock' _)
      have leads := contains.leads fits
      by_cases accepts : store.Accepts entries
      · obtain ⟨later, saved, contains⟩ := replaceState_of_accepts holder contains _ accepts
        refine .inl ⟨state, change, _, _, _, later, ?_, reads, outcome, shown, shown', contains⟩
        refine start.trans ?_
        exact ok_bind_apply (toCloud_apply ((save_of_leads holder leads _).trans saved)) _
      · obtain ⟨error, after, later, failed, contains, spared⟩ :=
          replaceState_of_not_accepts holder contains _ accepts
        refine .inr ⟨error.toCloud, after, later, start.trans ?_, contains, spared⟩
        exact error_bind_apply (toCloud_apply_error ((save_of_leads holder leads _).trans failed)) _

theorem change_of_locked {later : Ticking} {error : StoreError}
    (refused : store.acquire (Ticking.host holder) ticking = (.error error, later)) :
    store.change (Ticking.host holder) edit ticking = (.error error.toCloud, later) := by
  show (store.acquire (Ticking.host holder) >>= _ : StateM Ticking _) ticking = _
  rw [bind_apply, refused]
  rfl

/-- **A change under the lock** is saved and the lock is gone, or nothing has changed since the directory
was made but the scratch file and a lock that is gone. -/
theorem change_cases (placed : store.Placed shows route ticking) :
    (∃ state change created updated written later,
        store.change (Ticking.host holder) edit ticking = (.ok (change created updated).1, later) ∧
        Reads (ticking.entries route stateName) state ∧ edit state = .ok change ∧
        shows created ∧ shows updated ∧
        later.entries route stateName =
          some (.file (Document.toBytes (change created updated).2) written) ∧
        later.entries route lockName = none) ∨
      ∃ error later, store.change (Ticking.host holder) edit ticking = (.error error, later) ∧
        (∀ name, name ≠ scratchName → name ≠ lockName →
          store.Leaves route ticking name (later.entries route name)) ∧
        (later.entries route lockName = none ∨
          store.Leaves route ticking lockName (later.entries route lockName)) := by
  rcases acquire_cases holder placed with
    ⟨entries, bytes, modified, locked, acquire, fits, contains, held, leaves⟩ |
      ⟨error, later, refused, leaves⟩
  rotate_left
  · exact .inr ⟨_, later, change_of_locked holder edit refused, fun name _ _ => leaves name,
      .inr (leaves lockName)⟩
  rcases update_cases holder edit contains fits with
    ⟨state, change, created, updated, stamp, middle, update, reads, outcome, shown, shown', contains⟩ |
      ⟨error, after, middle, update, contains, spared⟩
  · have kept : rotated entries (Document.toBytes (change created updated).2) stamp lockName =
        some (.file bytes modified) := held
    obtain ⟨later, clear, contains⟩ := clear_lock_apply holder contains fits kept
    refine .inl ⟨state, change, created, updated, stamp, later,
      change_of_made holder acquire update clear, ?_, outcome, shown, shown', ?_, ?_⟩
    · rw [← (leaves stateName (by decide)).eq_of_ne_directory reads.ne_directory]
      exact reads
    · rw [contains.entries_eq, Function.update_of_ne (by decide)]
      rfl
    · rw [contains.entries_eq, Function.update_self]
  · have kept : after lockName = some (.file bytes modified) := (spared lockName (by decide)).trans held
    obtain ⟨later, clear, contains⟩ := clear_lock_apply holder contains fits kept
    have given : Lock.abandon ⟨store.lockPath⟩ (Ticking.host holder) middle = ((), later) := by
      show ((Ticking.host holder).clear store.lockPath >>= _ : StateM Ticking _) middle = _
      rw [bind_apply, clear]
      rfl
    refine .inr ⟨error, later, change_of_refused holder acquire update given,
      fun name apart apart' => ?_, .inl ?_⟩
    · rw [contains.entries_eq, Function.update_of_ne apart', spared name apart]
      exact leaves name apart'
    · rw [contains.entries_eq, Function.update_self]

end Changes

/-! ### Creating a resource -/

/-- The state file spells the state that was read before, with one more resource at the end. -/
def Gains (before after : Option Entry) (stored : StoredResource) : Prop :=
  ∃ old new bytes written, Reads before old ∧ after = some (.file bytes written) ∧
    stateOf bytes = .ok new ∧ new.version = old.version ∧ new.resources = old.resources ++ [stored]

/-- A state that is read with one more resource is appended to. -/
theorem gains_push {before after : Option Entry} {state : StoreState} (reads : Reads before state)
    {stored : StoredResource} {updated written : Instant} (created : stored.createdAt.Nameable)
    (nameable : updated.Nameable)
    (saved : after = some (.file (Document.toBytes (state.push stored updated)) written)) :
    Gains before after stored := by
  obtain ⟨contents, offers⟩ := reads.offers
  exact ⟨state, _, _, written, reads, saved, stateOf_push offers created nameable, rfl, rfl⟩

end Store

/-- **A creation that fails changes nothing that matters.** Whatever the files of a store are, as long as
they are no links, and whatever its directory is: a call that fails leaves the state file and the backup
as they were. A call that succeeds has appended one resource, which it answers, to the state that was
there, and the lock is gone. The lock file is gone or as it was in any case. Where the state file cannot
be read, or is of a version that is not known yet, the call fails. Only a file that was missing, and
through which the path of the directory runs, is a directory afterwards. -/
theorem failed_creations_change_nothing (store : Store) (holder : String) (route : Route)
    (ticking : Ticking) (placed : store.Placed Instant.Nameable route ticking) (group : ResourceGroup)
    (definition : ResourceDefinition) (tags : Tags) (answer : Answer DeployedResource) (later : Ticking)
    (outcome : (store.provider (Ticking.host holder)).create group definition tags ticking =
      (answer, later)) :
    (∀ error, answer = .error error →
      store.Leaves route ticking Store.stateName (later.entries route Store.stateName) ∧
        store.Leaves route ticking Store.backupName (later.entries route Store.backupName)) ∧
    (∀ resource, answer = .ok resource →
      (∃ now, resource = (StoredResource.ofDefinition group definition tags now).resource ∧
        Store.Gains (ticking.entries route Store.stateName) (later.entries route Store.stateName)
          (.ofDefinition group definition tags now)) ∧
      later.entries route Store.lockName = none) ∧
    (later.entries route Store.lockName = none ∨
      store.Leaves route ticking Store.lockName (later.entries route Store.lockName)) ∧
    ∀ bytes modified error, ticking.entries route Store.stateName = some (.file bytes modified) →
      Store.stateOf bytes = .error error → ∃ failure, answer = .error failure := by
  cases named : Text.isBlank definition.name with
  | true =>
    have refused : (store.provider (Ticking.host holder)).create group definition tags ticking =
        (.error (.invalidDefinition (definition.kind.type ++ " without a name")), ticking) := by
      show store.create (Ticking.host holder) group definition tags ticking = _
      rw [Store.create, named]
      rfl
    cases refused.symm.trans outcome
    refine ⟨fun _ _ => ⟨.inl rfl, .inl rfl⟩, fun resource same => ?_, .inr (.inl rfl),
      fun _ _ _ _ _ => ⟨_, rfl⟩⟩
    cases same
  | false =>
  have called : (store.provider (Ticking.host holder)).create group definition tags ticking =
      store.change (Ticking.host holder) (StoreState.create group definition tags) ticking :=
    congrFun (Store.create_eq_change holder tags named) ticking
  rcases Store.change_cases holder (StoreState.create group definition tags) placed with
    ⟨state, change, created, updated, written, last, done, reads, made, nameable, nameable', saved, free⟩ |
      ⟨error, last, failed, leaves, lock⟩
  · cases (called.trans done).symm.trans outcome
    obtain ⟨-, rfl⟩ := StoreState.create_eq_ok_iff.mp made
    refine ⟨fun error same => ?_, fun resource same => ⟨⟨created, ?_, ?_⟩, free⟩, .inl free, ?_⟩
    · cases same
    · exact (Except.ok.inj same).symm
    · exact Store.gains_push reads nameable nameable' saved
    · intro bytes modified error known unread
      rw [known] at reads
      cases unread.symm.trans reads
  · cases (called.trans failed).symm.trans outcome
    refine ⟨fun _ _ => ⟨?_, ?_⟩, fun resource made => ?_, lock, fun _ _ _ _ _ => ⟨error, rfl⟩⟩
    · exact leaves Store.stateName (by decide) (by decide)
    · exact leaves Store.backupName (by decide) (by decide)
    · cases made

/-- A storage account is created in a directory that is missing, and nothing is in one whose state is of
the version after the last one that is known. -/
theorem depots_are_created_or_left_alone :
    let bytes := Document.toBytes (StoreState.mk 2 ⟨0, 0⟩ [])
    let later := depotWith Store.stateName bytes ⟨0, 0⟩
    let provider := Store.provider ⟨"state"⟩ (Ticking.host "holder")
    (Store.Placed ⟨"state"⟩ Instant.Nameable ["state"] depotMachine ∧
      ∃ now made, provider.create ⟨"rg", "eastus", "sub"⟩ depot ∅ depotMachine =
          (.ok (StoredResource.ofDefinition ⟨"rg", "eastus", "sub"⟩ depot ∅ now).resource, made) ∧
        Store.Gains none (made.entries ["state"] Store.stateName)
          (.ofDefinition ⟨"rg", "eastus", "sub"⟩ depot ∅ now) ∧
        made.entries ["state"] Store.lockName = none) ∧
    Store.Placed ⟨"state"⟩ Instant.Nameable ["state"] later ∧
      later.entries ["state"] Store.stateName = some (.file bytes ⟨0, 0⟩) ∧
      Store.stateOf bytes = .error (.unsupportedVersion 2) ∧
      ∃ failure refused, provider.create ⟨"rg", "eastus", "sub"⟩ depot ∅ later =
          (.error failure, refused) ∧
        refused.entries ["state"] Store.stateName = some (.file bytes ⟨0, 0⟩) ∧
        refused.entries ["state"] Store.backupName = none := by
  intro bytes later provider
  constructor
  · have ready := depotMachine_ready
    have placed := Store.Placed.of_ready ready
    obtain ⟨made, outcome, -⟩ : ∃ made, provider.create ⟨"rg", "eastus", "sub"⟩ depot ∅ depotMachine =
        (.ok _, made) ∧ _ :=
      Store.create_of_vacant "holder" ready.fits ready.mirrors.remembers ∅ (by decide) rfl
    obtain ⟨-, gains, -⟩ := failed_creations_change_nothing ⟨"state"⟩ "holder" ["state"] depotMachine
      placed ⟨"rg", "eastus", "sub"⟩ depot ∅ _ made outcome
    obtain ⟨⟨now, same, gains⟩, free⟩ := gains _ rfl
    exact ⟨placed, now, made, same ▸ outcome, gains, free⟩
  have contains := depotWith_contains Store.stateName bytes ⟨0, 0⟩
  have placed := depotWith_placed Store.stateName bytes ⟨0, 0⟩
  have apart := (depotWith_leads Store.stateName bytes ⟨0, 0⟩).not_runsThrough
  have known : later.entries ["state"] Store.stateName = some (.file bytes ⟨0, 0⟩) := by
    rw [contains.entries_eq, Function.update_self]
  have free : later.entries ["state"] Store.backupName = none := by
    rw [contains.entries_eq, Function.update_of_ne (by decide)]
  have nameable : (StoreState.mk 2 ⟨0, 0⟩ []).Nameable :=
    ⟨⟨.inl (by decide), by decide⟩, fun _ => nofun⟩
  have unread : Store.stateOf bytes = .error (.unsupportedVersion 2) := by
    rw [Store.stateOf_toBytes nameable]
    rfl
  rcases outcome : provider.create ⟨"rg", "eastus", "sub"⟩ depot ∅ later with ⟨answer, refused⟩
  obtain ⟨spared, -, -, fails⟩ := failed_creations_change_nothing ⟨"state"⟩ "holder" ["state"] later placed
    ⟨"rg", "eastus", "sub"⟩ depot ∅ answer refused outcome
  obtain ⟨failure, rfl⟩ := fails bytes ⟨0, 0⟩ _ known unread
  obtain ⟨leaves, leaves'⟩ := spared failure rfl
  exact ⟨placed, known, unread, failure, refused, rfl, (leaves.eq (apart _)).trans known,
    (leaves'.eq (apart _)).trans free⟩

/-- A store whose directory is reached through its own state file. -/
def roundabout : Store := ⟨"resources.json/.."⟩

/-- **A missing state file becomes a directory** where the path of the directory runs through it: the call
that is to create a resource makes it, finds a directory in the place of the state, and fails. -/
theorem missing_state_becomes_directory :
    roundabout.Placed Instant.Nameable [] depotMachine ∧
      depotMachine.entries [] Store.stateName = none ∧
      ∃ later, (roundabout.provider (Ticking.host "holder")).create ⟨"rg", "eastus", "sub"⟩ depot ∅
          depotMachine = (.error (.file .isDirectory), later) ∧
        later.entries [] Store.stateName = some .directory := by
  refine ⟨⟨fun opened made => ?_, fun name _ target => ?_, depotMachine_ready.timely⟩, rfl,
    ((roundabout.provider (Ticking.host "holder")).create ⟨"rg", "eastus", "sub"⟩ depot ∅
      depotMachine).2, rfl, rfl⟩
  · obtain rfl : (Ticking.disk.makeDirectories roundabout.directory depotMachine).2 = opened :=
      congrArg Prod.snd made
    exact .inr rfl
  · have vacant : depotMachine.entries [] name = none := Std.ExtTreeMap.getElem?_empty
    rw [vacant]
    exact nofun

end Provision
