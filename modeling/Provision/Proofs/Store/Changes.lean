/-
**Using a store.**

A store whose directory nobody else touches is always there for its user. What its state file spells is
read, changed and written again, and the lock is given back:

* `Store.stateOf_toBytes`: a state that was written is read again, if its version is known;
* `StoreState.Sound` holds of the states that a store writes for itself, and
  `StoreState.create_eq_ok_iff` says which resources are added to them;
* `Store.Spells` says which records a state file stands for;
* `Store.load_apply`, `Store.save_apply` and `Store.acquire_apply` are the steps;
* `Store.Remembers` is what holds between calls: `Store.ask_apply` answers a question from it, and
  `Store.change_apply` says what a change makes of it.
-/

import Provision.Proofs.Documents
import Provision.Proofs.Store.Desk
import Provision.Provider.Memory
import Provision.Store.Provider

namespace Provision

open FileTree

/-! ### Names of files -/

namespace Store

/-- The name of the file with the state. -/
def stateName : String := "resources.json"

/-- The name of the file with the state before the last one. -/
def backupName : String := "resources.json.backup"

/-- The name of the file in which a new state is written. -/
def scratchName : String := "resources.json.tmp"

/-- The name of the file that stands for the lock. -/
def lockName : String := "lock.json"

/-- The names of the files of a store. -/
def fileNames : List String := [stateName, backupName, scratchName, lockName]

theorem backup_mem : backupName ∈ fileNames := by decide

theorem isFileName {name : String} (member : name ∈ fileNames) : IsFileName name := by
  have every : ∀ name ∈ fileNames, name ≠ "" ∧ name ≠ "." ∧ name ≠ ".." ∧
      name.utf8ByteSize ≤ maximumName ∧ '/' ∉ name.toList ∧ '\x00' ∉ name.toList := by decide
  obtain ⟨nonempty, noDot, noDots, short, noSlash, noNul⟩ := every name member
  exact { nonempty, noDot, noDots, short, noSlash, noNul }

theorem size_le_backupName {name : String} (member : name ∈ fileNames) :
    name.utf8ByteSize ≤ backupName.utf8ByteSize := by
  have every : ∀ name ∈ fileNames, name.utf8ByteSize ≤ backupName.utf8ByteSize := by decide
  exact every name member

/-- A store whose files can all be reached: the longest of their paths is not too long. -/
def Fits (store : Store) : Prop := store.backupPath.utf8ByteSize ≤ maximumPath

variable {store : Store}

theorem Fits.file (fits : store.Fits) (name : String) (member : name ∈ fileNames) :
    FileTree.Fits store.directory name where
  named := isFileName member
  short := Nat.le_trans (Path.size_join_le (isFileName member).toIsPlain
    (isFileName backup_mem).toIsPlain (size_le_backupName member) store.directory) fits

theorem Fits.directory (fits : store.Fits) : store.directory.utf8ByteSize ≤ maximumPath :=
  Nat.le_trans (Path.size_le_join (isFileName backup_mem).toIsPlain store.directory) fits

end Store

/-! ### States -/

/-- The record of a resource, which does not say when it was created. -/
def StoredResource.record (stored : StoredResource) : Memory.Record where
  group := stored.group
  kind := stored.kind
  name := stored.name
  resource := stored.resource
  subnets := stored.subnets

namespace StoreState

/-- A state of the known version whose times can be written. -/
structure Sound (state : StoreState) : Prop extends state.Nameable where
  version : state.version = StoreError.supportedVersion

/-- The records of the resources, in the order of their creation. -/
def records (state : StoreState) : List Memory.Record := state.resources.map StoredResource.record

theorem sound_fresh {now : Instant} (nameable : now.Nameable) : (fresh now).Sound where
  updatedAt := nameable
  createdAt := fun _ member => (nomatch member)
  version := rfl

theorem Sound.push {state : StoreState} (sound : state.Sound) {stored : StoredResource}
    {now : Instant} (created : stored.createdAt.Nameable) (nameable : now.Nameable) :
    (state.push stored now).Sound where
  updatedAt := nameable
  createdAt := fun other member => by
    rcases List.mem_append.mp member with before | last
    · exact sound.createdAt other before
    · rw [List.mem_singleton.mp last]
      exact created
  version := sound.version

theorem records_push (state : StoreState) (stored : StoredResource) (now : Instant) :
    (state.push stored now).records = state.records ++ [stored.record] :=
  List.map_append

/-- **A resource is created where there is none of its name**, and is added at the end. -/
theorem create_eq_ok_iff {group : ResourceGroup} {definition : ResourceDefinition} {tags : Tags}
    {state : StoreState} {change : Instant → Instant → DeployedResource × StoreState} :
    create group definition tags state = .ok change ↔
      state.find? group.name definition.kind definition.name = none ∧
        change = fun created updated =>
          ((StoredResource.ofDefinition group definition tags created).resource,
            state.push (.ofDefinition group definition tags created) updated) := by
  unfold create
  cases state.find? group.name definition.kind definition.name with
  | some stored => exact ⟨fun refused => (nomatch refused), fun made => (nomatch made.1)⟩
  | none => exact ⟨fun made => ⟨rfl, (Except.ok.inj made).symm⟩, fun made => congrArg _ made.2.symm⟩

end StoreState

namespace Store

/-- **A state that was written is read again**, if its version is known. -/
theorem stateOf_toBytes {state : StoreState} (nameable : state.Nameable) :
    stateOf (Document.toBytes state) =
      if StoreError.supportedVersion < state.version then .error (.unsupportedVersion state.version)
      else .ok state := by
  unfold stateOf
  rw [Document.ofBytes?_toBytes (Document.faithful_storeState nameable)]

theorem stateOf_toBytes_of_known {state : StoreState} (nameable : state.Nameable)
    (known : ¬StoreError.supportedVersion < state.version) :
    stateOf (Document.toBytes state) = .ok state := by
  rw [stateOf_toBytes nameable, if_neg known]

/-- Whether a state file stands for records; one that is missing stands for none. -/
def Spells (records : List Memory.Record) : Option Bytes → Prop
  | none => records = []
  | some bytes => ∃ state, stateOf bytes = .ok state ∧ state.Sound ∧ state.records = records

theorem spells_toBytes {state : StoreState} (sound : state.Sound) :
    Spells state.records (some (Document.toBytes state)) :=
  have known : ¬StoreError.supportedVersion < state.version := by
    rw [sound.version]
    exact UInt32.lt_irrefl _
  ⟨state, stateOf_toBytes_of_known sound.toNameable known, sound, rfl⟩

/-! ### Steps -/

section Steps

variable {store : Store} {route : Route} {contents : String → Option Bytes} {ticking : Ticking}
  (holder : String)

/-- Where there is no state file, the state has no resources. -/
theorem load_fresh {middle later : Ticking} {now : Instant}
    (missing : (Ticking.host holder).disk.read store.statePath ticking = (.error .notFound, middle))
    (read : (Ticking.host holder).now middle = (now, later)) :
    store.load (Ticking.host holder) ticking = (.ok (.fresh now), later) := by
  show ((Ticking.host holder).disk.read store.statePath >>= _) ticking = _
  rw [bind_apply, missing]
  show ((Ticking.host holder).now >>= _) middle = _
  rw [bind_apply, read]
  rfl

/-- What the state file spells is the state. -/
theorem load_of_read {later : Ticking} {bytes : Bytes}
    (read : (Ticking.host holder).disk.read store.statePath ticking = (.ok bytes, later)) :
    store.load (Ticking.host holder) ticking = (stateOf bytes, later) := by
  show ((Ticking.host holder).disk.read store.statePath >>= _) ticking = _
  rw [bind_apply, read]
  rfl

/-- **A store reads the state that was written last.** -/
theorem load_apply (fits : store.Fits) (desk : Desk store route contents ticking)
    {records : List Memory.Record} (spells : Spells records (contents stateName)) :
    ∃ state later, store.load (Ticking.host holder) ticking = (.ok state, later) ∧
      Desk store route contents later ∧ state.Sound ∧ state.records = records := by
  have answer := desk.read_apply holder (fits.file stateName (by decide))
  cases known : contents stateName with
  | none =>
      obtain ⟨now, later, same, nameable, desk⟩ := desk.now_apply holder
      rw [known] at answer spells
      exact ⟨.fresh now, later, load_fresh holder answer same, desk,
        StoreState.sound_fresh nameable, spells.symm⟩
  | some bytes =>
      rw [known] at answer spells
      obtain ⟨state, read, sound, same⟩ := spells
      refine ⟨state, ticking, ?_, desk, sound, same⟩
      rw [load_of_read holder answer, read]

/-- A lock that is free need not be cleared. -/
theorem clearLock_of_free (fits : store.Fits) (desk : Desk store route contents ticking)
    (free : contents lockName = none) :
    store.clearLock (Ticking.host holder) ticking = (.ok (), ticking) := by
  have answer := desk.read_apply holder (fits.file lockName (by decide))
  rw [free] at answer
  show ((Ticking.host holder).disk.read (Path.join store.directory lockName) >>= _) ticking = _
  rw [bind_apply, answer]
  rfl

/-- Once no lock file is in the way, the lock is taken. -/
theorem acquire_of_cleared (fits : store.Fits) {opened cleared : Ticking}
    (made : (Ticking.host holder).disk.makeDirectories store.directory ticking = (.ok (), opened))
    (clear : store.clearLock (Ticking.host holder) opened = (.ok (), cleared))
    (desk : Desk store route contents cleared) (free : contents lockName = none) :
    ∃ later bytes, store.acquire (Ticking.host holder) ticking = (.ok ⟨store.lockPath⟩, later) ∧
      Desk store route (Function.update contents lockName (some bytes)) later := by
  have clear : ExceptT.mk (store.clearLock (Ticking.host holder)) opened = (.ok (), cleared) := clear
  obtain ⟨now, middle, same, -, desk⟩ := desk.now_apply holder
  obtain ⟨later, created, desk⟩ := desk.create_apply holder (fits.file lockName (by decide)) free
    (Document.toBytes (LockInfo.mk holder now))
  have written : store.writeLock (Ticking.host holder) cleared = (.ok ⟨store.lockPath⟩, later) := by
    show ((Ticking.host holder).now >>= _) cleared = _
    rw [bind_apply, same]
    show ((Ticking.host holder).disk.create (Path.join store.directory lockName)
      (Document.toBytes (LockInfo.mk holder now)) >>= _) middle = _
    rw [bind_apply, created]
    rfl
  refine ⟨later, _, ?_, desk⟩
  unfold acquire
  rw [ok_bind_apply (step_apply made), ok_bind_apply clear]
  exact written

/-- **A store whose lock is free is locked**, once its directory has been made. -/
theorem acquire_apply (fits : store.Fits) {opened : Ticking}
    (made : (Ticking.host holder).disk.makeDirectories store.directory ticking = (.ok (), opened))
    (desk : Desk store route contents opened) (free : contents lockName = none) :
    ∃ later bytes, store.acquire (Ticking.host holder) ticking = (.ok ⟨store.lockPath⟩, later) ∧
      Desk store route (Function.update contents lockName (some bytes)) later :=
  acquire_of_cleared holder fits made (clearLock_of_free holder fits desk free) desk free

/-- **A store replaces its state.** -/
theorem save_apply (fits : store.Fits) (desk : Desk store route contents ticking)
    (state : StoreState) :
    ∃ later after, store.save (Ticking.host holder) state ticking = (.ok (), later) ∧
      Desk store route after later ∧ after stateName = some (Document.toBytes state) ∧
        after lockName = contents lockName := by
  have stateFits := fits.file stateName (by decide)
  have backupFits := fits.file backupName (by decide)
  have scratchFits := fits.file scratchName (by decide)
  have made := desk.makeDirectories_apply holder fits.directory
  obtain ⟨written, write, desk⟩ := desk.write_apply holder scratchFits (Document.toBytes state)
  have exist := desk.exists?_apply holder stateFits
  have apart : stateName ≠ scratchName := by decide
  rw [Function.update_of_ne apart] at exist
  unfold save
  cases known : contents stateName with
  | none =>
      rw [known] at exist
      obtain ⟨later, rename, desk⟩ := desk.rename_apply holder scratchFits stateFits
        (Function.update_self _ _ _)
      refine ⟨later, _, ?_, desk, Function.update_self _ _ _, ?_⟩
      · rw [ok_bind_apply (step_apply made)]
        refine (ok_bind_apply (step_apply write) _).trans ?_
        refine (ok_bind_apply (step_apply exist) _).trans ?_
        exact step_apply rename
      · simp [Function.update, lockName, stateName, scratchName]
  | some bytes =>
      rw [known] at exist
      obtain ⟨copied, copy, desk⟩ := desk.copy_apply holder stateFits backupFits (by decide)
        ((Function.update_of_ne apart _ _).trans known)
      obtain ⟨later, rename, desk⟩ := desk.rename_apply holder scratchFits stateFits
        ((Function.update_of_ne (by decide) _ _).trans (Function.update_self _ _ _))
      refine ⟨later, _, ?_, desk, Function.update_self _ _ _, ?_⟩
      · rw [ok_bind_apply (step_apply made)]
        refine (ok_bind_apply (step_apply write) _).trans ?_
        refine (ok_bind_apply (step_apply exist) _).trans ?_
        refine (ok_bind_apply (step_apply copy) _).trans ?_
        exact step_apply rename
      · simp [Function.update, lockName, stateName, scratchName, backupName]

/-- **A lock that is held is given back.** -/
theorem clear_apply (fits : store.Fits) (desk : Desk store route contents ticking) {bytes : Bytes}
    (held : contents lockName = some bytes) :
    ∃ later, (Ticking.host holder).clear store.lockPath ticking = (.ok (), later) ∧
      Desk store route (Function.update contents lockName none) later := by
  obtain ⟨later, removed, desk⟩ := desk.remove_apply holder (fits.file lockName (by decide))
    held
  refine ⟨later, ?_, desk⟩
  show ((Ticking.host holder).disk.remove (Path.join store.directory lockName) >>= _) ticking = _
  rw [bind_apply, removed]
  rfl

/-- A step of a store that succeeds is one of a call that succeeds. -/
theorem toCloud_apply {σ α : Type} {operation : StateM σ (Except StoreError α)} {state later : σ}
    {value : α} (answer : operation state = (.ok value, later)) :
    toCloud operation state = (.ok value, later) := by
  show (operation >>= _) state = _
  rw [bind_apply, answer]
  rfl

/-- Once the state has been read, a change of it that is refused leaves everything as it is. -/
theorem update_of_refused {α : Type} {edit : StoreState.Edit α} {loaded : Ticking} {state : StoreState}
    (load : store.load (Ticking.host holder) ticking = (.ok state, loaded)) {error : CloudError}
    (refused : edit state = .error error) :
    store.update (Ticking.host holder) edit ticking = (.error error, loaded) := by
  unfold update
  rw [ok_bind_apply (toCloud_apply load)]
  exact error_bind_apply (congrArg (·, loaded) refused) _

/-- Once the state has been read, a change of it that is made is saved with two times of the clock. -/
theorem update_of_made {α : Type} {edit : StoreState.Edit α} (fits : store.Fits) {loaded : Ticking}
    {state : StoreState} (load : store.load (Ticking.host holder) ticking = (.ok state, loaded))
    (desk : Desk store route contents loaded) {change : Instant → Instant → α × StoreState}
    (made : edit state = .ok change) :
    ∃ created updated : Instant, created.Nameable ∧ updated.Nameable ∧
      ∃ later after, store.update (Ticking.host holder) edit ticking =
          (.ok (change created updated).1, later) ∧
        Desk store route after later ∧
        after stateName = some (Document.toBytes (change created updated).2) ∧
        after lockName = contents lockName := by
  obtain ⟨created, first, read, nameable, desk⟩ := desk.now_apply holder
  obtain ⟨updated, second, read', nameable', desk⟩ := desk.now_apply holder
  obtain ⟨later, after, save, desk, saved, kept⟩ :=
    save_apply holder fits desk (change created updated).2
  refine ⟨created, updated, nameable, nameable', later, after, ?_, desk, saved, kept⟩
  unfold update
  rw [ok_bind_apply (toCloud_apply load)]
  refine (ok_bind_apply (congrArg (·, loaded) made) _).trans ?_
  refine (lift_bind_apply read _).trans ((lift_bind_apply read' _).trans ?_)
  exact ok_bind_apply (toCloud_apply save) _

/-! ### Between calls -/

/-- A store that stands for records: its lock is free and its state file spells them, or nobody has
used it and there are none. -/
def Remembers (store : Store) (route : Route) (records : List Memory.Record) (ticking : Ticking) :
    Prop :=
  (∃ contents, Desk store route contents ticking ∧ contents lockName = none ∧
    Spells records (contents stateName)) ∨
  store.Untouched route ticking ∧ records = []

/-- Once its directory has been made, a store has a state file that spells its records. -/
theorem Remembers.opened (fits : store.Fits) {records : List Memory.Record}
    (remembers : store.Remembers route records ticking) :
    ∃ contents opened,
      (Ticking.host holder).disk.makeDirectories store.directory ticking = (.ok (), opened) ∧
      Desk store route contents opened ∧ contents lockName = none ∧
        Spells records (contents stateName) := by
  rcases remembers with ⟨contents, desk, free, spells⟩ | ⟨⟨opened, made, desk⟩, none⟩
  · exact ⟨contents, ticking, desk.makeDirectories_apply holder fits.directory, desk, free, spells⟩
  · exact ⟨fun _ => .none, opened, made, desk, rfl, none⟩

/-- **A question is answered from the records.** -/
theorem ask_apply {α : Type} (fits : store.Fits) {records : List Memory.Record}
    (remembers : store.Remembers route records ticking) (question : StoreState → Answer α) :
    ∃ state later, state.records = records ∧
      store.ask (Ticking.host holder) question ticking = (question state, later) ∧
        store.Remembers route records later := by
  have loads : ∃ state later, store.load (Ticking.host holder) ticking = (.ok state, later) ∧
      state.records = records ∧ store.Remembers route records later := by
    rcases remembers with ⟨contents, desk, free, spells⟩ | ⟨untouched, none⟩
    · obtain ⟨state, later, load, desk, -, same⟩ := load_apply holder fits desk spells
      exact ⟨state, later, load, same, .inl ⟨contents, desk, free, spells⟩⟩
    · have missing := untouched.read_apply holder (fits.file stateName (by decide))
      obtain ⟨now, later, read, -, untouched⟩ := untouched.now_apply holder
      exact ⟨.fresh now, later, load_fresh holder missing read, none.symm, .inr ⟨untouched, none⟩⟩
  obtain ⟨state, later, load, same, remembers⟩ := loads
  refine ⟨state, later, same, ?_, remembers⟩
  show (store.load (Ticking.host holder) >>= _) ticking = _
  rw [bind_apply, load]
  rfl

/-- A change that is refused under the lock gives the lock back. -/
theorem change_of_refused {α : Type} {edit : StoreState.Edit α} {lock : Lock}
    {locked middle later : Ticking} {error : CloudError}
    (acquire : store.acquire (Ticking.host holder) ticking = (.ok lock, locked))
    (update : store.update (Ticking.host holder) edit locked = (.error error, middle))
    (abandon : lock.abandon (Ticking.host holder) middle = ((), later)) :
    store.change (Ticking.host holder) edit ticking = (.error error, later) := by
  show (store.acquire (Ticking.host holder) >>= _ : StateM Ticking _) ticking = _
  rw [bind_apply, acquire]
  show (store.update (Ticking.host holder) edit >>= _ : StateM Ticking _) locked = _
  rw [bind_apply, update]
  show (lock.abandon (Ticking.host holder) >>= _ : StateM Ticking _) middle = _
  rw [bind_apply, abandon]
  rfl

/-- A change that is made under the lock gives the lock back, and then its value. -/
theorem change_of_made {α : Type} {edit : StoreState.Edit α} {lock : Lock}
    {locked middle later : Ticking} {value : α}
    (acquire : store.acquire (Ticking.host holder) ticking = (.ok lock, locked))
    (update : store.update (Ticking.host holder) edit locked = (.ok value, middle))
    (release : lock.release (Ticking.host holder) middle = (.ok (), later)) :
    store.change (Ticking.host holder) edit ticking = (.ok value, later) := by
  show (store.acquire (Ticking.host holder) >>= _ : StateM Ticking _) ticking = _
  rw [bind_apply, acquire]
  show (store.update (Ticking.host holder) edit >>= _ : StateM Ticking _) locked = _
  rw [bind_apply, update]
  show (lock.release (Ticking.host holder) >>= _ : StateM Ticking _) middle = _
  rw [bind_apply, release]
  rfl

/-- **A change that is refused leaves the records alone, any other one is remembered.** -/
theorem change_apply {α : Type} (edit : StoreState.Edit α) (fits : store.Fits)
    {records : List Memory.Record} (remembers : store.Remembers route records ticking) :
    ∃ state : StoreState, state.Sound ∧ state.records = records ∧
      (∀ error, edit state = .error error →
        ∃ later, store.change (Ticking.host holder) edit ticking = (.error error, later) ∧
          store.Remembers route records later) ∧
      (∀ change, edit state = .ok change →
        (∀ created updated, created.Nameable → updated.Nameable → (change created updated).2.Sound) →
        ∃ created updated later,
          store.change (Ticking.host holder) edit ticking = (.ok (change created updated).1, later) ∧
            store.Remembers route (change created updated).2.records later) := by
  obtain ⟨contents, opened, made, desk, free, spells⟩ := remembers.opened holder fits
  obtain ⟨locked, bytes, acquire, desk⟩ := acquire_apply holder fits made desk free
  have spells' : Spells records (Function.update contents lockName (some bytes) stateName) := by
    rw [Function.update_of_ne (by decide)]
    exact spells
  obtain ⟨state, loaded, load, desk, sound, same⟩ := load_apply holder fits desk spells'
  refine ⟨state, sound, same, fun error refused => ?_, fun change made keeps => ?_⟩
  · have update := update_of_refused holder load refused
    obtain ⟨later, clear, desk⟩ := clear_apply holder fits desk (Function.update_self _ _ _)
    have given : Lock.abandon ⟨store.lockPath⟩ (Ticking.host holder) loaded = ((), later) := by
      show ((Ticking.host holder).clear store.lockPath >>= _ : StateM Ticking _) loaded = _
      rw [bind_apply, clear]
      rfl
    refine ⟨later, change_of_refused holder acquire update given, .inl ⟨_, desk,
      Function.update_self _ _ _, ?_⟩⟩
    rw [Function.update_of_ne (by decide)]
    exact spells'
  · obtain ⟨created, updated, nameable, nameable', middle, after, update, desk, saved, kept⟩ :=
      update_of_made holder fits load desk made
    rw [Function.update_self] at kept
    obtain ⟨later, clear, desk⟩ := clear_apply holder fits desk kept
    refine ⟨created, updated, later, change_of_made holder acquire update clear, .inl ⟨_, desk,
      Function.update_self _ _ _, ?_⟩⟩
    rw [Function.update_of_ne (by decide), saved]
    exact spells_toBytes (keeps created updated nameable nameable')

end Steps

end Store

end Provision
