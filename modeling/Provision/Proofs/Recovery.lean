/-
**Calls that are cut off.**

A call that creates a resource may be stopped at any point, and what it leaves behind is good enough to go
on with:

* `Store.exists_load` reads the state, `Store.clearLock_apply` removes what is left of a lock after an
  hour, and `Store.create_of_offers` creates a resource then;
* `Store.Resting` is a directory that nobody uses, `Ticking.Resumes` a machine that starts anew on the
  same files;
* **`creation_survives_stops`** — after a stop at any point there is the old state or the new one, and an
  hour later resources are created as usual.
-/

import Provision.Proofs.Refinement
import Provision.Proofs.Store.Spared
import Provision.Proofs.Store.Torn
import Provision.Proofs.Store.Wrecks

namespace Provision

open FileTree

namespace Store

section Steps

variable {store : Store} {route : Route} {contents : String → Option Bytes} {ticking : Ticking}
  (holder : String)

/-- **The state is read** from a state file that spells one, or is missing. -/
theorem exists_load (fits : store.Fits) (desk : Desk store route contents ticking)
    (readable : ∃ state, Offers (contents stateName) state) :
    ∃ state later, store.load (Ticking.host holder) ticking = (.ok state, later) ∧
      Offers (contents stateName) state ∧ Desk store route contents later := by
  have answer := desk.read_apply holder (fits.file stateName (by decide))
  cases known : contents stateName with
  | none =>
      obtain ⟨now, later, same, -, desk⟩ := desk.now_apply holder
      rw [known] at answer
      exact ⟨.fresh now, later, load_fresh holder answer same, ⟨now, rfl⟩, desk⟩
  | some bytes =>
      rw [known] at answer readable
      obtain ⟨state, spelled⟩ := readable
      refine ⟨state, ticking, ?_, spelled, desk⟩
      rw [load_of_read holder answer, spelled]

/-- A lock file that is left, if there is one, holds a beginning of what it was to say, and the time of
which it was to say so is when it was last written, an hour ago. -/
def Expired (store : Store) (info : LockInfo) (ticking : Ticking) (file : Option Bytes) : Prop :=
  ∀ bytes, file = some bytes → (∃ count, bytes = (Document.toBytes info).take count) ∧
    Ticking.disk.modified store.lockPath ticking = (.ok info.since, ticking) ∧
      Instant.hour ≤ info.since.age (ticking.readings 0)

/-- **A lock file is removed after an hour**, whether or not it was cut short. -/
theorem clearLock_apply (fits : store.Fits) (desk : Desk store route contents ticking)
    {info : LockInfo} (ascii : Utf8.IsAscii info.holder.toList) (nameable : info.since.Nameable)
    (expired : Expired store info ticking (contents lockName)) :
    ∃ later, store.clearLock (Ticking.host holder) ticking = (.ok (), later) ∧
      Desk store route (Function.update contents lockName none) later := by
  have answer := desk.read_apply holder (fits.file lockName (by decide))
  cases held : contents lockName with
  | none =>
      refine ⟨ticking, clearLock_of_free holder fits desk held, ?_⟩
      rw [← held, Function.update_eq_self]
      exact desk
  | some bytes =>
      rw [held] at answer
      obtain ⟨⟨count, rfl⟩, written, old⟩ := expired bytes held
      obtain ⟨who, said⟩ := lockInfo_take ascii nameable written count
      obtain ⟨now, middle, same, -, desk⟩ := desk.now_apply holder
      obtain ⟨later, cleared, desk⟩ := clear_apply holder fits desk held
      obtain rfl : ticking.readings 0 = now := congrArg Prod.fst same
      have stale : (LockInfo.mk who info.since).isStale (ticking.readings 0) = true :=
        decide_eq_true old
      refine ⟨later, ?_, desk⟩
      show ((Ticking.host holder).disk.read (Path.join store.directory lockName) >>= _) ticking = _
      rw [bind_apply, answer]
      show (store.lockInfo (Ticking.host holder) _ >>= _) ticking = _
      rw [bind_apply, said]
      show ((Ticking.host holder).now >>= _) ticking = _
      rw [bind_apply, same]
      show (if (LockInfo.mk who info.since).isStale (ticking.readings 0) then
        (Ticking.host holder).clear store.lockPath
          else pure (.error (.locked who info.since))) middle = _
      rw [stale]
      exact cleared

/-- **A resource is created an hour after a stop**: what is left of the lock is removed, and the resource
is added to the state. -/
theorem create_of_offers (fits : store.Fits) (desk : Desk store route contents ticking)
    {info : LockInfo} (ascii : Utf8.IsAscii info.holder.toList) (nameable : info.since.Nameable)
    (expired : Expired store info ticking (contents lockName))
    {state : StoreState} (offers : Offers (contents stateName) state) (group : ResourceGroup)
    {definition : ResourceDefinition} (tags : Tags) (named : Text.isBlank definition.name = false)
    (vacant : state.find? group.name definition.kind definition.name = none) :
    ∃ created updated last after, created.Nameable ∧ updated.Nameable ∧
      store.create (Ticking.host holder) group definition tags ticking =
        (.ok (StoredResource.ofDefinition group definition tags created).resource, last) ∧
      Desk store route after last ∧
      after stateName = some (Document.toBytes
        (state.push (StoredResource.ofDefinition group definition tags created) updated)) := by
  have made := desk.makeDirectories_apply holder fits.directory
  obtain ⟨cleared, clear, desk⟩ := clearLock_apply holder fits desk ascii nameable expired
  obtain ⟨locked, bytes, acquire, desk⟩ :=
    acquire_of_cleared holder fits made clear desk (Function.update_self _ _ _)
  have unchanged : Function.update (Function.update contents lockName none) lockName (some bytes)
      stateName = contents stateName := by
    rw [Function.update_of_ne (by decide), Function.update_of_ne (by decide)]
  obtain ⟨found, loaded, load, offers', desk⟩ := exists_load holder fits desk
    ⟨state, by rw [unchanged]; exact offers⟩
  rw [unchanged] at offers'
  have vacant' : found.find? group.name definition.kind definition.name = none := by
    rw [offers'.find?_eq offers, vacant]
  obtain ⟨created, updated, timely, timely', middle, after, update, desk, saved, kept⟩ :=
    update_of_made holder fits load desk (StoreState.create_eq_ok_iff.mpr ⟨vacant', rfl⟩)
  rw [Function.update_self] at kept
  obtain ⟨last, clear, desk⟩ := clear_apply holder fits desk kept
  refine ⟨created, updated, last, _, timely, timely', ?_, desk, ?_⟩
  · rw [create, named]
    exact change_of_made holder acquire update clear
  · rw [Function.update_of_ne (by decide), saved, offers'.push_eq offers]

end Steps

/-- The contents of the state file in a directory, if it is there. -/
def stateFile (route : Route) (ticking : Ticking) : Option Bytes :=
  (ticking.machine.tree.files route stateName).map (·.1)

/-- A store that nobody uses, on a machine whose clock shows times that can be written: there are only
files in its directory, among them no lock file, and the state file can be read or is missing. -/
structure Resting (store : Store) (route : Route) (ticking : Ticking) : Prop where
  leads : store.Leads route ticking
  plain : ∀ name entry, ticking.machine.tree.entry? (route ++ [name]) = some entry →
    ∃ bytes modified, entry = .file bytes modified
  free : ticking.machine.tree.files route lockName = none
  readable : ∃ state, Offers (stateFile route ticking) state
  fits : store.Fits
  timely : ∀ index, (ticking.readings index).Nameable

end Store

/-- A machine that starts anew on the files of another one, with a clock that shows times that can be
written. -/
structure Ticking.Resumes (later cut : Ticking) : Prop where
  tree : later.machine.tree = cut.machine.tree
  directory : later.machine.directory = cut.machine.directory
  timely : ∀ index, (later.readings index).Nameable

namespace Store

variable {store : Store} {route : Route} {files : String → Option (Bytes × Instant)}
  {ticking cut later : Ticking}

theorem dated_of_resumes (resumes : later.Resumes cut)
    (dated : Dated cut.machine.tree cut.machine.directory store.directory route files) :
    Dated later.machine.tree later.machine.directory store.directory route files := by
  rw [resumes.tree, resumes.directory]
  exact dated

theorem desk_of_resumes (resumes : later.Resumes cut)
    (dated : Dated cut.machine.tree cut.machine.directory store.directory route files) :
    Desk store route (fun name => (files name).map (·.1)) later :=
  ⟨(dated_of_resumes resumes dated).shelf, resumes.timely⟩

/-- A store that nobody uses is a bench without a lock file. -/
theorem Resting.bench (resting : store.Resting route ticking) :
    Bench store route (ticking.machine.tree.files route) ticking.machine.now ticking.readings ticking :=
  ⟨.of_folder resting.leads.folder resting.plain, rfl, rfl⟩

/-- Where the state is the old one or the new one, the state that is read is. -/
theorem offers_of_oldOrNew {before contents : Option Bytes} {stored : StoredResource}
    {updated : Instant} (oldOrNew : OldOrNew before stored updated contents)
    (created : stored.createdAt.Nameable) (nameable : updated.Nameable) {state : StoreState}
    (offers : Offers contents state) : Offers before state ∨ Created before stored updated state := by
  rcases oldOrNew with rfl | ⟨new, ⟨old, known, vacant, rfl⟩, rfl⟩
  · exact .inl offers
  · have same : stateOf (Document.toBytes (old.push stored updated)) = .ok state := offers
    rw [stateOf_push known created nameable] at same
    exact .inr ⟨old, known, vacant, (Except.ok.inj same).symm⟩

theorem exists_offers_of_oldOrNew {before contents : Option Bytes} {stored : StoredResource}
    {updated : Instant} (oldOrNew : OldOrNew before stored updated contents)
    (created : stored.createdAt.Nameable) (nameable : updated.Nameable)
    (readable : ∃ state, Offers before state) : ∃ state, Offers contents state := by
  rcases oldOrNew with rfl | ⟨new, ⟨old, known, -, rfl⟩, rfl⟩
  · exact readable
  · exact ⟨_, stateOf_push known created nameable⟩

end Store

/-- **A call that creates a resource survives a stop at any point.** However far it gets in a directory
that nobody uses, by a holder with a plain name: unless it is stopped, it is as on a machine that never
stops. The state that is read from what it leaves is the old one or the new one, with the times at which
the clock is read for the resource and for the state. And an hour after the lock file that is left was
last written, if there is one, anybody creates any resource that has a name and is not in that state, by
which it is added to that state. -/
theorem creation_survives_stops (store : Store) (holder : String) (route : Route) (ticking : Ticking)
    (resting : store.Resting route ticking) (ascii : Utf8.IsAscii holder.toList) (group : ResourceGroup)
    (definition : ResourceDefinition) (tags : Tags) (created updated : Instant)
    (timed : created = ticking.readings (if (Store.stateFile route ticking).isSome then 1 else 2))
    (timed' : updated = ticking.readings (if (Store.stateFile route ticking).isSome then 2 else 3))
    (steps rest : Nat) (outcome : Option (Answer DeployedResource)) (cut : Ticking)
    (ran : store.create (Mortal.host holder) group definition tags ⟨ticking, steps⟩ =
      (outcome, ⟨cut, rest⟩)) :
    (∀ answer, outcome = some answer →
      store.create (Ticking.host holder) group definition tags ticking = (answer, cut)) ∧
    ∀ (reader : String) (soon : Ticking), soon.Resumes cut →
      ∃ state later, store.load (Ticking.host reader) soon = (.ok state, later) ∧
        (Store.Offers (Store.stateFile route ticking) state ∨
          Store.Created (Store.stateFile route ticking) (.ofDefinition group definition tags created)
            updated state) ∧
        ∀ (other : String) (late : Ticking), late.Resumes cut →
          (∀ file, cut.machine.tree.files route Store.lockName = some file →
            Instant.hour ≤ file.2.age (late.readings 0)) →
          ∀ (group : ResourceGroup) (definition : ResourceDefinition) (tags : Tags),
            Text.isBlank definition.name = false →
            state.find? group.name definition.kind definition.name = none →
            ∃ created updated last after,
              store.create (Ticking.host other) group definition tags late =
                (.ok (StoredResource.ofDefinition group definition tags created).resource, last) ∧
              store.load (Ticking.host other) last =
                (.ok (state.push (.ofDefinition group definition tags created) updated), after) := by
  have wreckage := resting.bench.create_ends holder resting.fits resting.free resting.readable group
    definition tags timed timed' steps
  rw [ran] at wreckage
  obtain ⟨files, dated, wreck⟩ := wreckage
  have nameable : created.Nameable := timed ▸ resting.timely _
  have nameable' : updated.Nameable := timed' ▸ resting.timely _
  have readable := Store.exists_offers_of_oldOrNew wreck.state nameable nameable' resting.readable
  refine ⟨?_, fun reader soon resumed => ?_⟩
  · rintro answer rfl
    exact Store.spares_create holder store group definition tags ran
  obtain ⟨state, later, load, offers, -⟩ :=
    Store.exists_load reader resting.fits (Store.desk_of_resumes resumed dated) readable
  refine ⟨state, later, load, Store.offers_of_oldOrNew wreck.state nameable nameable' offers, ?_⟩
  intro other late resumes aged group definition tags named vacant
  have dated' := Store.dated_of_resumes resumes dated
  have expired : Store.Expired store ⟨holder, ticking.readings 0⟩ late
      ((files Store.lockName).map (·.1)) := by
    intro bytes held
    obtain ⟨file, known, rfl⟩ := Option.map_eq_some_iff.mp held
    obtain ⟨count, rfl⟩ := wreck.lock file known
    refine ⟨⟨count, rfl⟩, ?_, aged _ ((congrFun dated.files_eq _).trans known)⟩
    exact congrArg (·, late) (dated'.modified_eq (resting.fits.file Store.lockName (by decide)) known)
  obtain ⟨first, second, last, after, timely, timely', create, desk, saved⟩ :=
    Store.create_of_offers other resting.fits (Store.desk_of_resumes resumes dated) ascii
      (resting.timely 0) expired offers group tags named vacant
  have pushed : Store.stateOf (Document.toBytes
      (state.push (.ofDefinition group definition tags first) second)) = .ok _ :=
    Store.stateOf_push offers timely timely'
  obtain ⟨found, ended, reload, offers', -⟩ := Store.exists_load other resting.fits desk
    (by rw [saved]; exact ⟨_, pushed⟩)
  rw [saved] at offers'
  obtain rfl := Except.ok.inj (pushed.symm.trans offers')
  exact ⟨first, second, last, ended, create, reload⟩

/-- A machine that was stopped when eight bytes of a lock file had been written. -/
def depotStopped : Ticking :=
  (Store.create ⟨"state"⟩ (Mortal.host "holder") ⟨"rg", "eastus", "sub"⟩ depot ∅
    ⟨depotOpened, 10⟩).2.ticking

/-- The same machine an hour later. -/
def depotResumed : Ticking :=
  { depotStopped with readings := fun index => ⟨3600 + (index % 80000 : Nat), 0⟩ }

theorem depotOpened_resting : Store.Resting ⟨"state"⟩ ["state"] depotOpened where
  leads := depotMachine_ready.leads
  plain := fun name _ found => nomatch (depotMachine_ready.empty name).symm.trans found
  free := rfl
  readable := ⟨.fresh ⟨0, 0⟩, ⟨0, 0⟩, rfl⟩
  fits := depotMachine_ready.fits
  timely := depotMachine_ready.timely

theorem depotResumed_resumes : depotResumed.Resumes depotStopped where
  tree := rfl
  directory := rfl
  timely := fun index => by
    refine ⟨.inl (show 0 < 1000000000 by decide), ?_⟩
    have day : (3600 + ((index % 80000 : Nat) : Int)) / 86400 = 0 := by omega
    show Instant.isDay ((3600 + ((index % 80000 : Nat) : Int)) / 86400) = true
    rw [day]
    decide

/-- An hour after eight bytes of a lock file were written, a storage account is created. -/
theorem stopped_depot_creation_survives :
    Store.Resting ⟨"state"⟩ ["state"] depotOpened ∧ Utf8.IsAscii "holder".toList ∧
      depotStopped.machine.tree.files ["state"] Store.lockName =
        some ((Document.toBytes (LockInfo.mk "holder" ⟨0, 0⟩)).take 8, ⟨0, 0⟩) ∧
      depotResumed.Resumes depotStopped ∧
      ∃ created updated last after,
        Store.create ⟨"state"⟩ (Ticking.host "other") ⟨"rg", "eastus", "sub"⟩ depot ∅ depotResumed =
          (.ok (StoredResource.ofDefinition ⟨"rg", "eastus", "sub"⟩ depot ∅ created).resource, last) ∧
        Store.load ⟨"state"⟩ (Ticking.host "other") last =
          (.ok (StoreState.push (.fresh ⟨3600, 0⟩)
            (.ofDefinition ⟨"rg", "eastus", "sub"⟩ depot ∅ created) updated), after) := by
  have lock : depotStopped.machine.tree.files ["state"] Store.lockName =
      some ((Document.toBytes (LockInfo.mk "holder" ⟨0, 0⟩)).take 8, ⟨0, 0⟩) := rfl
  obtain ⟨-, survives⟩ := creation_survives_stops ⟨"state"⟩ "holder" ["state"] depotOpened
    depotOpened_resting (by decide) ⟨"rg", "eastus", "sub"⟩ depot ∅ ⟨2, 0⟩ ⟨3, 0⟩ rfl rfl 10 0 none
    depotStopped rfl
  obtain ⟨state, later, load, -, resumes⟩ := survives "reader" depotResumed depotResumed_resumes
  have fresh : Store.load ⟨"state"⟩ (Ticking.host "reader") depotResumed =
      (.ok (.fresh ⟨3600, 0⟩), (Ticking.now depotResumed).2) := rfl
  obtain rfl : StoreState.fresh ⟨3600, 0⟩ = state :=
    Except.ok.inj (congrArg Prod.fst (fresh.symm.trans load))
  refine ⟨depotOpened_resting, by decide, lock, depotResumed_resumes, ?_⟩
  refine resumes "other" depotResumed depotResumed_resumes ?_ ⟨"rg", "eastus", "sub"⟩ depot ∅ (by decide)
    rfl
  intro file held
  obtain rfl := Option.some.inj (lock.symm.trans held)
  decide

end Provision
