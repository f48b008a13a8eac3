/-
**What a stopped call leaves behind.**

A call that creates a resource may be stopped while any of its files is written:

* `Store.Bench` gives the files of a store on a machine whose clock is known, and `Bench.write_endures`
  and its like say what each operation leaves, also when the machine stops;
* `Store.Wreck` is what holds throughout: the state file is the old one or the new one, and the lock file
  holds a beginning of what it was to say, written at the time of which it says so;
* `Bench.acquire_endures` and `Bench.save_endures` are the steps of a call, and **`Bench.create_ends`** is
  what is left of it wherever it is stopped.
-/

import Provision.Proofs.Files.Dated
import Provision.Proofs.Store.Changes
import Provision.Proofs.Store.Mortal
import Provision.Proofs.Store.States

namespace Provision

open FileTree

namespace Store

/-- The files of a store on a machine whose clock has shown a time and is going to show others. -/
structure Bench (store : Store) (route : Route) (files : String → Option (Bytes × Instant))
    (now : Instant) (readings : Nat → Instant) (ticking : Ticking) : Prop where
  dated : Dated ticking.machine.tree ticking.machine.directory store.directory route files
  time : ticking.machine.now = now
  clock : ticking.readings = readings

/-- A machine with files of a store of which something is true. -/
def Wreckage (store : Store) (route : Route) (safe : (String → Option (Bytes × Instant)) → Prop)
    (ticking : Ticking) : Prop :=
  ∃ files, Dated ticking.machine.tree ticking.machine.directory store.directory route files ∧ safe files

section Operations

variable {store : Store} {route : Route} {files : String → Option (Bytes × Instant)} {now : Instant}
  {readings : Nat → Instant} {ticking : Ticking} {name other : String}
  {safe : (String → Option (Bytes × Instant)) → Prop} {stopped : Ticking → Prop} (holder : String)

namespace Bench

theorem wreckage (bench : Bench store route files now readings ticking) (sound : safe files) :
    Wreckage store route safe ticking := ⟨files, bench.dated, sound⟩

theorem insert (bench : Bench store route files now readings ticking) (name : String) (bytes : Bytes) :
    Bench store route (Function.update files name (some (bytes, now))) now readings
      (ticking.withTree (ticking.machine.tree.insert (route ++ [name])
        (.file bytes ticking.machine.now))) := by
  obtain ⟨dated, rfl, clock⟩ := bench
  exact ⟨dated.insert name bytes _, rfl, clock⟩

theorem read_eq (bench : Bench store route files now readings ticking)
    (fits : FileTree.Fits store.directory name) {bytes : Bytes}
    (known : (files name).map (·.1) = some bytes) :
    (Ticking.disk.read (Path.join store.directory name) ticking).1 = .ok bytes := by
  have answer := bench.dated.shelf.read_eq fits
  rw [known] at answer
  exact answer

theorem write_apply (bench : Bench store route files now readings ticking)
    (fits : FileTree.Fits store.directory name) (bytes : Bytes) :
    Ticking.disk.write (Path.join store.directory name) bytes ticking =
      (.ok (), ticking.withTree (ticking.machine.tree.insert (route ++ [name])
        (.file bytes ticking.machine.now))) :=
  Ticking.change_apply _ (bench.dated.shelf.write_eq fits bytes ticking.machine.now)

theorem now_endures (bench : Bench store route files now readings ticking) :
    Endures (Mortal.host holder).now ticking stopped (readings 0)
      (Bench store route files (readings 0) fun index => readings (index + 1)) := by
  obtain ⟨dated, -, rfl⟩ := bench
  exact endures_looking rfl ⟨dated, rfl, rfl⟩

theorem read_endures (bench : Bench store route files now readings ticking)
    (fits : FileTree.Fits store.directory name) :
    Endures ((Mortal.host holder).disk.read (Path.join store.directory name)) ticking stopped
      (match (files name).map (·.1) with
        | none => .error .notFound
        | some bytes => .ok bytes)
      (Bench store route files now readings) :=
  endures_looking (congrArg (·, ticking) (bench.dated.shelf.read_eq fits)) bench

theorem exists?_endures (bench : Bench store route files now readings ticking)
    (fits : FileTree.Fits store.directory name) :
    Endures ((Mortal.host holder).disk.exists? (Path.join store.directory name)) ticking stopped
      (.ok ((files name).map (·.1)).isSome) (Bench store route files now readings) :=
  endures_looking (congrArg (·, ticking) (bench.dated.shelf.exists?_eq fits)) bench

/-- A file that is written byte by byte holds a beginning of its bytes when the machine stops. -/
theorem bytewise_endures (bench : Bench store route files now readings ticking)
    (fits : FileTree.Fits store.directory name) {bytes : Bytes}
    {operation : StateM Ticking (FileAnswer Unit)}
    (answer : operation ticking = (.ok (), ticking.withTree (ticking.machine.tree.insert
      (route ++ [name]) (.file bytes ticking.machine.now))))
    (before : safe files)
    (partly : ∀ count, safe (Function.update files name (some (bytes.take count, now)))) :
    Endures (Mortal.bytewise (Path.join store.directory name) operation) ticking
      (Wreckage store route safe) (.ok ())
      (Bench store route (Function.update files name (some (bytes, now))) now readings) := by
  have done := bench.insert name bytes
  have known : (Function.update files name (some (bytes, now)) name).map (·.1) = some bytes := by
    rw [Function.update_self]
    rfl
  refine endures_bytewise answer (done.read_eq fits known) (bench.wreckage before) (fun count => ?_) done
  have short := done.insert name (bytes.take count)
  rw [Function.update_idem] at short
  unfold Mortal.cutShort
  rw [done.write_apply fits]
  exact short.wreckage (partly count)

theorem write_endures (bench : Bench store route files now readings ticking)
    (fits : FileTree.Fits store.directory name) (bytes : Bytes) (before : safe files)
    (partly : ∀ count, safe (Function.update files name (some (bytes.take count, now)))) :
    Endures ((Mortal.host holder).disk.write (Path.join store.directory name) bytes) ticking
      (Wreckage store route safe) (.ok ())
      (Bench store route (Function.update files name (some (bytes, now))) now readings) :=
  bench.bytewise_endures fits (bench.write_apply fits bytes) before partly

theorem create_endures (bench : Bench store route files now readings ticking)
    (fits : FileTree.Fits store.directory name) (free : files name = none) (bytes : Bytes)
    (before : safe files)
    (partly : ∀ count, safe (Function.update files name (some (bytes.take count, now)))) :
    Endures ((Mortal.host holder).disk.create (Path.join store.directory name) bytes) ticking
      (Wreckage store route safe) (.ok ())
      (Bench store route (Function.update files name (some (bytes, now))) now readings) := by
  have vacant : (files name).map (·.1) = none := by rw [free]; rfl
  exact bench.bytewise_endures fits
    (Ticking.change_apply _ (bench.dated.shelf.create_eq fits vacant bytes ticking.machine.now)) before
      partly

theorem copy_endures (bench : Bench store route files now readings ticking)
    (fits : FileTree.Fits store.directory name) (fits' : FileTree.Fits store.directory other)
    (different : name ≠ other) {bytes : Bytes} (known : (files name).map (·.1) = some bytes)
    (before : safe files)
    (partly : ∀ count, safe (Function.update files other (some (bytes.take count, now)))) :
    Endures ((Mortal.host holder).disk.copy (Path.join store.directory name)
      (Path.join store.directory other)) ticking (Wreckage store route safe) (.ok ())
      (Bench store route (Function.update files other (some (bytes, now))) now readings) :=
  bench.bytewise_endures fits' (Ticking.change_apply _
    (bench.dated.shelf.copy_eq fits fits' different known ticking.machine.now)) before partly

theorem rename_endures (bench : Bench store route files now readings ticking)
    (fits : FileTree.Fits store.directory name) (fits' : FileTree.Fits store.directory other)
    {bytes : Bytes} (known : (files name).map (·.1) = some bytes) (before : safe files) :
    Endures ((Mortal.host holder).disk.rename (Path.join store.directory name)
      (Path.join store.directory other)) ticking (Wreckage store route safe) (.ok ())
      fun later => ∃ modified, Bench store route (Function.update (Function.update files name none) other
        (some (bytes, modified))) now readings later := by
  obtain ⟨modified, same⟩ := bench.dated.shelf.rename_eq fits fits' known
  exact endures_atOnce (Ticking.change_apply (·.rename · _ _) same) (bench.wreckage before)
    ⟨modified, (bench.dated.erase name).insert other bytes modified, bench.time, bench.clock⟩

theorem remove_endures (bench : Bench store route files now readings ticking)
    (fits : FileTree.Fits store.directory name) {bytes : Bytes}
    (known : (files name).map (·.1) = some bytes) (before : safe files) :
    Endures ((Mortal.host holder).disk.remove (Path.join store.directory name)) ticking
      (Wreckage store route safe) (.ok ())
      (Bench store route (Function.update files name none) now readings) :=
  endures_atOnce (Ticking.change_apply (·.remove · _) (bench.dated.shelf.remove_eq fits known))
    (bench.wreckage before) ⟨bench.dated.erase name, bench.time, bench.clock⟩

theorem makeDirectories_endures (bench : Bench store route files now readings ticking)
    (short : store.directory.utf8ByteSize ≤ maximumPath) (before : safe files) :
    Endures ((Mortal.host holder).disk.makeDirectories store.directory) ticking
      (Wreckage store route safe) (.ok ()) (Bench store route files now readings) := by
  unfold Disk.makeDirectories Disk.makeDirectoriesFrom
  by_cases empty : store.directory = ""
  · rw [if_pos (by rw [empty]; rfl)]
    exact endures_pure bench
  rw [if_neg (by simpa using empty)]
  have there := bench.dated.folder.makeDirectory_eq empty short
  have made : Endures ((Mortal.host holder).disk.makeDirectory store.directory) ticking
      (Wreckage store route safe) (.error .alreadyExists) (Bench store route files now readings) :=
    endures_atOnce (Ticking.change_apply_error (·.makeDirectory · _) there) (bench.wreckage before) bench
  refine made.bind fun later bench => ?_
  have isThere : Endures ((Mortal.host holder).disk.isDirectory store.directory) later
      (Wreckage store route safe) true (Bench store route files now readings) :=
    endures_looking (congrArg (·, later) (bench.dated.folder.isDirectory_eq empty short)) bench
  exact isThere.bind fun later bench => endures_pure bench

end Bench

/-! ### What may be left -/

/-- What a call leaves behind wherever it is stopped: a state file whose contents are allowed, and a lock
file with a beginning of what it says, last written at the time of which it says so. -/
structure Wreck (allowed : Option Bytes → Prop) (info : LockInfo)
    (files : String → Option (Bytes × Instant)) : Prop where
  state : allowed ((files stateName).map (·.1))
  lock : ∀ file, files lockName = some file →
    ∃ count, file = ((Document.toBytes info).take count, info.since)

namespace Wreck

variable {allowed : Option Bytes → Prop} {info : LockInfo}

/-- Files of other names do not matter. -/
theorem update_other (wreck : Wreck allowed info files) (noState : name ≠ stateName)
    (noLock : name ≠ lockName) (file : Option (Bytes × Instant)) :
    Wreck allowed info (Function.update files name file) where
  state := by
    rw [Function.update_of_ne noState.symm]
    exact wreck.state
  lock := by
    rw [Function.update_of_ne noLock.symm]
    exact wreck.lock

theorem update_state (wreck : Wreck allowed info files) {file : Bytes × Instant}
    (permitted : allowed (some file.1)) :
    Wreck allowed info (Function.update files stateName (some file)) where
  state := by
    rw [Function.update_self]
    exact permitted
  lock := by
    rw [Function.update_of_ne (by decide)]
    exact wreck.lock

theorem update_lock (wreck : Wreck allowed info files) (count : Nat) :
    Wreck allowed info
      (Function.update files lockName (some ((Document.toBytes info).take count, info.since))) where
  state := by
    rw [Function.update_of_ne (by decide)]
    exact wreck.state
  lock := fun file same => by
    rw [Function.update_self] at same
    exact ⟨count, (Option.some.inj same).symm⟩

theorem erase_lock (wreck : Wreck allowed info files) :
    Wreck allowed info (Function.update files lockName none) where
  state := by
    rw [Function.update_of_ne (by decide)]
    exact wreck.state
  lock := fun file same => by
    rw [Function.update_self] at same
    cases same

end Wreck

/-! ### Steps of a call -/

section Calls

variable {allowed : Option Bytes → Prop} {info : LockInfo} {after : Ticking → Prop} {α : Type}

theorem endures_step {operation : OptionT (StateM Mortal) (FileAnswer α)} {value : α}
    (endures : Endures operation ticking stopped (.ok value) after) :
    Endures (α := Except StoreError α) (step operation) ticking stopped (.ok value) after :=
  endures.bind fun _ fulfilled => endures_pure fulfilled

theorem endures_toCloud {operation : OptionT (StateM Mortal) (Except StoreError α)} {value : α}
    (endures : Endures operation ticking stopped (.ok value) after) :
    Endures (α := Except CloudError α) (toCloud operation) ticking stopped (.ok value) after :=
  endures.bind fun _ fulfilled => endures_pure fulfilled

/-- A new state takes the name of the old one. -/
theorem Bench.install_endures (fits : store.Fits) (bench : Bench store route files now readings ticking)
    (wreck : Wreck allowed info files) {bytes : Bytes}
    (whole : (files scratchName).map (·.1) = some bytes) (permitted : allowed (some bytes)) :
    Endures (α := Except StoreError Unit)
      (step ((Mortal.host holder).disk.rename store.scratchPath store.statePath)) ticking
      (Wreckage store route (Wreck allowed info)) (.ok ()) fun later =>
        ∃ saved, Bench store route saved now readings later ∧ Wreck allowed info saved ∧
          saved lockName = files lockName := by
  refine endures_step ((bench.rename_endures holder (fits.file scratchName (by decide))
    (fits.file stateName (by decide)) whole wreck).mono ?_)
  rintro later ⟨modified, bench⟩
  refine ⟨_, bench, (wreck.update_other (by decide) (by decide) none).update_state permitted, ?_⟩
  rw [Function.update_of_ne (by decide), Function.update_of_ne (by decide)]

/-- **While a store replaces its state**, the state file is the old one or the new one. -/
theorem Bench.save_endures (fits : store.Fits) (bench : Bench store route files now readings ticking)
    (wreck : Wreck allowed info files) (state : StoreState)
    (permitted : allowed (some (Document.toBytes state))) :
    Endures (α := Except StoreError Unit) (store.save (Mortal.host holder) state) ticking
      (Wreckage store route (Wreck allowed info)) (.ok ()) fun later =>
        ∃ saved, Bench store route saved now readings later ∧ Wreck allowed info saved ∧
          saved lockName = files lockName := by
  have stateFits := fits.file stateName (by decide)
  unfold save
  refine (endures_step (bench.makeDirectories_endures holder fits.directory wreck)).bindOk
    fun written bench => ?_
  refine (endures_step (bench.write_endures holder (fits.file scratchName (by decide))
    (Document.toBytes state) wreck fun count =>
      wreck.update_other (by decide) (by decide) _)).bindOk fun written bench => ?_
  have draft : Wreck allowed info
      (Function.update files scratchName (some (Document.toBytes state, now))) :=
    wreck.update_other (by decide) (by decide) _
  have whole : (Function.update files scratchName (some (Document.toBytes state, now))
      scratchName).map (·.1) = some (Document.toBytes state) := by
    rw [Function.update_self]
    rfl
  have lock : Function.update files scratchName (some (Document.toBytes state, now)) lockName =
      files lockName := Function.update_of_ne (by decide) _ _
  rw [← lock]
  -- from here on it matters of the files only that the new state is in one of them
  generalize Function.update files scratchName (some (Document.toBytes state, now)) = drafted at *
  refine (endures_step (bench.exists?_endures holder stateFits)).bindOk fun seen bench => ?_
  cases known : (drafted stateName).map (·.1) with
  | none => exact bench.install_endures holder fits draft whole permitted
  | some bytes =>
      refine (endures_step (bench.copy_endures holder stateFits (fits.file backupName (by decide))
        (by decide) known draft fun count => draft.update_other (by decide) (by decide) _)).bindOk
          fun copied bench => ?_
      have whole : (Function.update drafted backupName (some (bytes, now)) scratchName).map (·.1) =
          some (Document.toBytes state) := by
        rw [Function.update_of_ne (by decide)]
        exact whole
      have kept := bench.install_endures holder fits (draft.update_other (by decide) (by decide) _)
        whole permitted
      rw [Function.update_of_ne (by decide)] at kept
      exact kept

/-- **While the lock is taken**, the lock file holds a beginning of what it says. -/
theorem Bench.acquire_endures (fits : store.Fits) (bench : Bench store route files now readings ticking)
    (wreck : Wreck allowed ⟨holder, readings 0⟩ files) (free : files lockName = none) :
    Endures (α := Except StoreError Lock) (store.acquire (Mortal.host holder)) ticking
      (Wreckage store route (Wreck allowed ⟨holder, readings 0⟩)) (.ok ⟨store.lockPath⟩)
      (Bench store route
        (Function.update files lockName
          (some (Document.toBytes (LockInfo.mk holder (readings 0)), readings 0)))
        (readings 0) fun index => readings (index + 1)) := by
  have lockFits := fits.file lockName (by decide)
  unfold acquire
  refine (endures_step (bench.makeDirectories_endures holder fits.directory wreck)).bindOk
    fun opened bench => ?_
  have clear : Endures (store.clearLock (Mortal.host holder)) opened
      (Wreckage store route (Wreck allowed ⟨holder, readings 0⟩)) (.ok ())
      (Bench store route files now readings) := by
    refine (bench.read_endures holder lockFits).bind fun seen bench => ?_
    rw [free]
    exact endures_pure bench
  refine Endures.bindOk clear fun cleared bench => ?_
  refine (bench.now_endures holder).bind fun timed bench => ?_
  refine (bench.create_endures holder lockFits free (Document.toBytes (LockInfo.mk holder (readings 0)))
    wreck fun count => wreck.update_lock count).bind fun later bench => ?_
  exact endures_pure bench

/-- While the lock is given back, its file is there or not. -/
theorem Bench.clear_endures (fits : store.Fits) (bench : Bench store route files now readings ticking)
    (wreck : Wreck allowed info files) {file : Bytes × Instant} (held : files lockName = some file) :
    Endures ((Mortal.host holder).clear store.lockPath) ticking
      (Wreckage store route (Wreck allowed info)) (.ok ())
      (Wreckage store route (Wreck allowed info)) := by
  have known : (files lockName).map (·.1) = some file.1 := by rw [held]; rfl
  refine (bench.remove_endures holder (fits.file lockName (by decide)) known wreck).bind
    fun later bench => ?_
  exact endures_pure (bench.wreckage wreck.erase_lock)

/-- Reading the state takes a reading of the clock only where there is no state file. -/
theorem exists_load_endures (route : Route) (fits : store.Fits)
    (readable : ∃ state, Offers ((files stateName).map (·.1)) state)
    (now : Instant) (readings : Nat → Instant) :
    ∃ old time rest, Offers ((files stateName).map (·.1)) old ∧
      (∀ index, rest index =
        readings (index + if ((files stateName).map (·.1)).isSome then 0 else 1)) ∧
      ∀ ticking stopped, Bench store route files now readings ticking →
        Endures (store.load (Mortal.host holder)) ticking stopped (.ok old)
          (Bench store route files time rest) := by
  have stateFits := fits.file stateName (by decide)
  cases known : (files stateName).map (·.1) with
  | none =>
      refine ⟨.fresh (readings 0), readings 0, fun index => readings (index + 1), ⟨_, rfl⟩,
        fun _ => rfl, ?_⟩
      intro ticking stopped bench
      refine (bench.read_endures holder stateFits).bind fun seen bench => ?_
      rw [known]
      refine (bench.now_endures holder).bind fun timed bench => ?_
      exact endures_pure bench
  | some bytes =>
      rw [known] at readable
      obtain ⟨old, spelled⟩ := readable
      refine ⟨old, now, readings, spelled, fun _ => rfl, ?_⟩
      intro ticking stopped bench
      refine (bench.read_endures holder stateFits).bind fun seen bench => ?_
      rw [known]
      show Endures (pure (stateOf bytes)) seen stopped (.ok old) _
      rw [spelled]
      exact endures_pure bench

/-- A change that is refused leaves the files alone, any other one replaces the state. -/
theorem exists_update_endures (route : Route) (fits : store.Fits) (wreck : Wreck allowed info files)
    (readable : ∃ state, Offers ((files stateName).map (·.1)) state) (edit : StoreState.Edit α)
    (now : Instant) (readings : Nat → Instant)
    (permitted : ∀ old change, Offers ((files stateName).map (·.1)) old → edit old = .ok change →
      allowed (some (Document.toBytes (change
        (readings (0 + if ((files stateName).map (·.1)).isSome then 0 else 1))
        (readings (1 + if ((files stateName).map (·.1)).isSome then 0 else 1))).2))) :
    ∃ answer, ∀ ticking, Bench store route files now readings ticking →
      Endures (α := Answer α) (store.update (Mortal.host holder) edit) ticking
        (Wreckage store route (Wreck allowed info)) answer fun later =>
          ∃ saved time rest, Bench store route saved time rest later ∧ Wreck allowed info saved ∧
            saved lockName = files lockName := by
  obtain ⟨old, time, rest, offers, shifted, load⟩ :=
    exists_load_endures holder route fits readable now readings
  rw [← shifted, ← shifted] at permitted
  unfold update
  cases made : edit old with
  | error error =>
      refine ⟨.error error, fun ticking bench => ?_⟩
      refine (endures_toCloud (load ticking _ bench)).bindOk fun loaded bench => ?_
      refine Endures.bindError _ ?_
      rw [made]
      exact endures_pure ⟨files, _, _, bench, wreck, rfl⟩
  | ok change =>
      refine ⟨.ok (change (rest 0) (rest 1)).1, fun ticking bench => ?_⟩
      refine (endures_toCloud (load ticking _ bench)).bindOk fun loaded bench => ?_
      have granted : Endures (pure (edit old)) loaded (Wreckage store route (Wreck allowed info))
          (.ok change) (Bench store route files time rest) := by
        rw [made]
        exact endures_pure bench
      refine Endures.bindOk granted fun agreed bench => ?_
      refine (bench.now_endures holder).bindLift fun timed bench => ?_
      refine (bench.now_endures holder).bindLift fun timed bench => ?_
      refine (endures_toCloud (bench.save_endures holder fits wreck (change (rest 0) (rest 1)).2
        (permitted old change offers made))).bindOk fun saved ended => ?_
      obtain ⟨files', bench, wreck, lock⟩ := ended
      exact endures_pure ⟨files', _, _, bench, wreck, lock⟩

/-- **While a store is changed**, no more than a wreck is left behind. -/
theorem Bench.exists_change_endures (fits : store.Fits)
    (bench : Bench store route files now readings ticking)
    (wreck : Wreck allowed ⟨holder, readings 0⟩ files) (free : files lockName = none)
    (readable : ∃ state, Offers ((files stateName).map (·.1)) state)
    (edit : StoreState.Edit α)
    (permitted : ∀ old change, Offers ((files stateName).map (·.1)) old → edit old = .ok change →
      allowed (some (Document.toBytes (change
        (readings (if ((files stateName).map (·.1)).isSome then 1 else 2))
        (readings (if ((files stateName).map (·.1)).isSome then 2 else 3))).2))) :
    ∃ answer, Endures (store.change (Mortal.host holder) edit) ticking
      (Wreckage store route (Wreck allowed ⟨holder, readings 0⟩)) answer
      (Wreckage store route (Wreck allowed ⟨holder, readings 0⟩)) := by
  have acquire := bench.acquire_endures holder fits wreck free
  have whole : Wreck allowed ⟨holder, readings 0⟩ (Function.update files lockName
      (some (Document.toBytes (LockInfo.mk holder (readings 0)), readings 0))) := by
    have own := wreck.update_lock (Document.toBytes (LockInfo.mk holder (readings 0))).length
    rwa [List.take_length] at own
  have unchanged := Function.update_of_ne (show stateName ≠ lockName by decide)
    (some (Document.toBytes (LockInfo.mk holder (readings 0)), readings 0)) files
  have held := Function.update_self lockName
    (some (Document.toBytes (LockInfo.mk holder (readings 0)), readings 0)) files
  -- the lock file has nothing to do with the state that is changed under it
  generalize Function.update files lockName _ = locked at *
  rw [← unchanged] at readable permitted
  obtain ⟨answer, update⟩ := exists_update_endures holder route fits whole readable edit (readings 0)
    (fun index => readings (index + 1)) (by
      split at permitted
      next there => rwa [if_pos there]
      next missing => rwa [if_neg missing])
  cases answer with
  | error error =>
      refine ⟨.error error, acquire.bind fun acquired bench => ?_⟩
      refine Endures.bind (update acquired bench) fun updated ended => ?_
      obtain ⟨saved, time, rest, bench, wreck, lock⟩ := ended
      have cleared := bench.clear_endures holder fits wreck (lock.trans held)
      refine Endures.bind (cleared.bind fun _ => endures_pure) fun given ended => ?_
      exact endures_pure ended
  | ok value =>
      refine ⟨.ok value, acquire.bind fun acquired bench => ?_⟩
      refine Endures.bind (update acquired bench) fun updated ended => ?_
      obtain ⟨saved, time, rest, bench, wreck, lock⟩ := ended
      refine (bench.clear_endures holder fits wreck (lock.trans held)).bind fun given ended => ?_
      exact endures_pure ended

/-- The old state with a resource, which had no resource of that name, as it is updated at a time. -/
def Created (before : Option Bytes) (stored : StoredResource) (updated : Instant)
    (state : StoreState) : Prop :=
  ∃ old, Offers before old ∧ old.find? stored.group stored.kind stored.name = none ∧
    state = old.push stored updated

/-- The contents that a state file may have once a resource was to be created, by which the state is
updated at a time. -/
def OldOrNew (before : Option Bytes) (stored : StoredResource) (updated : Instant)
    (contents : Option Bytes) : Prop :=
  contents = before ∨
    ∃ state, Created before stored updated state ∧ contents = some (Document.toBytes state)

theorem oldOrNew_of_create {before : Option Bytes} {group : ResourceGroup}
    {definition : ResourceDefinition} {tags : Tags} {old : StoreState}
    {change : Instant → Instant → DeployedResource × StoreState} (offers : Offers before old)
    (made : StoreState.create group definition tags old = .ok change) (created updated : Instant) :
    OldOrNew before (.ofDefinition group definition tags created) updated
      (some (Document.toBytes (change created updated).2)) := by
  obtain ⟨vacant, rfl⟩ := StoreState.create_eq_ok_iff.mp made
  exact .inr ⟨_, ⟨old, offers, vacant, rfl⟩, rfl⟩

/-- **Wherever a call that creates a resource is stopped**, it leaves a wreck in which the state is
the old one or the new one. -/
theorem Bench.create_ends (fits : store.Fits) (bench : Bench store route files now readings ticking)
    (free : files lockName = none)
    (readable : ∃ state, Offers ((files stateName).map (·.1)) state)
    (group : ResourceGroup) (definition : ResourceDefinition) (tags : Tags) {created updated : Instant}
    (timed : created = readings (if ((files stateName).map (·.1)).isSome then 1 else 2))
    (timed' : updated = readings (if ((files stateName).map (·.1)).isSome then 2 else 3))
    (steps : Nat) :
    Wreckage store route
      (Wreck (OldOrNew ((files stateName).map (·.1)) (.ofDefinition group definition tags created)
        updated) ⟨holder, readings 0⟩)
      (store.create (Mortal.host holder) group definition tags ⟨ticking, steps⟩).2.ticking := by
  subst timed timed'
  have wreck (stored : StoredResource) (time : Instant) :
      Wreck (OldOrNew ((files stateName).map (·.1)) stored time) ⟨holder, readings 0⟩ files :=
    ⟨.inl rfl, fun file held => nomatch free.symm.trans held⟩
  unfold create
  by_cases blank : Text.isBlank definition.name = true
  · rw [if_pos blank]
    exact bench.wreckage (wreck _ _)
  rw [if_neg blank]
  obtain ⟨answer, endures⟩ := bench.exists_change_endures holder fits (wreck _ _) free readable
    (StoreState.create group definition tags) fun old change offers made =>
      oldOrNew_of_create offers made _ _
  exact endures.ends steps

end Calls

end Operations

end Store

end Provision
