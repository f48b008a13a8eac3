/-
**Saving a state.**

A state is written beside the old one, whose contents become the backup, and takes its name at the end.
What is in the way stops the operation before that:

* `Store.Accepts` says which directories take a state, and `rotated` what a save makes of one;
* `Store.save_cases`: a save does just that, or nothing has changed but the scratch file;
* `Store.Saves` are runs of saves while nobody else writes, and `Kept` is what they keep;
* **`saves_are_atomic`** puts this together.
-/

import Provision.Proofs.Store.Contents

namespace Provision

open FileTree

namespace Store

/-! ### One save -/

section Parts

variable {m : Type → Type} [Monad m]

/-- What is done for a save in a directory that is there. -/
def replaceState (store : Store) (host : Host m) (state : StoreState) : ExceptT StoreError m Unit := do
  step (host.disk.write store.scratchPath (Document.toBytes state))
  if ← step (host.disk.exists? store.statePath) then
    step (host.disk.copy store.statePath store.backupPath)
  step (host.disk.rename store.scratchPath store.statePath)

theorem save_eq (store : Store) (host : Host m) (state : StoreState) :
    store.save host state =
      (do step (host.disk.makeDirectories store.directory); store.replaceState host state) := rfl

end Parts

/-- A directory that takes a state: nothing but files stands where files are put, and their paths are not
too long. There is no backup without a state. -/
structure Accepts (store : Store) (entries : String → Option Entry) : Prop where
  scratch : FileTree.Fits store.directory scratchName ∧ Entry.Yields (entries scratchName)
  state : FileTree.Fits store.directory stateName ∧ Entry.Yields (entries stateName)
  backup : entries stateName = none ∨
    FileTree.Fits store.directory backupName ∧ Entry.Yields (entries backupName)

/-- The entries after a save. -/
def rotated (entries : String → Option Entry) (bytes : Bytes) (now : Instant) (name : String) :
    Option Entry :=
  if name = stateName then some (.file bytes now)
  else if name = scratchName then none
  else if name = backupName then
    match entries stateName with
    | some (.file old _) => some (.file old now)
    | _ => entries backupName
  else entries name

variable {store : Store} {shows : Instant → Prop} {route : Route} {entries : String → Option Entry}
  {ticking : Ticking} (holder : String)

theorem rotated_eq_of_none {bytes : Bytes} {now : Instant} (missing : entries stateName = none) :
    Function.update (Function.update (Function.update entries scratchName (some (.file bytes now)))
      scratchName none) stateName (some (.file bytes now)) = rotated entries bytes now := by
  funext name
  simp only [Function.update_apply, rotated, missing]
  grind

theorem rotated_eq_of_file {bytes old : Bytes} {now modified : Instant}
    (known : entries stateName = some (.file old modified)) :
    Function.update (Function.update (Function.update
      (Function.update entries scratchName (some (.file bytes now))) backupName (some (.file old now)))
      scratchName none) stateName (some (.file bytes now)) = rotated entries bytes now := by
  funext name
  simp only [Function.update_apply, rotated, known]
  grind

theorem step_apply_error {σ α : Type} {operation : StateM σ (FileAnswer α)} {state later : σ}
    {error : FileError} (answer : operation state = (.error error, later)) :
    step operation state = (.error (.file error), later) := by
  unfold step
  show (operation >>= _) state = _
  rw [bind_apply, answer]
  rfl

section Replacing

variable (contains : store.Contains shows route entries ticking) (state : StoreState)

include contains

/-- The scratch file is written first, and nothing else. -/
theorem write_scratch_apply
    (scratch : FileTree.Fits store.directory scratchName ∧ Entry.Yields (entries scratchName)) :
    ∃ middle written,
      (Ticking.host holder).disk.write store.scratchPath (Document.toBytes state) ticking =
        (.ok (), written) ∧ written.machine.now = ticking.machine.now ∧
      store.Contains shows route middle written ∧
      middle = Function.update entries scratchName
        (some (.file (Document.toBytes state) ticking.machine.now)) ∧
      ∀ name, name ≠ scratchName → middle name = entries name := by
  obtain ⟨-, written, write, time, contains⟩ :=
    (contains.write_cases holder (by decide) (Document.toBytes state)).resolve_right
      fun not => not.1 scratch
  exact ⟨_, written, write, time, contains, rfl, fun name apart => Function.update_of_ne apart _ _⟩

/-- **A directory that takes a state** holds it from now on, and the old one as the backup. -/
theorem replaceState_of_accepts (accepts : store.Accepts entries) :
    ∃ later, store.replaceState (Ticking.host holder) state ticking = (.ok (), later) ∧
      store.Contains shows route (rotated entries (Document.toBytes state) ticking.machine.now)
        later := by
  have scratchMem : scratchName ∈ fileNames := by decide
  have stateMem : stateName ∈ fileNames := by decide
  obtain ⟨middle, written, write, time, contains, rfl, spared⟩ :=
    write_scratch_apply holder contains state accepts.scratch
  have stateSpared := spared stateName (by decide)
  have exist := ((contains.exists?_cases holder stateMem).resolve_right
    fun not => not.1 accepts.state.1).2
  rw [stateSpared] at exist
  unfold replaceState
  match known : entries stateName with
  | none =>
      rw [known] at exist
      obtain ⟨later, rename, contains⟩ := contains.rename_apply holder scratchMem stateMem (by decide)
        accepts.scratch.1 accepts.state.1 (Function.update_self _ _ _) (stateSpared ▸ accepts.state.2)
      rw [rotated_eq_of_none known] at contains
      refine ⟨later, ?_, contains⟩
      refine (ok_bind_apply (step_apply write) _).trans ?_
      refine (ok_bind_apply (step_apply exist) _).trans ?_
      exact step_apply rename
  | some (.file old modified) =>
      rw [known] at exist
      obtain ⟨fits, yields⟩ := accepts.backup.resolve_left (by rw [known]; exact nofun)
      have backupSpared := spared backupName (by decide)
      rcases contains.copy_cases holder stateMem backup_mem (by decide) with
        ⟨bytes, stamp, copied, file, -, copy, -, contains⟩ | ⟨not, -⟩
      rotate_left
      · exact absurd ⟨⟨old, modified, stateSpared.trans known⟩, accepts.state.1, fits,
          backupSpared ▸ yields⟩ not
      cases file.symm.trans (stateSpared.trans known)
      rw [time] at contains
      have stateSpared' := (Function.update_of_ne (show stateName ≠ backupName by decide)
        (some (.file old ticking.machine.now)) _).trans stateSpared
      obtain ⟨later, rename, contains⟩ := contains.rename_apply holder scratchMem stateMem (by decide)
        accepts.scratch.1 accepts.state.1
        ((Function.update_of_ne (by decide) _ _).trans (Function.update_self _ _ _))
        (stateSpared' ▸ accepts.state.2)
      rw [rotated_eq_of_file known] at contains
      refine ⟨later, ?_, contains⟩
      refine (ok_bind_apply (step_apply write) _).trans ?_
      refine (ok_bind_apply (step_apply exist) _).trans ?_
      refine (ok_bind_apply (step_apply copy) _).trans ?_
      exact step_apply rename
  | some .directory => exact absurd known accepts.state.2.ne_directory
  | some (.link target) => exact absurd known (contains.noLink stateName stateMem target)

/-- **A directory that does not take a state** keeps its files, up to the scratch file. -/
theorem replaceState_of_not_accepts (refuses : ¬store.Accepts entries) :
    ∃ error after later, store.replaceState (Ticking.host holder) state ticking = (.error error, later) ∧
      store.Contains shows route after later ∧
      ∀ name, name ≠ scratchName → after name = entries name := by
  have stateMem : stateName ∈ fileNames := by decide
  unfold replaceState
  by_cases scratch : FileTree.Fits store.directory scratchName ∧ Entry.Yields (entries scratchName)
  rotate_left
  · obtain ⟨error, failed⟩ := ((contains.write_cases holder (by decide)
      (Document.toBytes state)).resolve_left fun done => scratch done.1).2
    exact ⟨_, entries, ticking, error_bind_apply (step_apply_error failed) _, contains, fun _ _ => rfl⟩
  obtain ⟨middle, written, write, time, contains, -, spared⟩ :=
    write_scratch_apply holder contains state scratch
  have stateSpared := spared stateName (by decide)
  rcases contains.exists?_cases holder stateMem with ⟨fits, exist⟩ | ⟨-, error, failed⟩
  rotate_left
  · refine ⟨.file error, middle, written, ?_, contains, spared⟩
    exact (ok_bind_apply (step_apply write) _).trans (error_bind_apply (step_apply_error failed) _)
  have there : entries stateName ≠ none := fun missing =>
    refuses ⟨scratch, ⟨fits, missing ▸ trivial⟩, .inl missing⟩
  rw [stateSpared, Option.isSome_iff_ne_none.mpr there] at exist
  obtain ⟨error, failed⟩ := ((contains.copy_cases holder stateMem backup_mem (by decide)).resolve_left
    fun ⟨bytes, modified, later, file, ⟨_, fits', yields⟩, _⟩ => by
      rw [stateSpared] at file
      rw [spared backupName (by decide)] at yields
      exact refuses ⟨scratch, ⟨fits, file ▸ trivial⟩, .inr ⟨fits', yields⟩⟩).2
  refine ⟨.file error, middle, written, ?_, contains, spared⟩
  refine (ok_bind_apply (step_apply write) _).trans ?_
  refine (ok_bind_apply (step_apply exist) _).trans ?_
  exact error_bind_apply (step_apply_error failed) _

end Replacing

/-- **A state is saved where the directory can be made and takes it.** Otherwise no file of the store has
changed but the scratch file, and those through which the path of the directory runs. -/
theorem save_cases (placed : store.Placed shows route ticking) (state : StoreState) :
    (∃ entries later, store.save (Ticking.host holder) state ticking = (.ok (), later) ∧
        store.Accepts entries ∧ (∀ name, store.Leaves route ticking name (entries name)) ∧
        store.Contains shows route (rotated entries (Document.toBytes state) ticking.machine.now)
          later) ∨
      (∀ opened, Ticking.disk.makeDirectories store.directory ticking = (.ok (), opened) →
        ¬store.Accepts (opened.entries route)) ∧
        ∃ error later, store.save (Ticking.host holder) state ticking = (.error error, later) ∧
          ∀ name, name ≠ scratchName →
            store.Leaves route ticking name (later.entries route name) := by
  rw [save_eq]
  rcases placed.makeDirectories_cases with
    ⟨entries, tree, made, contains, leaves⟩ | ⟨error, tree, failed, leaves⟩
  · have behind := ok_bind_apply (step_apply made)
      fun _ => store.replaceState (Ticking.host holder) state
    by_cases accepts : store.Accepts entries
    · obtain ⟨later, done, contains⟩ := replaceState_of_accepts holder contains state accepts
      exact .inl ⟨entries, later, behind.trans done, accepts, leaves, contains⟩
    · obtain ⟨error, after, later, failed, contains', spared⟩ :=
        replaceState_of_not_accepts holder contains state accepts
      refine .inr ⟨fun opened made' => ?_, error, later, behind.trans failed, fun name apart => ?_⟩
      · cases made.symm.trans made'
        rwa [contains.entries_eq]
      · rw [contains'.entries_eq, spared name apart]
        exact leaves name
  · refine .inr ⟨fun other made => ?_, .file error, _, ?_, fun name _ => leaves name⟩
    · cases failed.symm.trans made
    · exact error_bind_apply (step_apply_error failed) _

/-- What a save has made of the files of a store. -/
structure Rotates (before after : String → Option Entry) (bytes : Bytes) : Prop where
  state : ∃ written, after stateName = some (.file bytes written)
  scratch : after scratchName = none
  /-- The old state is the backup from now on. -/
  backup : ∀ old modified, before stateName = some (.file old modified) →
    ∃ copied, after backupName = some (.file old copied)
  /-- Where there was no state the backup stays. -/
  spared : before stateName = none → after backupName = before backupName
  /-- The old state was no directory. -/
  yields : Entry.Yields (before stateName)

theorem rotated_backupName (bytes : Bytes) (now : Instant) : rotated entries bytes now backupName =
    match entries stateName with
    | some (.file old _) => some (.file old now)
    | _ => entries backupName := rfl

theorem rotates_rotated (bytes : Bytes) (now : Instant) (yields : Entry.Yields (entries stateName)) :
    Rotates entries (rotated entries bytes now) bytes where
  state := ⟨now, rfl⟩
  scratch := rfl
  backup := fun old modified known => ⟨now, by rw [rotated_backupName, known]⟩
  spared := fun missing => by rw [rotated_backupName, missing]
  yields := yields

theorem exists_save (placed : store.Placed shows route ticking) {opened : Ticking}
    (made : Ticking.disk.makeDirectories store.directory ticking = (.ok (), opened))
    (accepts : store.Accepts (opened.entries route)) (state : StoreState) :
    ∃ later, store.save (Ticking.host holder) state ticking = (.ok (), later) := by
  rcases save_cases holder placed state with ⟨-, later, saved, -⟩ | ⟨refuses, -⟩
  · exact ⟨later, saved⟩
  · exact absurd accepts (refuses opened made)

/-- **What a save that succeeds has made of the files.** -/
theorem rotates_of_save (placed : store.Placed shows route ticking)
    (apart : ¬store.RunsThrough route ticking backupName) {state : StoreState} {later : Ticking}
    (saved : store.save (Ticking.host holder) state ticking = (.ok (), later)) :
    Rotates (ticking.entries route) (later.entries route) (Document.toBytes state) ∧
      store.Leads route later ∧ store.Placed shows route later := by
  rcases save_cases holder placed state with
    ⟨entries, other, saved', accepts, leaves, contains⟩ | ⟨-, error, other, failed, -⟩
  · cases saved.symm.trans saved'
    have same := (leaves stateName).eq_of_ne_directory accepts.state.2.ne_directory
    have same' := (leaves backupName).eq apart
    have rotates :=
      rotates_rotated (Document.toBytes state) ticking.machine.now accepts.state.2
    rw [← contains.entries_eq] at rotates
    have leads := contains.leads accepts.state.1
    refine ⟨⟨rotates.state, rotates.scratch, same ▸ rotates.backup, ?_, same ▸ rotates.yields⟩, leads,
      .of_leads leads (contains.entries_eq ▸ contains.noLink) contains.times⟩
    rw [← same, ← same']
    exact rotates.spared
  · cases saved.symm.trans failed

/-- A directory that has taken a state takes the next one. -/
theorem Rotates.accepts {before after : String → Option Entry} {bytes : Bytes}
    (rotates : Rotates before after bytes) (fits : store.Fits)
    (yields : Entry.Yields (before backupName)) : store.Accepts after where
  scratch := ⟨fits.file scratchName (by decide), by rw [rotates.scratch]; trivial⟩
  state := by
    obtain ⟨written, held⟩ := rotates.state
    exact ⟨fits.file stateName (by decide), by rw [held]; trivial⟩
  backup := by
    refine .inr ⟨fits.file backupName backup_mem, ?_⟩
    match known : before stateName with
    | none =>
        rw [rotates.spared known]
        exact yields
    | some (.file old modified) =>
        obtain ⟨copied, held⟩ := rotates.backup old modified known
        rw [held]
        trivial
    | some .directory | some (.link target) =>
        have yields := rotates.yields
        rw [known] at yields
        exact yields.elim

/-! ### Several saves -/

/-- States are saved one after the other, the last one of the list first. In between time may pass, but
nobody changes the files. -/
inductive Saves (store : Store) : List StoreState → Ticking → Ticking → Prop
  | none (ticking : Ticking) : Saves store [] ticking ticking
  | wait {states : List StoreState} {ticking middle later : Ticking}
      (saves : Saves store states ticking middle) (tree : later.machine.tree = middle.machine.tree)
      (directory : later.machine.directory = middle.machine.directory) :
      Saves store states ticking later
  | save {states : List StoreState} {ticking middle later : Ticking} (holder : String)
      (state : StoreState) (saves : Saves store states ticking middle)
      (saved : store.save (Ticking.host holder) state middle = (.ok (), later)) :
      Saves store (state :: states) ticking later

/-- Whether an entry is a file with a state. -/
def Holds (entry : Option Entry) (state : StoreState) : Prop :=
  ∃ modified, entry = some (.file (Document.toBytes state) modified)

/-- What holds after states have been saved: the last one is in the state file, the one before is the
backup. -/
structure Kept (store : Store) (route : Route) (states : List StoreState) (ticking : Ticking) :
    Prop where
  placed : store.Placed (fun _ => True) route ticking
  apart : ¬store.RunsThrough route ticking backupName
  last : ∀ state earlier, states = state :: earlier → Holds (ticking.entries route stateName) state
  previous : ∀ state old earlier, states = state :: old :: earlier →
    Holds (ticking.entries route backupName) old

/-- **Another save keeps the state before it.** -/
theorem Kept.save {states : List StoreState} {state : StoreState} {later : Ticking}
    (kept : store.Kept route states ticking)
    (saved : store.save (Ticking.host holder) state ticking = (.ok (), later)) :
    store.Kept route (state :: states) later := by
  obtain ⟨rotates, leads, placed⟩ := rotates_of_save holder kept.placed kept.apart saved
  refine ⟨placed, leads.not_runsThrough _, fun other earlier same => ?_,
    fun other old earlier same => ?_⟩
  · obtain ⟨rfl, rfl⟩ := List.cons.inj same
    exact rotates.state
  · obtain ⟨rfl, rest⟩ := List.cons.inj same
    obtain ⟨modified, held⟩ := kept.last old earlier rest
    exact rotates.backup _ modified held

theorem Kept.saves {states : List StoreState} {later : Ticking}
    (placed : store.Placed (fun _ => True) route ticking)
    (apart : ¬store.RunsThrough route ticking backupName) (saves : store.Saves states ticking later) :
    store.Kept route states later := by
  induction saves with
  | none ticking => exact ⟨placed, apart, fun _ _ => nofun, fun _ _ _ => nofun⟩
  | wait saves tree directory hyp =>
      obtain ⟨placed, apart, last, previous⟩ := hyp placed apart
      refine ⟨placed.of_tree tree directory fun _ => trivial,
        fun through => apart (runsThrough_of_tree tree directory through), ?_, ?_⟩
      · unfold Ticking.entries at last ⊢
        rw [tree]
        exact last
      · unfold Ticking.entries at previous ⊢
        rw [tree]
        exact previous
  | save holder state saves saved hyp => exact (hyp placed apart).save holder saved

end Store

/-- **Saving a state is atomic.** Whatever the files of a store are, as long as they are no links, and
whatever the state; the directory is there, or it can be made without making one of the state file or of
the backup. A save that fails leaves the state file alone. One that succeeds has put the state into it,
has left no scratch file, and has made the old contents the backup; where there was no state file the
backup is as it was. Hence, after any run of two or more saves that succeed while nobody else writes, the
state file holds the last state and the backup the one before. -/
theorem saves_are_atomic (store : Store) (holder : String) (route : Route) (ticking : Ticking)
    (placed : store.Placed (fun _ => True) route ticking)
    (apart : ∀ name ∈ [Store.stateName, Store.backupName], ¬store.RunsThrough route ticking name) :
    (∀ state error later, store.save (Ticking.host holder) state ticking = (.error error, later) →
      later.entries route Store.stateName = ticking.entries route Store.stateName) ∧
    (∀ state later, store.save (Ticking.host holder) state ticking = (.ok (), later) →
      Store.Rotates (ticking.entries route) (later.entries route) (Document.toBytes state)) ∧
    ∀ last previous earlier later, store.Saves (last :: previous :: earlier) ticking later →
      Store.Holds (later.entries route Store.stateName) last ∧
        Store.Holds (later.entries route Store.backupName) previous := by
  have stateApart := apart Store.stateName (by decide)
  have backupApart := apart Store.backupName (by decide)
  refine ⟨fun state error later failed => ?_, fun state later saved => ?_,
    fun last previous earlier later saves => ?_⟩
  · rcases Store.save_cases holder placed state with
      ⟨-, other, saved, -⟩ | ⟨-, other, after, failed', leaves⟩
    · cases failed.symm.trans saved
    · cases failed.symm.trans failed'
      exact (leaves Store.stateName (by decide)).eq stateApart
  · exact (Store.rotates_of_save holder placed backupApart saved).1
  · have kept := Store.Kept.saves placed backupApart saves
    exact ⟨kept.last last _ rfl, kept.previous last previous earlier rfl⟩

theorem depotOpened_accepts : Store.Accepts ⟨"state"⟩ (depotOpened.entries ["state"]) where
  scratch := ⟨depotMachine_ready.fits.file _ (by decide), trivial⟩
  state := ⟨depotMachine_ready.fits.file _ (by decide), trivial⟩
  backup := .inl rfl

/-- On a machine without any files two states are saved. -/
theorem depot_saves_are_atomic :
    Store.Placed ⟨"state"⟩ (fun _ => True) ["state"] depotMachine ∧
      (∀ name ∈ [Store.stateName, Store.backupName],
        ¬Store.RunsThrough ⟨"state"⟩ ["state"] depotMachine name) ∧
      ∃ later, Store.Saves ⟨"state"⟩ [.fresh ⟨1, 0⟩, .fresh ⟨0, 0⟩] depotMachine later ∧
        Store.Holds (later.entries ["state"] Store.stateName) (.fresh ⟨1, 0⟩) ∧
        Store.Holds (later.entries ["state"] Store.backupName) (.fresh ⟨0, 0⟩) := by
  have ready := depotMachine_ready
  have placed := depotMachine_placed
  have apart (name : String) (member : name ∈ [Store.stateName, Store.backupName]) :
      ¬Store.RunsThrough ⟨"state"⟩ ["state"] depotMachine name := by
    have named : ∀ name ∈ [Store.stateName, Store.backupName],
        name ∈ Store.fileNames ∧ name ∉ Path.segments "state" := by decide
    exact Store.not_runsThrough_of_segments (named name member).1 (named name member).2
  obtain ⟨middle, first⟩ :=
    Store.exists_save "holder" placed ready.made depotOpened_accepts (.fresh ⟨0, 0⟩)
  obtain ⟨rotates, leads, placed'⟩ :=
    Store.rotates_of_save "holder" placed (apart Store.backupName (by decide)) first
  obtain ⟨later, second⟩ := Store.exists_save "holder" placed' leads.makeDirectories_apply
    (rotates.accepts ready.fits trivial) (.fresh ⟨1, 0⟩)
  have saves : Store.Saves ⟨"state"⟩ [.fresh ⟨1, 0⟩, .fresh ⟨0, 0⟩] depotMachine later :=
    .save "holder" _ (.save "holder" _ (.none _) first) second
  exact ⟨placed, apart, later, saves, (saves_are_atomic ⟨"state"⟩ "holder" ["state"] depotMachine placed
    apart).2.2 _ _ _ _ saves⟩

end Provision
