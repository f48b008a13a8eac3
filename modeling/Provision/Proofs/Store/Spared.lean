/-
**Machines that do not stop.**

As long as it does not stop, a machine that may stop does what a machine does that never stops:

* `Spares` says so of an operation, and `Spares.bind` goes along operations;
* **`Store.spares_create`** says so of the call that creates a resource.
-/

import Provision.Proofs.Store.Mortal
import Provision.Store.Provider

namespace Provision

/-- Unless it is stopped, an operation does what another does that cannot be stopped. -/
def Spares {α : Type} (operation : OptionT (StateM Mortal) α) (whole : StateM Ticking α) : Prop :=
  ∀ ⦃ticking : Ticking⦄ ⦃steps : Nat⦄ ⦃answer : α⦄ ⦃later : Mortal⦄,
    operation ⟨ticking, steps⟩ = (some answer, later) → whole ticking = (answer, later.ticking)

section Rules

variable {ε α β : Type}

theorem spares_pure (value : α) : Spares (pure value) (pure value) := by
  intro ticking steps answer later same
  cases same
  rfl

theorem Spares.bind {first : OptionT (StateM Mortal) α} {next : α → OptionT (StateM Mortal) β}
    {first' : StateM Ticking α} {next' : α → StateM Ticking β} (spares : Spares first first')
    (spares' : ∀ value, Spares (next value) (next' value)) :
    Spares (first >>= next) (first' >>= next') := by
  intro ticking steps answer later same
  rw [Mortal.bind_apply] at same
  rcases ended : first ⟨ticking, steps⟩ with ⟨found | found, middle⟩
  · rw [ended] at same
    cases same
  · rw [ended] at same
    rw [Provision.bind_apply, spares ended]
    exact spares' found same

theorem Spares.bindExcept {first : ExceptT ε (OptionT (StateM Mortal)) α}
    {next : α → ExceptT ε (OptionT (StateM Mortal)) β} {first' : ExceptT ε (StateM Ticking) α}
    {next' : α → ExceptT ε (StateM Ticking) β} (spares : Spares (α := Except ε α) first first')
    (spares' : ∀ value, Spares (α := Except ε β) (next value) (next' value)) :
    Spares (α := Except ε β) (first >>= next : ExceptT ε (OptionT (StateM Mortal)) β)
      (first' >>= next' : ExceptT ε (StateM Ticking) β) := by
  have behind (answer : Except ε α) :
      Spares (α := Except ε β) (ExceptT.bindCont next answer) (ExceptT.bindCont next' answer) := by
    cases answer with
    | ok value => exact spares' value
    | error error => exact spares_pure _
  exact spares.bind behind

theorem Spares.lift {operation : OptionT (StateM Mortal) α} {whole : StateM Ticking α}
    (spares : Spares operation whole) :
    Spares (α := Except ε α) (liftM operation : ExceptT ε (OptionT (StateM Mortal)) α)
      (liftM whole : ExceptT ε (StateM Ticking) α) :=
  spares.bind fun value => spares_pure (Except.ok value)

theorem spares_looking (operation : StateM Ticking α) : Spares (Mortal.looking operation) operation := by
  intro ticking steps answer later same
  cases same
  rfl

theorem spares_atOnce (operation : StateM Ticking α) : Spares (Mortal.atOnce operation) operation := by
  intro ticking steps answer later same
  cases steps <;> cases same
  rfl

theorem spares_bytewise (path : String) (operation : StateM Ticking (FileAnswer Unit)) :
    Spares (Mortal.bytewise path operation) operation := by
  intro ticking steps answer later same
  cases steps with
  | zero => cases same
  | succ steps =>
      unfold Mortal.bytewise OptionT.mk at same
      rcases outcome : operation ticking with ⟨error | ⟨⟩, done⟩
      · simp only [outcome] at same
        cases same
        rfl
      · simp only [outcome] at same
        split at same <;> cases same
        rfl

end Rules

/-! ### Calls -/

variable (holder path : String)

theorem Disk.spares_settleDirectory (answer : FileAnswer Unit) :
    Spares (Mortal.disk.settleDirectory path answer) (Ticking.disk.settleDirectory path answer) := by
  cases answer with
  | ok => exact spares_pure _
  | error error =>
      refine (spares_looking (Ticking.disk.isDirectory path)).bind fun isThere => ?_
      cases isThere <;> exact spares_pure _

theorem Disk.spares_makeDirectoriesFrom (paths : List String) :
    Spares (Mortal.disk.makeDirectoriesFrom paths) (Ticking.disk.makeDirectoriesFrom paths) := by
  induction paths with
  | nil => exact spares_pure _
  | cons path parents hyp =>
      have make := spares_atOnce (Ticking.disk.makeDirectory path)
      unfold Disk.makeDirectoriesFrom
      split
      · exact spares_pure _
      refine make.bind fun answer => ?_
      split
      · refine hyp.bind fun answer => ?_
        split
        · exact spares_pure _
        · exact make.bind (spares_settleDirectory path)
      · exact spares_settleDirectory path _

theorem Host.spares_clear :
    Spares ((Mortal.host holder).clear path) ((Ticking.host holder).clear path) := by
  refine (spares_atOnce (Ticking.disk.remove path)).bind fun answer => ?_
  split <;> exact spares_pure _

namespace Store

variable (store : Store)

theorem spares_step {α : Type} {operation : OptionT (StateM Mortal) (FileAnswer α)}
    {whole : StateM Ticking (FileAnswer α)} (spares : Spares operation whole) :
    Spares (α := Except StoreError α) (step operation) (step whole) := by
  refine Spares.bind spares fun answer => ?_
  split <;> exact spares_pure _

theorem spares_toCloud {α : Type} {operation : OptionT (StateM Mortal) (Except StoreError α)}
    {whole : StateM Ticking (Except StoreError α)} (spares : Spares operation whole) :
    Spares (α := Except CloudError α) (toCloud operation) (toCloud whole) := by
  refine Spares.bind spares fun answer => ?_
  split <;> exact spares_pure _

theorem spares_lockInfo (bytes : Bytes) :
    Spares (store.lockInfo (Mortal.host holder) bytes) (store.lockInfo (Ticking.host holder) bytes) := by
  unfold lockInfo
  split
  · exact spares_pure _
  split
  · exact spares_pure _
  refine (spares_looking (Ticking.disk.modified store.lockPath)).bind fun answer => ?_
  split <;> exact spares_pure _

theorem spares_clearLock :
    Spares (store.clearLock (Mortal.host holder)) (store.clearLock (Ticking.host holder)) := by
  refine (spares_looking (Ticking.disk.read store.lockPath)).bind fun answer => ?_
  split
  · exact spares_pure _
  · exact spares_pure _
  refine (spares_lockInfo holder store _).bind fun answer => ?_
  split
  · exact spares_pure _
  · exact spares_pure _
  refine (spares_looking Ticking.now).bind fun now => ?_
  split
  · exact Host.spares_clear holder _
  · exact spares_pure _

theorem spares_writeLock :
    Spares (store.writeLock (Mortal.host holder)) (store.writeLock (Ticking.host holder)) := by
  refine (spares_looking Ticking.now).bind fun now => ?_
  refine (spares_bytewise store.lockPath (Ticking.disk.create store.lockPath _)).bind fun answer => ?_
  split <;> exact spares_pure _

theorem spares_acquire :
    Spares (α := Except StoreError Lock) (store.acquire (Mortal.host holder))
      (store.acquire (Ticking.host holder)) :=
  (spares_step (Disk.spares_makeDirectoriesFrom _)).bindExcept fun _ =>
    Spares.bindExcept (spares_clearLock holder store) fun _ => spares_writeLock holder store

theorem spares_load :
    Spares (store.load (Mortal.host holder)) (store.load (Ticking.host holder)) := by
  refine (spares_looking (Ticking.disk.read store.statePath)).bind fun answer => ?_
  split
  · exact spares_pure _
  · exact (spares_looking Ticking.now).bind fun now => spares_pure _
  · exact spares_pure _

theorem spares_save (state : StoreState) :
    Spares (α := Except StoreError Unit) (store.save (Mortal.host holder) state)
      (store.save (Ticking.host holder) state) := by
  have last := spares_step (spares_atOnce (Ticking.disk.rename store.scratchPath store.statePath))
  refine (spares_step (Disk.spares_makeDirectoriesFrom _)).bindExcept fun _ => ?_
  refine (spares_step (spares_bytewise _ (Ticking.disk.write _ _))).bindExcept fun _ => ?_
  refine (spares_step (spares_looking (Ticking.disk.exists? store.statePath))).bindExcept fun kept => ?_
  cases kept with
  | false => exact last
  | true =>
      refine (spares_step (spares_bytewise _
        (Ticking.disk.copy store.statePath store.backupPath))).bindExcept fun _ => ?_
      exact last

variable {α : Type} (edit : StoreState.Edit α)

theorem spares_update :
    Spares (α := Answer α) (store.update (Mortal.host holder) edit)
      (store.update (Ticking.host holder) edit) := by
  refine (spares_toCloud (spares_load holder store)).bindExcept fun state => ?_
  refine Spares.bindExcept (spares_pure (edit state)) fun change => ?_
  refine Spares.bindExcept (spares_looking Ticking.now).lift fun created => ?_
  refine Spares.bindExcept (spares_looking Ticking.now).lift fun updated => ?_
  refine (spares_toCloud (spares_save holder store (change created updated).2)).bindExcept fun _ => ?_
  exact spares_pure _

theorem spares_change :
    Spares (store.change (Mortal.host holder) edit) (store.change (Ticking.host holder) edit) := by
  refine Spares.bind (spares_acquire holder store) fun acquired => ?_
  cases acquired with
  | error error => exact spares_pure _
  | ok lock =>
      refine Spares.bind (spares_update holder store edit) fun updated => ?_
      cases updated with
      | error error =>
          refine Spares.bind (Spares.bind (Host.spares_clear holder _) fun _ => spares_pure _) fun _ => ?_
          exact spares_pure _
      | ok value =>
          refine (Host.spares_clear holder _).bind fun released => ?_
          split <;> exact spares_pure _

/-- **Unless it is stopped, a call that creates a resource** is as on a machine that never stops. -/
theorem spares_create (group : ResourceGroup) (definition : ResourceDefinition) (tags : Tags) :
    Spares (store.create (Mortal.host holder) group definition tags)
      (store.create (Ticking.host holder) group definition tags) := by
  unfold create
  split
  · exact spares_pure _
  · exact spares_change holder store _

end Store

end Provision
