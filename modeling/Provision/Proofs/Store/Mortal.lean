/-
**Machines that stop.**

A machine on which a program runs may stop at any point. What is made or renamed or removed at once is
then done or not, while of a file that is written any beginning may be there:

* `Mortal.host` is a machine that stops after a number of steps, one for each byte that is written;
* `Endures` says of an operation in what state a machine may have stopped, and what there is if it has
  not; `Endures.bind` and its like go along operations;
* `endures_bytewise` is the rule for files that are written byte by byte.
-/

import Provision.Proofs.Store.Desk

namespace Provision

/-- A machine that stops after a number of steps. -/
structure Mortal where
  ticking : Ticking
  steps : Nat

namespace Mortal

variable {α : Type}

/-- An operation that changes no file; there is nothing to be seen of it when the machine stops. -/
def looking (operation : StateM Ticking α) : OptionT (StateM Mortal) α := OptionT.mk fun mortal =>
  (some (operation mortal.ticking).1, { mortal with ticking := (operation mortal.ticking).2 })

/-- An operation that is done in one step. -/
def atOnce (operation : StateM Ticking α) : OptionT (StateM Mortal) α := OptionT.mk fun mortal =>
  match mortal.steps with
  | 0 => (none, mortal)
  | steps + 1 => (some (operation mortal.ticking).1, ⟨(operation mortal.ticking).2, steps⟩)

/-- The machine on which only the first bytes of a file have been written. -/
def cutShort (path : String) (bytes : Bytes) (ticking : Ticking) : Ticking :=
  (Ticking.disk.write path bytes ticking).2

/-- An operation that opens a file in one step, then writes each of its bytes in another. -/
def bytewise (path : String) (operation : StateM Ticking (FileAnswer Unit)) :
    OptionT (StateM Mortal) (FileAnswer Unit) := OptionT.mk fun mortal =>
  match mortal.steps with
  | 0 => (none, mortal)
  | steps + 1 =>
    match operation mortal.ticking with
    | (.error error, later) => (some (.error error), ⟨later, steps⟩)
    | (.ok (), later) =>
      let bytes := (Ticking.disk.read path later).1.toOption.getD []
      if steps < bytes.length then (none, ⟨cutShort path (bytes.take steps) later, 0⟩)
      else (some (.ok ()), ⟨later, steps - bytes.length⟩)

/-- The operations on the files of a machine that stops. -/
def disk : Disk (OptionT (StateM Mortal)) where
  makeDirectory := fun path => atOnce (Ticking.disk.makeDirectory path)
  isDirectory := fun path => looking (Ticking.disk.isDirectory path)
  read := fun path => looking (Ticking.disk.read path)
  write := fun path bytes => bytewise path (Ticking.disk.write path bytes)
  create := fun path bytes => bytewise path (Ticking.disk.create path bytes)
  exists? := fun path => looking (Ticking.disk.exists? path)
  copy := fun source target => bytewise target (Ticking.disk.copy source target)
  rename := fun source target => atOnce (Ticking.disk.rename source target)
  remove := fun path => atOnce (Ticking.disk.remove path)
  modified := fun path => looking (Ticking.disk.modified path)

/-- A machine that stops while a program runs on it. -/
def host (holder : String) : Host (OptionT (StateM Mortal)) where
  disk := disk
  now := looking Ticking.now
  holder := holder

/-- Behind an operation goes on what comes next, unless the machine has stopped. -/
theorem bind_apply {β : Type} (first : OptionT (StateM Mortal) α) (next : α → OptionT (StateM Mortal) β)
    (mortal : Mortal) :
    (first >>= next) mortal =
      match first mortal with
      | (none, later) => (none, later)
      | (some found, later) => next found later := by
  show (match (first mortal).1 with
    | some found => next found
    | none => pure none : StateM Mortal (Option β)) (first mortal).2 = _
  rcases first mortal with ⟨found | found, later⟩ <;> rfl

end Mortal

/-- Wherever a machine stops during an operation, it is as `stopped` says. If it does not stop, the
operation answers with a value and leaves the machine as `after` says. -/
def Endures {α : Type} (operation : OptionT (StateM Mortal) α) (ticking : Ticking)
    (stopped : Ticking → Prop) (value : α) (after : Ticking → Prop) : Prop :=
  ∀ steps, match operation ⟨ticking, steps⟩ with
    | (none, later) => stopped later.ticking
    | (some answer, later) => answer = value ∧ after later.ticking

section Rules

variable {ε α β : Type} {ticking later : Ticking} {stopped middle after : Ticking → Prop}

theorem endures_pure {value : α} (fulfilled : after ticking) :
    Endures (pure value) ticking stopped value after := fun _ => ⟨rfl, fulfilled⟩

theorem Endures.mono {operation : OptionT (StateM Mortal) α} {value : α}
    (endures : Endures operation ticking stopped value middle)
    (further : ∀ later, middle later → after later) :
    Endures operation ticking stopped value after := fun steps => by
  have own := endures steps
  revert own
  rcases operation ⟨ticking, steps⟩ with ⟨answer | answer, later⟩
  · exact id
  · exact And.imp_right (further _)

/-- What holds wherever a machine stops and also when it does not holds in the end. -/
theorem Endures.ends {operation : OptionT (StateM Mortal) α} {value : α}
    (endures : Endures operation ticking stopped value stopped) (steps : Nat) :
    stopped (operation ⟨ticking, steps⟩).2.ticking := by
  have own := endures steps
  revert own
  rcases operation ⟨ticking, steps⟩ with ⟨answer | answer, later⟩
  · exact id
  · exact And.right

/-- **One operation behind another.** -/
theorem Endures.bind {first : OptionT (StateM Mortal) α} {next : α → OptionT (StateM Mortal) β}
    {found : α} {value : β} (one : Endures first ticking stopped found middle)
    (two : ∀ later, middle later → Endures (next found) later stopped value after) :
    Endures (first >>= next) ticking stopped value after := fun steps => by
  have own := one steps
  rw [Mortal.bind_apply]
  revert own
  rcases first ⟨ticking, steps⟩ with ⟨answer | answer, later⟩
  · exact id
  · rintro ⟨rfl, arrived⟩
    exact two _ arrived _

/-- Behind an operation that succeeds goes on what comes next. -/
theorem Endures.bindOk {first : ExceptT ε (OptionT (StateM Mortal)) α}
    {next : α → ExceptT ε (OptionT (StateM Mortal)) β} {found : α} {value : Except ε β}
    (one : Endures (α := Except ε α) first ticking stopped (.ok found) middle)
    (two : ∀ later, middle later → Endures (α := Except ε β) (next found) later stopped value after) :
    Endures (α := Except ε β) (first >>= next : ExceptT ε (OptionT (StateM Mortal)) β) ticking stopped
      value after :=
  Endures.bind one two

/-- An operation that fails is the last one. -/
theorem Endures.bindError {first : ExceptT ε (OptionT (StateM Mortal)) α}
    (next : α → ExceptT ε (OptionT (StateM Mortal)) β) {error : ε}
    (one : Endures (α := Except ε α) first ticking stopped (.error error) after) :
    Endures (α := Except ε β) (first >>= next : ExceptT ε (OptionT (StateM Mortal)) β) ticking stopped
      (.error error) after :=
  Endures.bind one fun _ fulfilled => endures_pure fulfilled

/-- Behind an operation that cannot fail goes on what comes next. -/
theorem Endures.bindLift {first : OptionT (StateM Mortal) α}
    {next : α → ExceptT ε (OptionT (StateM Mortal)) β} {found : α} {value : Except ε β}
    (one : Endures first ticking stopped found middle)
    (two : ∀ later, middle later → Endures (α := Except ε β) (next found) later stopped value after) :
    Endures (α := Except ε β)
      ((liftM first : ExceptT ε (OptionT (StateM Mortal)) α) >>= next :
        ExceptT ε (OptionT (StateM Mortal)) β) ticking stopped value after := by
  have lifted : Endures (α := Except ε α) (liftM first : ExceptT ε (OptionT (StateM Mortal)) α) ticking
      stopped (.ok found) middle := by
    show Endures (first >>= fun answer => pure (Except.ok answer)) ticking stopped _ middle
    exact one.bind fun _ arrived => endures_pure arrived
  exact lifted.bindOk two

theorem endures_looking {operation : StateM Ticking α} {value : α}
    (answer : operation ticking = (value, later)) (fulfilled : after later) :
    Endures (Mortal.looking operation) ticking stopped value after := fun steps => by
  show (operation ticking).1 = value ∧ after (operation ticking).2
  rw [answer]
  exact ⟨rfl, fulfilled⟩

theorem endures_atOnce {operation : StateM Ticking α} {value : α}
    (answer : operation ticking = (value, later)) (before : stopped ticking)
    (fulfilled : after later) :
    Endures (Mortal.atOnce operation) ticking stopped value after := fun steps => by
  cases steps with
  | zero => exact before
  | succ steps =>
      show (operation ticking).1 = value ∧ after (operation ticking).2
      rw [answer]
      exact ⟨rfl, fulfilled⟩

/-- **While a file is written**, the machine may stop before, or when any of the first bytes are
there. -/
theorem endures_bytewise {operation : StateM Ticking (FileAnswer Unit)} {path : String} {bytes : Bytes}
    (answer : operation ticking = (.ok (), later))
    (written : (Ticking.disk.read path later).1 = .ok bytes) (before : stopped ticking)
    (partly : ∀ count, stopped (Mortal.cutShort path (bytes.take count) later))
    (fulfilled : after later) :
    Endures (Mortal.bytewise path operation) ticking stopped (.ok ()) after := fun steps => by
  cases steps with
  | zero => exact before
  | succ steps =>
      have same : Mortal.bytewise path operation ⟨ticking, steps + 1⟩ =
          if steps < bytes.length then
            (none, ⟨Mortal.cutShort path (bytes.take steps) later, 0⟩)
          else (some (.ok ()), ⟨later, steps - bytes.length⟩) := by
        unfold Mortal.bytewise OptionT.mk
        simp only [answer, written]
        rfl
      rw [same]
      by_cases early : steps < bytes.length
      · rw [if_pos early]
        exact partly steps
      · rw [if_neg early]
        exact ⟨rfl, fulfilled⟩

end Rules

end Provision
