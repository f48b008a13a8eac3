/-
**Who holds the lock of a store.**

Programs take the lock of a store and give it back, one call at a time, while the clock moves on as it
likes. A lock that is an hour old may be taken over, and whoever ends removes the lock file, even if it
is that of a successor:

* `Guard` is somebody who has taken the lock, `Custody` are all of them in order;
* `Custody.call` is one call of a program or one move of the clock, `Custody.Orderly` says that no
  guard ends while a later one is live;
* `Custody.Sound` is the invariant, that a live guard is the last one and the lock file is its own;
  `Custody.Sound.call` keeps it in one orderly call, and `Custody.Sound.follow` in all of them;
* `live_guard_excludes` puts this together, and `overtaken_guard_frees_lock` shows a guard that ends
  after it was overtaken.
-/

import Provision.Proofs.Store.Locks

namespace Provision

/-- Somebody who has taken the lock of a store. -/
structure Guard where
  lock : Lock
  /-- By whom it was taken, and when. -/
  info : LockInfo
  /-- Whether it was given back since. -/
  ended : Bool := false
  deriving DecidableEq

/-- A guard that has not ended and was taken less than an hour ago. -/
structure Guard.Live (guard : Guard) (now : Instant) : Prop where
  held : guard.ended = false
  young : guard.info.since.age now < Instant.hour

instance (guard : Guard) (now : Instant) : Decidable (guard.Live now) :=
  decidable_of_iff (guard.ended = false ∧ guard.info.since.age now < Instant.hour)
    ⟨fun both => ⟨both.1, both.2⟩, fun live => ⟨live.held, live.young⟩⟩

/-- A machine, and those who have taken the lock of a store on it, in order. -/
structure Custody where
  machine : Machine
  guards : List Guard := []

namespace Custody

/-- What happens next. -/
inductive Call where
  /-- A program tries to take the lock. -/
  | acquire (holder : String)
  /-- A guard gives its lock back, and is told what has come of it. -/
  | release (index : Nat)
  /-- A guard gives its lock back, whatever comes of it. -/
  | drop (index : Nat)
  /-- The clock moves on. -/
  | wait (later : Instant) (onClock : later.OnClock)

/-- A guard ends, unless it has done so before. -/
def finish {α : Type} (give : Lock → Host (StateM Machine) → StateM Machine α) (index : Nat)
    (custody : Custody) : Custody :=
  match custody.guards[index]? with
  | some guard =>
    if guard.ended then custody
    else
      { machine := (give guard.lock (Machine.host guard.info.holder) custody.machine).2
        guards := custody.guards.set index { guard with ended := true } }
  | none => custody

/-- The custody after what happens next. The clock is not moved back. -/
def call (store : Store) : Call → Custody → Custody
  | .acquire holder, custody =>
    match store.acquire (Machine.host holder) custody.machine with
    | (.ok lock, machine) =>
      { machine := machine
        guards := custody.guards ++ [{ lock := lock, info := ⟨holder, custody.machine.now⟩ }] }
    | (.error _, machine) => { custody with machine := machine }
  | .release index, custody => custody.finish Lock.release index
  | .drop index, custody => custody.finish Lock.abandon index
  | .wait later _, custody =>
    if custody.machine.now.total ≤ later.total then
      { custody with machine := { custody.machine with now := later } }
    else custody

/-- The custody after several calls. -/
def follow (store : Store) (calls : List Call) (custody : Custody) : Custody :=
  calls.foldl (fun custody next => custody.call store next) custody

/-- No guard ends while a later one is live. -/
def Permits (custody : Custody) : Call → Prop
  | .release index | .drop index =>
    ∀ guard ∈ custody.guards.drop (index + 1), ¬guard.Live custody.machine.now
  | .acquire _ | .wait _ _ => True

instance (custody : Custody) : (next : Call) → Decidable (custody.Permits next)
  | .release _ | .drop _ => inferInstanceAs (Decidable (∀ _ ∈ _, _))
  | .acquire _ | .wait _ _ => inferInstanceAs (Decidable True)

/-- Calls in the course of which no guard ends while a later one is live. -/
def Orderly (store : Store) : List Call → Custody → Prop
  | [], _ => True
  | next :: rest, custody => custody.Permits next ∧ Orderly store rest (custody.call store next)

instance (store : Store) : (calls : List Call) → (custody : Custody) →
    Decidable (Orderly store calls custody)
  | [], _ => inferInstanceAs (Decidable True)
  | next :: rest, custody =>
    have : Decidable (Orderly store rest (custody.call store next)) :=
      instDecidableOrderly store rest _
    inferInstanceAs (Decidable (_ ∧ _))

/-- A guard that is live is the last one, and the lock file is its own. -/
structure Sound (store : Store) (custody : Custody) : Prop where
  clock : custody.machine.now.OnClock
  guards : ∀ guard ∈ custody.guards, guard.info.since.OnClock
  live : ∀ index guard, custody.guards[index]? = some guard →
    guard.Live custody.machine.now →
      index + 1 = custody.guards.length ∧ store.Locked guard.info custody.machine

namespace Sound

variable {store : Store} {custody : Custody}

theorem start (store : Store) {machine : Machine} (clock : machine.now.OnClock) :
    Sound store { machine := machine } where
  clock := clock
  guards := fun _ member => (nomatch member)
  live := fun _ _ there => (nomatch there)

/-- While a guard is live, nobody else takes the lock. -/
theorem acquire_apply (sound : Sound store custody) {guard : Guard} (member : guard ∈ custody.guards)
    (live : guard.Live custody.machine.now) (holder : String) :
    store.acquire (Machine.host holder) custody.machine =
      (.error (.locked guard.info.holder guard.info.since), custody.machine) := by
  obtain ⟨index, there⟩ := List.getElem?_of_mem member
  obtain ⟨-, locked⟩ := sound.live index guard there live
  exact locked.acquire_apply (sound.guards guard member).toNameable live.young holder

/-- As long as no guard is live, the lock file does not matter. -/
theorem of_dead (sound : Sound store custody) {machine : Machine} {guards : List Guard}
    (time : machine.now = custody.machine.now)
    (taken : ∀ guard ∈ guards, guard.info.since.OnClock)
    (dead : ∀ guard ∈ guards, ¬guard.Live custody.machine.now) : Sound store ⟨machine, guards⟩ where
  clock := time ▸ sound.clock
  guards := taken
  live := fun _ guard there live =>
    absurd (time ▸ live) (dead guard (List.mem_of_getElem? there))

/-- As long as no other guard is live, whoever the lock file is of may be the last one. -/
theorem of_last (sound : Sound store custody) {machine : Machine} {guard : Guard}
    (time : machine.now = custody.machine.now) (taken : guard.info.since.OnClock)
    (dead : ∀ guard ∈ custody.guards, ¬guard.Live custody.machine.now)
    (locked : store.Locked guard.info machine) : Sound store ⟨machine, custody.guards ++ [guard]⟩ where
  clock := time ▸ sound.clock
  guards := by
    intro other member
    rcases List.mem_append.mp member with old | new
    · exact sound.guards other old
    · rw [List.mem_singleton.mp new]
      exact taken
  live := by
    intro index other there live
    rcases Nat.lt_or_ge index custody.guards.length with before | last
    · rw [List.getElem?_append_left before] at there
      exact absurd (time ▸ live) (dead other (List.mem_of_getElem? there))
    · rw [List.getElem?_append_right last, List.getElem?_singleton,
        Option.ite_none_right_eq_some] at there
      obtain ⟨first, same⟩ := there
      cases same
      refine ⟨?_, locked⟩
      rw [List.length_append, List.length_singleton]
      omega

theorem acquire (sound : Sound store custody) (holder : String) :
    Sound store (custody.call store (.acquire holder)) := by
  by_cases some : ∃ guard ∈ custody.guards, guard.Live custody.machine.now
  · obtain ⟨guard, member, live⟩ := some
    simp only [call, sound.acquire_apply member live holder]
    exact sound
  have dead : ∀ guard ∈ custody.guards, ¬guard.Live custody.machine.now :=
    fun guard member live => some ⟨guard, member, live⟩
  cases outcome : store.acquire (Machine.host holder) custody.machine with
  | mk answer machine =>
      have time : machine.now = custody.machine.now :=
        (Machine.timeless_acquire holder store).now_eq outcome
      cases answer with
      | error error =>
          simp only [call, outcome]
          exact sound.of_dead time sound.guards dead
      | ok lock =>
          obtain ⟨-, locked⟩ := Store.locked_of_acquire outcome
          simp only [call, outcome]
          exact sound.of_last time sound.clock dead locked

/-- When a guard ends while no later one is live, no guard is live any more. -/
theorem finish {α : Type} {give : Lock → Host (StateM Machine) → StateM Machine α}
    (timeless : ∀ lock holder, Machine.Timeless (give lock (Machine.host holder)))
    (sound : Sound store custody) {index : Nat} (permitted : custody.Permits (.release index)) :
    Sound store (custody.finish give index) := by
  unfold Custody.finish
  split
  next guard there =>
    split
    · exact sound
    refine sound.of_dead (timeless _ _ _) (fun other member => ?_) fun other member live => ?_
    · rcases List.mem_or_eq_of_mem_set member with old | rfl
      · exact sound.guards other old
      · exact sound.guards guard (List.mem_of_getElem? there)
    · obtain ⟨place, found⟩ := List.getElem?_of_mem member
      by_cases same : index = place
      · subst same
        rw [List.getElem?_set_self (List.getElem?_eq_some_iff.mp there).1] at found
        cases found
        cases live.held
      · rw [List.getElem?_set_ne same] at found
        obtain ⟨last, -⟩ := sound.live place other found live
        have inside := (List.getElem?_eq_some_iff.mp there).1
        have behind : (custody.guards.drop (index + 1))[place - (index + 1)]? = some other := by
          rw [List.getElem?_drop, Nat.add_sub_cancel' (by omega), found]
        exact permitted other (List.mem_of_getElem? behind) live
  next => exact sound

theorem wait (sound : Sound store custody) (later : Instant) (onClock : later.OnClock) :
    Sound store (custody.call store (.wait later onClock)) := by
  simp only [Custody.call]
  split
  next onward =>
    refine ⟨onClock, sound.guards, fun index guard there live => ?_⟩
    have younger : guard.info.since.age custody.machine.now ≤ guard.info.since.age later := by
      have since := sound.guards guard (List.mem_of_getElem? there)
      rw [Instant.age_eq since sound.clock, Instant.age_eq since onClock]
      omega
    exact sound.live index guard there ⟨live.held, Int.lt_of_le_of_lt younger live.young⟩
  next => exact sound

/-- **One call** keeps the invariant, unless a guard ends while a later one is live. -/
theorem call (sound : Sound store custody) {next : Call} (permitted : custody.Permits next) :
    Sound store (custody.call store next) := by
  cases next with
  | acquire holder => exact sound.acquire holder
  | release index =>
      exact sound.finish (fun lock holder => Machine.timeless_clear holder lock.path) permitted
  | drop index =>
      refine sound.finish (fun lock holder => ?_) permitted
      exact (Machine.timeless_clear holder lock.path).bind fun _ => Machine.timeless_pure ()
  | wait later onClock => exact sound.wait later onClock

/-- **Orderly calls** keep the invariant. -/
theorem follow (sound : Sound store custody) {calls : List Call}
    (orderly : Orderly store calls custody) : Sound store (custody.follow store calls) := by
  induction calls generalizing custody with
  | nil => exact sound
  | cons next rest hyp => exact hyp (sound.call orderly.1) orderly.2

end Sound

end Custody

/-- **A live guard keeps everybody else out.** On a machine with any files, let the lock of a store be
taken and given back in any order, with any time in between. As long as no guard ends while a later
one is live, a guard that was taken less than an hour ago and has not ended is the only one, and
whoever tries to take the lock is told who holds it since when. -/
theorem live_guard_excludes (store : Store) (machine : Machine) (clock : machine.now.OnClock)
    (calls : List Custody.Call) (orderly : Custody.Orderly store calls { machine := machine }) :
    let reached := Custody.follow store calls { machine := machine }
    ∀ (index : Nat) (guard : Guard), reached.guards[index]? = some guard →
      guard.Live reached.machine.now →
      (∀ holder, store.acquire (Machine.host holder) reached.machine =
        (.error (.locked guard.info.holder guard.info.since), reached.machine)) ∧
      ∀ (place : Nat) (other : Guard), reached.guards[place]? = some other →
        other.Live reached.machine.now → place = index := by
  intro reached index guard there live
  have sound : Custody.Sound store reached := (Custody.Sound.start store clock).follow orderly
  refine ⟨fun holder => sound.acquire_apply (List.mem_of_getElem? there) live holder,
    fun place other found alive => ?_⟩
  obtain ⟨last, -⟩ := sound.live index guard there live
  obtain ⟨last', -⟩ := sound.live place other found alive
  omega

/-- A store in a directory that does not exist yet. -/
def shed : Store := ⟨"state"⟩

/-- A machine without files. -/
def workshop : Machine := { now := ⟨1700000000, 0⟩ }

/-- Somebody takes the lock, gives it back and takes it again. An hour later it is taken over. -/
def overtaking : List Custody.Call :=
  [.acquire "first", .release 0, .acquire "first",
    .wait ⟨1700003600, 0⟩ ⟨⟨.inl (by decide), by decide +kernel⟩, by decide⟩, .acquire "second"]

/-- The one who has taken the lock over. -/
def successor : Guard := { lock := ⟨shed.lockPath⟩, info := ⟨"second", ⟨1700003600, 0⟩⟩ }

/-- As long as the one who was overtaken does not end, the successor keeps others out. -/
theorem successor_excludes :
    workshop.now.OnClock ∧ Custody.Orderly shed overtaking { machine := workshop } ∧
      (Custody.follow shed overtaking { machine := workshop }).guards[2]? = some successor ∧
      successor.Live (Custody.follow shed overtaking { machine := workshop }).machine.now ∧
      ∀ holder, (shed.acquire (Machine.host holder)
          (Custody.follow shed overtaking { machine := workshop }).machine).1 =
        .error (.locked "second" ⟨1700003600, 0⟩) := by
  have clock : workshop.now.OnClock := ⟨⟨.inl (by decide), by decide +kernel⟩, by decide⟩
  have orderly : Custody.Orderly shed overtaking { machine := workshop } := by decide +kernel
  have last : (Custody.follow shed overtaking { machine := workshop }).guards[2]? =
      some successor := by decide +kernel
  have live : successor.Live (Custody.follow shed overtaking { machine := workshop }).machine.now :=
    by decide +kernel
  obtain ⟨refused, -⟩ :=
    live_guard_excludes shed workshop clock overtaking orderly 2 successor last live
  exact ⟨clock, orderly, last, live, fun holder => congrArg Prod.fst (refused holder)⟩

/-- **Who ends after being overtaken frees the lock of the successor.** The one who has overtaken has
not ended, and took the lock less than an hour ago, and yet somebody else takes it. -/
theorem overtaken_guard_frees_lock :
    let reached := Custody.follow shed (overtaking ++ [.drop 1]) { machine := workshop }
    reached.guards[2]? = some successor ∧ successor.Live reached.machine.now ∧
      (shed.acquire (Machine.host "third") reached.machine).1.toOption =
        some ⟨shed.lockPath⟩ := by
  refine ⟨?_, ?_, ?_⟩
  all_goals decide +kernel

end Provision
