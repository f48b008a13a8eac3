/-
**Names that several threads draw from one sequence.**

A call takes its number from the sequence in one step and works out the name in another, and between the
two other threads may do anything. The name depends on the number alone:

* `Naming.Pool` is a sequence with the calls that have their number and no answer yet;
  `Naming.Pool.Step` is what can happen to it, `Naming.Pool.Run` a history of that;
* `Naming.claimed` counts the numbers that were claimed since the last reset;
* `Naming.Pool.Sound` — the count is the next number, and each open call has the number that it claimed
  (`Naming.Pool.Run.sound`);
* `Naming.Pool.Run.perm` — without a reset, all names together are those that one thread would draw;
* **`names_are_decided_by_claims`** puts this together.
-/

import Mathlib.Data.List.Nodup
import Mathlib.Data.List.Perm.Basic
import Provision.Proofs.Names

namespace Provision

namespace Naming

/-- What a thread does to a sequence of names. -/
inductive Event where
  /-- A call takes a number, for a name that is cut to a length (to `defaultLength` where it names
  none). -/
  | claim (thread : Nat) (length : Nat)
  /-- The call of a thread ends with a name. -/
  | answer (thread : Nat) (name : String)
  | reset (thread : Nat)
  deriving DecidableEq

namespace Event

/-- The thread that does it. -/
def thread : Event → Nat
  | claim thread _ | answer thread _ | reset thread => thread

/-- The name that a call ends with. -/
def name? : Event → Option String
  | answer _ name => some name
  | claim _ _ | reset _ => none

/-- How many numbers were claimed since the last reset, if it was a given number before. -/
def claimed (count : Nat) : Event → Nat
  | claim _ _ => count + 1
  | answer _ _ => count
  | reset _ => 0

/-- The count does not start over, and a name is cut to one length only. -/
def OfLength (length : Nat) : Event → Prop
  | claim _ asked => asked = length
  | answer _ _ => True
  | reset _ => False

end Event

/-- How many numbers were claimed since the last reset, or since the start. The next number is that one
modulo 2⁶⁴. -/
def claimed (history : List Event) : Nat := history.foldl Event.claimed 0

/-- The names that calls have ended with, in order. -/
def answers (history : List Event) : List String := history.filterMap Event.name?

theorem claimed_concat (history : List Event) (event : Event) :
    claimed (history ++ [event]) = event.claimed (claimed history) := by
  rw [claimed, List.foldl_append]
  rfl

theorem answers_concat (history : List Event) (event : Event) :
    answers (history ++ [event]) = answers history ++ event.name?.toList := by
  rw [answers, List.filterMap_append, answers]
  cases event <;> rfl

/-- A call that has its number and no answer yet. -/
structure Call where
  thread : Nat
  /-- The sequence as the call found it. -/
  found : NameSequence
  length : Nat

/-- The name that a call ends with. -/
def Call.name (call : Call) : String := (call.found.next call.length).1

/-- A sequence of names that several threads share. -/
structure Pool where
  names : NameSequence
  /-- The calls that have no answer yet. -/
  calls : List Call := []

namespace Pool

/-- A thread has no call without an answer. -/
def Idle (pool : Pool) (thread : Nat) : Prop := ∀ call ∈ pool.calls, call.thread ≠ thread

/-- The pool after a call has taken a number. -/
def claim (pool : Pool) (thread length : Nat) : Pool where
  names := (pool.names.next length).2
  calls := pool.calls ++ [⟨thread, pool.names, length⟩]

/-- What can happen next. A thread makes one call at a time, and answers may come in any order. -/
inductive Step (pool : Pool) : Event → Pool → Prop
  | claim (thread length : Nat) (idle : pool.Idle thread) :
      Step pool (.claim thread length) (pool.claim thread length)
  | answer (front : List Call) (call : Call) (rest : List Call)
      (waiting : pool.calls = front ++ call :: rest) :
      Step pool (.answer call.thread call.name) { pool with calls := front ++ rest }
  | reset (thread : Nat) (idle : pool.Idle thread) :
      Step pool (.reset thread) { pool with names := pool.names.reset }

/-- What has happened so far. -/
inductive Run (start : Pool) : List Event → Pool → Prop
  | start : Run start [] start
  | step {history : List Event} {pool later : Pool} {event : Event} (run : Run start history pool)
      (next : Step pool event later) : Run start (history ++ [event]) later

/-- A pool that nobody has used. -/
def fresh (zone : String) : Pool where
  names := { zone := zone }

/-! ### Open calls -/

/-- A call was the last thing that its thread did, and found the sequence as the claims before it have
left it. -/
def Opened (zone : String) (history : List Event) (call : Call) : Prop :=
  ∃ before between, history = before ++ .claim call.thread call.length :: between ∧
    (∀ event ∈ between, event.thread ≠ call.thread) ∧
    call.found = ⟨zone, .ofNat (claimed before)⟩

theorem Opened.concat {zone : String} {history : List Event} {call : Call} {event : Event}
    (opened : Opened zone history call) (other : event.thread ≠ call.thread) :
    Opened zone (history ++ [event]) call := by
  obtain ⟨before, between, split, quiet, found⟩ := opened
  refine ⟨before, between ++ [event], by simp [split], ?_, found⟩
  intro later member
  rcases List.mem_append.mp member with earlier | last
  · exact quiet later earlier
  · rw [List.mem_singleton.mp last]
    exact other

/-- The name of an open call is that of the number that it claimed. -/
theorem Opened.name_eq {zone : String} {history : List Event} {call : Call}
    (opened : Opened zone history call) :
    ∃ before between, history = before ++ .claim call.thread call.length :: between ∧
      (∀ event ∈ between, event.thread ≠ call.thread) ∧
      call.name = Naming.name zone (claimed before % UInt64.size) call.length := by
  obtain ⟨before, between, split, quiet, found⟩ := opened
  refine ⟨before, between, split, quiet, ?_⟩
  rw [Call.name, found, NameSequence.next, UInt64.toNat_ofNat']

/-- **What holds after every history**: the next number is that of the claims since the last reset, no
thread has two calls without an answer, and each call has the number that it claimed. -/
structure Sound (zone : String) (history : List Event) (pool : Pool) : Prop where
  names : pool.names = ⟨zone, .ofNat (claimed history)⟩
  once : (pool.calls.map (·.thread)).Nodup
  opened : ∀ call ∈ pool.calls, Opened zone history call

namespace Sound

variable {zone : String} {history : List Event} {pool later : Pool} {event : Event}

theorem start (zone : String) : Sound zone [] (fresh zone) where
  names := rfl
  once := List.nodup_nil
  opened := fun _ member => nomatch member

theorem claim (sound : Sound zone history pool) {thread : Nat} (idle : pool.Idle thread)
    (length : Nat) : Sound zone (history ++ [.claim thread length]) (pool.claim thread length) where
  names := by
    rw [Pool.claim, sound.names, claimed_concat, Event.claimed, UInt64.ofNat_add]
    rfl
  once := by
    rw [Pool.claim, List.map_append, List.map_singleton, ← List.concat_eq_append]
    refine sound.once.concat fun member => ?_
    obtain ⟨call, waiting, same⟩ := List.mem_map.mp member
    exact idle call waiting same
  opened := by
    intro call member
    rcases List.mem_append.mp member with old | new
    · exact (sound.opened call old).concat (idle call old).symm
    · obtain rfl := List.mem_singleton.mp new
      exact ⟨history, [], rfl, List.forall_mem_nil _, sound.names⟩

theorem reset (sound : Sound zone history pool) {thread : Nat} (idle : pool.Idle thread) :
    Sound zone (history ++ [.reset thread]) { pool with names := pool.names.reset } where
  names := by
    rw [sound.names, claimed_concat]
    rfl
  once := sound.once
  opened := fun call member => (sound.opened call member).concat (idle call member).symm

theorem answer (sound : Sound zone history pool) {front rest : List Call} {call : Call}
    (waiting : pool.calls = front ++ call :: rest) :
    Sound zone (history ++ [.answer call.thread call.name]) { pool with calls := front ++ rest } where
  names := by rw [sound.names, claimed_concat, Event.claimed]
  once := by
    have once := sound.once
    rw [waiting] at once
    exact once.sublist (((List.Sublist.refl front).append (List.sublist_cons_self call rest)).map _)
  opened := by
    intro other member
    have among : other ∈ pool.calls := by
      rw [waiting, List.mem_append, List.mem_cons]
      exact (List.mem_append.mp member).imp id .inr
    have once := sound.once
    rw [waiting, List.map_append, List.map_cons, List.nodup_middle, ← List.map_append,
      List.nodup_cons] at once
    refine (sound.opened other among).concat fun same => once.1 ?_
    rw [show call.thread = other.thread from same]
    exact List.mem_map_of_mem member

theorem step (sound : Sound zone history pool) (next : Step pool event later) :
    Sound zone (history ++ [event]) later := by
  cases next with
  | claim thread length idle => exact sound.claim idle length
  | answer front call rest waiting => exact sound.answer waiting
  | reset thread idle => exact sound.reset idle

end Sound

namespace Run

variable {zone : String} {names : NameSequence} {start pool : Pool} {history : List Event}
  {length : Nat}

/-! ### Histories -/

theorem sound (run : Run (fresh zone) history pool) : Sound zone history pool := by
  induction run with
  | start => exact .start zone
  | step run next hyp => exact hyp.step next

/-- Whatever has happened was a step of what had happened before. -/
theorem split (run : Run start history pool) {before after : List Event} {event : Event}
    (among : history = before ++ event :: after) :
    ∃ middle later, Run start before middle ∧ Step middle event later := by
  induction run generalizing after with
  | start => exact absurd among.symm (List.append_ne_nil_of_right_ne_nil before (List.cons_ne_nil _ _))
  | @step history middle later last run next hyp =>
      rcases List.eq_nil_or_concat after with rfl | ⟨inner, final, rfl⟩
      · obtain ⟨rfl, same⟩ := List.append_inj' among rfl
        obtain rfl : last = event := List.head_eq_of_cons_eq same
        exact ⟨middle, later, run, next⟩
      · rw [List.concat_eq_append, ← List.cons_append, ← List.append_assoc] at among
        exact hyp (List.append_inj' among rfl).1

/-- **A call ends with the name of the number that it claimed**, whatever happened in between. -/
theorem name_of_answer (run : Run (fresh zone) history pool) {before after : List Event}
    {thread : Nat} {name : String} (among : history = before ++ .answer thread name :: after) :
    ∃ earlier length between, before = earlier ++ .claim thread length :: between ∧
      (∀ event ∈ between, event.thread ≠ thread) ∧
      name = Naming.name zone (claimed earlier % UInt64.size) length := by
  obtain ⟨middle, later, upto, next⟩ := run.split among
  cases next with
  | answer front call rest waiting =>
      have member : call ∈ middle.calls := by
        rw [waiting]
        exact List.mem_append_right front List.mem_cons_self
      obtain ⟨earlier, between, split, quiet, named⟩ := (upto.sound.opened call member).name_eq
      exact ⟨earlier, call.length, between, split, quiet, named⟩

/-- Every open call can end, and nothing else has to happen for that. -/
theorem complete (run : Run start history pool) :
    ∃ ends last, Run start (history ++ ends) last ∧ (∀ event ∈ ends, event.name?.isSome) ∧
      last.calls = [] := by
  obtain ⟨names, calls⟩ := pool
  induction calls generalizing history with
  | nil => exact ⟨[], ⟨names, []⟩, by rwa [List.append_nil], List.forall_mem_nil _, rfl⟩
  | cons call rest hyp =>
      obtain ⟨ends, last, further, only, done⟩ := hyp (run.step (.answer [] call rest rfl))
      refine ⟨.answer call.thread call.name :: ends, last, ?_, ?_, done⟩
      · rwa [List.append_assoc, List.singleton_append] at further
      · intro event member
        rcases List.mem_cons.mp member with rfl | later
        · rfl
        · exact only event later

/-! ### All names together -/

theorem names_eq (run : Run ⟨names, []⟩ history pool) (plain : ∀ event ∈ history, event.OfLength length) :
    pool.names = ⟨names.zone, names.number + .ofNat (claimed history)⟩ := by
  induction run with
  | start => exact congrArg (NameSequence.mk names.zone) (UInt64.add_zero names.number).symm
  | step run next hyp =>
      have before := hyp fun event member => plain event (List.mem_append_left _ member)
      have last := plain _ (List.mem_append_right _ List.mem_cons_self)
      rw [claimed_concat]
      cases next with
      | claim thread asked idle =>
          rw [Event.claimed, UInt64.ofNat_add, ← UInt64.add_assoc, Pool.claim, before]
          rfl
      | answer front call rest waiting => exact before
      | reset thread idle => exact last.elim

/-- **No number is left out and none is claimed twice**: the names that were given and those that are
still to come are those that one thread draws. -/
theorem perm (run : Run ⟨names, []⟩ history pool) (plain : ∀ event ∈ history, event.OfLength length) :
    (answers history ++ pool.calls.map Call.name).Perm
      (NameSequence.many (claimed history) names length).1 := by
  rw [NameSequence.many_eq]
  induction run with
  | start => exact .nil
  | @step history pool later event run next hyp =>
      have inner : ∀ event ∈ history, event.OfLength length :=
        fun event member => plain event (List.mem_append_left _ member)
      have last := plain event (List.mem_append_right _ List.mem_cons_self)
      have before := hyp inner
      rw [answers_concat, claimed_concat]
      cases next with
      | claim thread asked idle =>
          obtain rfl : asked = length := last
          have found : (NameSequence.next pool.names asked).1 =
              (NameSequence.next ⟨names.zone, names.number + .ofNat (claimed history)⟩ asked).1 := by
            rw [run.names_eq inner]
          rw [Event.claimed, List.range_succ, List.map_append, List.map_singleton, ← found,
            Event.name?, Option.toList_none, List.append_nil, Pool.claim, List.map_append,
            ← List.append_assoc]
          exact before.append_right _
      | answer front call rest waiting =>
          refine .trans ?_ before
          rw [waiting, Event.name?, Option.toList_some, List.append_assoc, List.singleton_append,
            List.map_append, List.map_append, List.map_cons]
          exact List.Perm.append_left _ List.perm_middle.symm
      | reset thread idle => exact last.elim

end Run

end Pool

end Naming

/-! ### The law of names -/

open Naming in
/-- **A name is decided by the number that its call claimed.** Whatever several threads do with one
sequence, a call ends with the name of the number of claims before it since the last reset, and every call
can end; the name is the mark and the hash of that number, cut to the call's own length. So a shorter name
is the beginning of a longer one with the same number, and calls for one length have together the names
that one thread draws. -/
theorem names_are_decided_by_claims (zone : String) :
    (∀ history pool, Pool.Run (.fresh zone) history pool →
      (∀ before thread name after, history = before ++ .answer thread name :: after →
        ∃ earlier length between, before = earlier ++ .claim thread length :: between ∧
          (∀ event ∈ between, event.thread ≠ thread) ∧
          name = Naming.name zone (claimed earlier % UInt64.size) length) ∧
      ∃ ends last, Pool.Run (.fresh zone) (history ++ ends) last ∧
        (∀ event ∈ ends, event.name?.isSome) ∧ last.calls = []) ∧
    (∀ number length, (Naming.name zone number length).toList =
      (mark.toList ++ hex (Sha256.digest
        (Utf8.encode zone.toList ++ (0x3A : UInt8) :: Utf8.encode (toString number).toList))).take
          (min 66 (max length 5))) ∧
    (∀ number shorter longer, shorter ≤ longer →
      (Naming.name zone number shorter).toList <+: (Naming.name zone number longer).toList) ∧
    ∀ number length history pool, Pool.Run ⟨⟨zone, number⟩, []⟩ history pool → pool.calls = [] →
      (∀ event ∈ history, event.OfLength length) →
      (answers history).Perm (NameSequence.many (claimed history) ⟨zone, number⟩ length).1 := by
  refine ⟨fun history pool run => ⟨fun before thread name after among => run.name_of_answer among,
    run.complete⟩, fun number length => toList_name zone number length,
    fun number shorter longer le => name_prefix_name zone number le, ?_⟩
  intro number length history pool run done plain
  have together := run.perm plain
  rwa [done, List.map_nil, List.append_nil] at together

namespace Naming

/-- Two threads draw three names, and the second call ends before the first. -/
def overlap (names : NameSequence) : List Event :=
  let second := (names.next 24).2
  let third := (second.next 24).2
  [.claim 0 24, .claim 1 24, .answer 1 (second.next 24).1, .claim 1 24, .answer 0 (names.next 24).1,
    .answer 1 (third.next 24).1]

theorem run_overlap (names : NameSequence) :
    Pool.Run ⟨names, []⟩ (overlap names) ⟨⟨names.zone, names.number + 1 + 1 + 1⟩, []⟩ := by
  let second := (names.next 24).2
  let third := (second.next 24).2
  have first : Pool.Idle ⟨names, []⟩ 0 := List.forall_mem_nil _
  have other : Pool.Idle ⟨second, [⟨0, names, 24⟩]⟩ 1 := by simp [Pool.Idle]
  have again : Pool.Idle ⟨third, [⟨0, names, 24⟩]⟩ 1 := by simp [Pool.Idle]
  have both : Pool.Run ⟨names, []⟩ [.claim 0 24, .claim 1 24]
      ⟨third, [⟨0, names, 24⟩, ⟨1, second, 24⟩]⟩ :=
    (Pool.Run.start.step (.claim 0 24 first)).step (.claim 1 24 other)
  have ahead := both.step (.answer [⟨0, names, 24⟩] ⟨1, second, 24⟩ [] rfl)
  exact ((ahead.step (.claim 1 24 again)).step (.answer [] ⟨0, names, 24⟩ [⟨1, third, 24⟩] rfl)).step
    (.answer [] ⟨1, third, 24⟩ [] rfl)

end Naming

open Naming in
/-- The third name of two threads is that of the number two, and the three names are the first three also
where the count starts over between them. -/
theorem overlapping_calls_draw_the_first_names :
    let early := overlap ⟨"lz", 0⟩
    let late := overlap ⟨"lz", .ofNat (UInt64.size - 1)⟩
    (Pool.Run (.fresh "lz") early ⟨⟨"lz", 3⟩, []⟩ ∧
      ∃ earlier length between, early.take 5 = earlier ++ .claim 1 length :: between ∧
        (∀ event ∈ between, event.thread ≠ 1) ∧
        (NameSequence.next ⟨"lz", 2⟩ 24).1 = Naming.name "lz" (claimed earlier % UInt64.size) length) ∧
    (5 ≤ 24 ∧ (Naming.name "lz" 2 5).toList <+: (Naming.name "lz" 2 24).toList) ∧
    Pool.Run ⟨⟨"lz", .ofNat (UInt64.size - 1)⟩, []⟩ late ⟨⟨"lz", 2⟩, []⟩ ∧
      (∀ event ∈ late, event.OfLength 24) ∧
      (answers late).Perm (NameSequence.many 3 ⟨"lz", .ofNat (UInt64.size - 1)⟩ 24).1 := by
  have law := names_are_decided_by_claims "lz"
  have early := run_overlap ⟨"lz", 0⟩
  have late := run_overlap ⟨"lz", .ofNat (UInt64.size - 1)⟩
  have plain : ∀ names, ∀ event ∈ overlap names, event.OfLength 24 := by
    simp [overlap, Event.OfLength]
  exact ⟨⟨early, (law.1 _ _ early).1 _ _ _ [] rfl⟩, ⟨by decide, law.2.2.1 2 5 24 (by decide)⟩,
    late, plain _, law.2.2.2 _ 24 _ _ late rfl (plain _)⟩

end Provision
