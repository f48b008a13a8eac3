/-
**Histories of deployments.**

Deployments follow one another, each of which comes to its end, fails on the way or is abandoned:

* `Rollout.pulls` asks for several items of a rollout;
* `Attempt` is one deployment of a history, `Attempt.perform` carries it out and
  `Memory.performed` carries out several in order;
* `Memory.Lays` says that some of the declarations that are left were realised and nothing else was
  done, which holds of every attempt (`Attempt.lays`);
* `Memory.performed_invariant`: what every attempt keeps holds after every history.
-/

import Provision.Proofs.Ledger

namespace Provision

/-- The rollout after several more of its items were asked for. -/
def Rollout.pulls {m : Type → Type} [Monad m] (provider : Provider m) : Nat → Rollout → m Rollout
  | 0, rollout => pure rollout
  | count + 1, rollout => do
    let (_, next) ← rollout.pull provider
    pulls provider count next

/-- One deployment of a history. -/
structure Attempt where
  blueprint : Blueprint
  /-- The names that cannot be created meanwhile. -/
  failing : List String := []
  /-- After how many items it is abandoned, if it is. -/
  items? : Option Nat := none

/-- The memory that an attempt finds. -/
def Attempt.exposed (attempt : Attempt) (memory : Memory) : Memory :=
  { memory with failing := attempt.failing }

/-- Carries out a deployment. One that is abandoned has no result. -/
def Attempt.perform (attempt : Attempt) (memory : Memory) :
    Option (Except ZoneError (List DeployedResource)) × Memory :=
  match attempt.items? with
  | none =>
    let (result, after) := attempt.blueprint.deploy Memory.provider (attempt.exposed memory)
    (some result, after)
  | some count =>
    let (_, after) :=
      Rollout.pulls Memory.provider count (.planned attempt.blueprint) (attempt.exposed memory)
    (none, after)

/-- A memory after several deployments. -/
def Memory.performed (memory : Memory) (history : List Attempt) : Memory :=
  history.foldl (fun memory attempt => (attempt.perform memory).2) memory

/-- Between two states of a memory, some of the declarations that are left were realised in a group
for a landing zone, in order, and nothing else was done. -/
structure Memory.Lays (group : ResourceGroup) (zone : String) (pending : List Declaration)
    (memory after : Memory) (done : List Declaration) : Prop where
  within : done <+: pending
  realised : ∃ made : List DeployedResource,
    (memory.scene group zone).verdicts memory.records done = made.map .ok
  failing : after.failing = memory.failing
  records : after.records = (memory.scene group zone).laid done memory.records

namespace Memory.Lays

variable {group : ResourceGroup} {zone : String} {declaration : Declaration}
  {rest done : List Declaration} {memory after : Memory}

theorem nothing (group : ResourceGroup) (zone : String) (pending : List Declaration)
    (memory : Memory) : Lays group zone pending memory memory [] where
  within := List.nil_prefix
  realised := ⟨[], rfl⟩
  failing := rfl
  records := rfl

/-- One declaration was realised, and some of the others after it. -/
theorem cons {resource : DeployedResource}
    (verdict : (memory.scene group zone).verdict memory.records declaration = .ok resource)
    (lays : Lays group zone rest
      (memory.after ((memory.scene group zone).grown memory.records declaration) 1) after done) :
    Lays group zone (declaration :: rest) memory after (declaration :: done) where
  within := List.cons_prefix_cons.mpr ⟨rfl, lays.within⟩
  realised := by
    obtain ⟨made, others⟩ := lays.realised
    exact ⟨resource :: made, by simpa [Scene.verdicts, verdict] using others⟩
  failing := lays.failing
  records := lays.records

/-- The only declaration that was tried could not be realised. -/
theorem refused {error : ZoneError}
    (verdict : (memory.scene group zone).verdict memory.records declaration = .error error) :
    Lays group zone (declaration :: rest) memory
      (memory.after ((memory.scene group zone).grown memory.records declaration) 1) [] where
  within := List.nil_prefix
  realised := ⟨[], rfl⟩
  failing := rfl
  records := Scene.grown_of_verdict_error verdict

end Memory.Lays

namespace Rollout

variable (group : ResourceGroup) (zone : String)

theorem pulls_succ {σ : Type} (provider : Provider (StateM σ)) (count : Nat) (rollout : Rollout)
    (state : σ) :
    pulls provider (count + 1) rollout state =
      let reply := rollout.pull provider state
      pulls provider count reply.1.2 reply.2 := rfl

/-- The first declaration that is left is realised when the next item is asked for. -/
theorem pull_underway_cons (declaration : Declaration) (rest : List Declaration) (memory : Memory) :
    ((underway group zone (declaration :: rest)).pull Memory.provider memory) =
      let after := memory.after ((memory.scene group zone).grown memory.records declaration) 1
      match (memory.scene group zone).verdict memory.records declaration with
      | .ok resource => ((some (.ok resource), underway group zone rest), after)
      | .error error => ((some (.error error), finished group zone), after) := by
  show pullPending Memory.provider group zone (declaration :: rest) memory = _
  rw [pullPending, bind_apply, Declaration.realise_eq]
  cases (memory.scene group zone).verdict memory.records declaration <;> rfl

/-- A rollout from which nothing more is to come leaves the memory alone. -/
theorem pulls_finished (count : Nat) (memory : Memory) :
    pulls Memory.provider count (finished group zone) memory = (finished group zone, memory) := by
  induction count with
  | zero => rfl
  | succ count hyp =>
      rw [pulls_succ]
      exact hyp

theorem lays_pulls_underway (count : Nat) (pending : List Declaration) (memory : Memory) :
    ∃ done, Memory.Lays group zone pending memory
      (pulls Memory.provider count (underway group zone pending) memory).2 done := by
  induction count generalizing pending memory with
  | zero => exact ⟨[], .nothing group zone pending memory⟩
  | succ count hyp =>
      cases pending with
      | nil =>
          refine ⟨[], ?_⟩
          rw [show underway group zone [] = finished group zone from rfl, pulls_finished]
          exact .nothing group zone [] memory
      | cons declaration rest =>
          rw [pulls_succ, pull_underway_cons]
          cases verdict : (memory.scene group zone).verdict memory.records declaration with
          | ok resource =>
              obtain ⟨done, lays⟩ := hyp rest
                (memory.after ((memory.scene group zone).grown memory.records declaration) 1)
              exact ⟨declaration :: done, lays.cons verdict⟩
          | error error =>
              refine ⟨[], ?_⟩
              simp only [pulls_finished]
              exact .refused verdict

/-- A blueprint is examined when its first item is asked for. -/
theorem pull_planned_of_faultless {blueprint : Blueprint} (faultless : blueprint.fault? = none)
    (memory : Memory) :
    (planned blueprint).pull Memory.provider memory =
      (underway blueprint.group blueprint.zone blueprint.declarations).pull Memory.provider
        memory := by
  rw [pull, faultless]
  rfl

theorem pull_planned_of_fault {blueprint : Blueprint} {fault : Fault}
    (faulty : blueprint.fault? = some fault) (memory : Memory) :
    (planned blueprint).pull Memory.provider memory =
      ((some (.error (.invalidRequest fault)), finished blueprint.group blueprint.zone), memory) := by
  rw [pull, faulty]
  rfl

/-- Whatever is asked for, declarations are realised in order, and none of a blueprint with a
fault. -/
theorem lays_pulls (count : Nat) (blueprint : Blueprint) (memory : Memory) :
    ∃ done, Memory.Lays blueprint.group blueprint.zone blueprint.declarations memory
      (pulls Memory.provider count (planned blueprint) memory).2 done ∧
        (done ≠ [] → blueprint.fault? = none) := by
  cases count with
  | zero => exact ⟨[], .nothing _ _ _ _, fun some => absurd rfl some⟩
  | succ count =>
      rw [pulls_succ]
      cases faulty : blueprint.fault? with
      | some fault =>
          rw [pull_planned_of_fault faulty]
          simp only [pulls_finished]
          exact ⟨[], .nothing _ _ _ _, fun some => absurd rfl some⟩
      | none =>
          rw [pull_planned_of_faultless faulty]
          obtain ⟨done, lays⟩ := lays_pulls_underway blueprint.group blueprint.zone (count + 1)
            blueprint.declarations memory
          exact ⟨done, lays, fun _ => rfl⟩

end Rollout

/-- **What a deployment does.** It realises declarations in order, and all of them when it
succeeds. -/
theorem Blueprint.lays_deploy (blueprint : Blueprint) (memory : Memory) :
    ∃ done, Memory.Lays blueprint.group blueprint.zone blueprint.declarations memory
      (blueprint.deploy Memory.provider memory).2 done ∧
        (done ≠ [] → blueprint.fault? = none) ∧
        ∀ made, (blueprint.deploy Memory.provider memory).1 = .ok made →
          blueprint.fault? = none ∧ done = blueprint.declarations ∧
            (memory.scene blueprint.group blueprint.zone).verdicts memory.records done =
              made.map .ok := by
  cases faulty : blueprint.fault? with
  | some fault =>
      rw [deploy_of_fault faulty]
      exact ⟨[], .nothing _ _ _ _, fun some => absurd rfl some, fun _ impossible => (nomatch impossible)⟩
  | none =>
      rw [deploy_of_faultless faulty]
      rcases (memory.scene blueprint.group blueprint.zone).realised_or_refused
        blueprint.declarations memory.records with ⟨made, all⟩ |
        ⟨first, declaration, rest, error, split, ⟨made, all⟩, refused⟩
      · have whole := Declaration.realiseAll_of_done memory _ _ _ made all
        simp only [whole]
        refine ⟨blueprint.declarations, ⟨List.prefix_refl _, ⟨made, all⟩, rfl, rfl⟩, fun _ => trivial,
          fun others same => ⟨trivial, rfl, ?_⟩⟩
        obtain rfl : made = others := Except.ok.inj same
        exact all
      · have part := Declaration.realiseAll_of_refused memory _ _ first declaration rest made error
          all refused
        rw [← split] at part
        simp only [part]
        exact ⟨first, ⟨⟨_, split.symm⟩, ⟨made, all⟩, rfl, rfl⟩, fun _ => trivial,
          fun _ impossible => (nomatch impossible)⟩

namespace Attempt

/-- **What an attempt does**, whether it succeeds, fails or is abandoned. -/
theorem lays (attempt : Attempt) (memory : Memory) :
    ∃ done, Memory.Lays attempt.blueprint.group attempt.blueprint.zone attempt.blueprint.declarations
      (attempt.exposed memory) (attempt.perform memory).2 done ∧
        (done ≠ [] → attempt.blueprint.fault? = none) := by
  unfold perform
  cases attempt.items? with
  | none =>
      obtain ⟨done, lays, faultless, -⟩ := attempt.blueprint.lays_deploy (attempt.exposed memory)
      exact ⟨done, lays, faultless⟩
  | some count => exact Rollout.lays_pulls count attempt.blueprint (attempt.exposed memory)

end Attempt

namespace Memory

@[simp]
theorem performed_nil (memory : Memory) : memory.performed [] = memory := rfl

@[simp]
theorem performed_cons (memory : Memory) (attempt : Attempt) (rest : List Attempt) :
    memory.performed (attempt :: rest) = (attempt.perform memory).2.performed rest := rfl

theorem performed_append (memory : Memory) (first rest : List Attempt) :
    memory.performed (first ++ rest) = (memory.performed first).performed rest :=
  List.foldl_append

/-- **What every attempt keeps holds after every history.** -/
theorem performed_invariant (holds : List Record → Prop) (history : List Attempt)
    (keeps : ∀ attempt ∈ history, ∀ memory : Memory, holds memory.records →
      holds (attempt.perform memory).2.records)
    (memory : Memory) (initially : holds memory.records) :
    holds (memory.performed history).records := by
  induction history generalizing memory with
  | nil => exact initially
  | cons attempt rest hyp =>
      have first := keeps attempt List.mem_cons_self memory initially
      exact hyp (fun other member => keeps other (List.mem_cons_of_mem _ member)) _ first

/-- Records are only added. -/
theorem prefix_performed (memory : Memory) (history : List Attempt) :
    memory.records <+: (memory.performed history).records := by
  refine performed_invariant (memory.records <+: ·) history (fun attempt _ before grown => ?_)
    memory (List.prefix_refl _)
  obtain ⟨done, lays, -⟩ := attempt.lays before
  rw [lays.records]
  exact grown.trans (Scene.prefix_laid _ _ _)

end Memory

end Provision
