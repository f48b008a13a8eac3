/-
**Runs and fleets step by step.**

A run between two calls is about to create, about to settle, or at its end. What holds of a fleet in
every order of calls is shown call by call:

* `Run.cases` tells the three apart, `Run.advance_creating`, `Run.advance_settling` and
  `Run.advance_of_result?` say what the next call does;
* `Fleet.follow_invariant`: what each call keeps holds after every schedule;
* `Fleet.remaining_follow`: a run that is let on often enough comes to its end.
-/

import Provision.Deployment.Concurrent
import Provision.Proofs.Deployment

namespace Provision

variable {σ : Type} (provider : Provider (StateM σ))

namespace Run

theorem advance_creating {run : Run} {declaration : Declaration} {rest : List Declaration}
    (creating : run.stage = .creating) (pending : run.pending = declaration :: rest) (state : σ) :
    run.advance provider state =
      let reply := provider.create run.group declaration.definition (declaration.tags run.zone) state
      (run.created declaration rest reply.1, reply.2) := by
  unfold advance
  rw [creating, pending]
  rfl

theorem advance_settling {run : Run} {declaration : Declaration} {rest : List Declaration}
    {taken : String} (settling : run.stage = .settling taken)
    (pending : run.pending = declaration :: rest) (state : σ) :
    run.advance provider state =
      let reply := provider.find run.group declaration.definition.kind declaration.definition.name
        state
      (run.conclude rest (declaration.settle run.zone taken reply.1), reply.2) := by
  unfold advance
  rw [settling, pending]
  rfl

/-- A run that has its result makes no more calls. -/
theorem advance_of_result? {run : Run} (finished : run.result?.isSome = true) (state : σ) :
    run.advance provider state = (run, state) := by
  obtain ⟨group, zone, made, pending, stage⟩ := run
  cases pending with
  | nil => cases stage <;> rfl
  | cons declaration rest => cases stage <;> first | rfl | cases finished

/-- A run is about to create, about to settle, or at its end. -/
theorem cases (run : Run) :
    (∃ declaration rest, run.stage = .creating ∧ run.pending = declaration :: rest) ∨
    (∃ taken declaration rest, run.stage = .settling taken ∧ run.pending = declaration :: rest) ∨
    run.result?.isSome = true := by
  obtain ⟨group, zone, made, pending, stage⟩ := run
  cases pending with
  | nil => cases stage <;> exact .inr (.inr rfl)
  | cons declaration rest =>
      cases stage with
      | creating => exact .inl ⟨declaration, rest, rfl, rfl⟩
      | settling taken => exact .inr (.inl ⟨taken, declaration, rest, rfl, rfl⟩)
      | failed error => exact .inr (.inr rfl)

/-- A run has its result when it can make no more calls. -/
theorem result?_isSome_iff (run : Run) : run.result?.isSome = true ↔ run.remaining = 0 := by
  obtain ⟨group, zone, made, pending, stage⟩ := run
  cases pending with
  | nil => cases stage <;> simp [result?, remaining]
  | cons declaration rest =>
      cases stage with
      | creating => simp [result?, remaining]
      | settling taken =>
          simp only [result?, remaining, List.length_cons]
          simp
          omega
      | failed error => simp [result?, remaining]

theorem remaining_conclude_le {run : Run} {declaration : Declaration} {rest : List Declaration}
    (pending : run.pending = declaration :: rest) (outcome : Except ZoneError DeployedResource) :
    (run.conclude rest outcome).remaining ≤ 2 * run.pending.length - 2 := by
  rw [pending]
  cases outcome with
  | ok resource => simp [conclude, remaining, Nat.mul_add]
  | error error => simp [conclude, remaining]

/-- Each call uses up one of those that are left. -/
theorem remaining_advance (run : Run) (state : σ) :
    (run.advance provider state).1.remaining ≤ run.remaining - 1 := by
  rcases run.cases with ⟨declaration, rest, creating, pending⟩ |
    ⟨taken, declaration, rest, settling, pending⟩ | finished
  · rw [advance_creating provider creating pending]
    have whole : run.remaining = 2 * run.pending.length := by simp [remaining, creating]
    rw [whole]
    simp only [created]
    split
    · exact Nat.le_trans (remaining_conclude_le pending _) (by omega)
    · simp [remaining]
    · exact Nat.le_trans (remaining_conclude_le pending _) (by omega)
  · rw [advance_settling provider settling pending]
    have whole : run.remaining = 2 * run.pending.length - 1 := by simp [remaining, settling]
    rw [whole]
    exact Nat.le_trans (remaining_conclude_le pending _) (by omega)
  · have none : run.remaining = 0 := (result?_isSome_iff run).mp finished
    have stays : (run.advance provider state).1 = run := by
      rw [advance_of_result? provider finished]
    rw [stays]
    omega

theorem remaining_start (blueprint : Blueprint) :
    (start blueprint).remaining ≤ 2 * blueprint.declarations.length := by
  unfold start remaining
  cases blueprint.fault? <;> simp

theorem start_of_fault {blueprint : Blueprint} {fault : Fault}
    (faulty : blueprint.fault? = some fault) :
    (start blueprint).stage = .failed (.invalidRequest fault) := by
  simp [start, faulty]

theorem start_of_faultless {blueprint : Blueprint} (faultless : blueprint.fault? = none) :
    (start blueprint).stage = .creating := by
  simp [start, faultless]

theorem result?_of_failed {run : Run} {error : ZoneError} (failed : run.stage = .failed error) :
    run.result? = some (.error error) := by
  simp [result?, failed]

/-- A run that reports resources has realised everything, and these are what it made. -/
theorem eq_of_result?_ok {run : Run} {made : List DeployedResource}
    (result : run.result? = some (.ok made)) : run.pending = [] ∧ run.made = made := by
  obtain ⟨group, zone, own, pending, stage⟩ := run
  cases pending with
  | nil => cases stage <;> simp_all [result?]
  | cons declaration rest => cases stage <;> simp [result?] at result

/-- A run that reports an error has stopped at it. -/
theorem stage_of_result?_error {run : Run} {error : ZoneError}
    (result : run.result? = some (.error error)) : run.stage = .failed error := by
  obtain ⟨group, zone, own, pending, stage⟩ := run
  cases pending with
  | nil => cases stage <;> simp_all [result?]
  | cons declaration rest => cases stage <;> simp_all [result?]

end Run

namespace Fleet

theorem step_of_getElem? {fleet : Fleet} {index : Nat} {run : Run} (there : fleet[index]? = some run)
    (state : σ) :
    step provider index fleet state =
      (fleet.set index (run.advance provider state).1, (run.advance provider state).2) := by
  unfold step
  rw [there]
  rfl

theorem step_of_none {fleet : Fleet} {index : Nat} (missing : fleet[index]? = none) (state : σ) :
    step provider index fleet state = (fleet, state) := by
  unfold step
  rw [missing]
  rfl

theorem follow_cons (index : Nat) (rest : List Nat) (fleet : Fleet) (state : σ) :
    follow provider (index :: rest) fleet state =
      follow provider rest (step provider index fleet state).1 (step provider index fleet state).2 :=
  rfl

theorem follow_append (first rest : List Nat) (fleet : Fleet) (state : σ) :
    follow provider (first ++ rest) fleet state =
      follow provider rest (follow provider first fleet state).1
        (follow provider first fleet state).2 := by
  induction first generalizing fleet state with
  | nil => rfl
  | cons index others hyp => exact hyp _ _

/-- **What each call keeps holds after every schedule.** -/
theorem follow_invariant (holds : Fleet → σ → Prop)
    (keeps : ∀ (fleet : Fleet) (state : σ) (index : Nat) (run : Run), fleet[index]? = some run →
      holds fleet state →
      holds (fleet.set index (run.advance provider state).1) (run.advance provider state).2)
    (schedule : List Nat) (fleet : Fleet) (state : σ) (initially : holds fleet state) :
    holds (follow provider schedule fleet state).1 (follow provider schedule fleet state).2 := by
  induction schedule generalizing fleet state with
  | nil => exact initially
  | cons index rest hyp =>
      rw [follow_cons]
      cases there : fleet[index]? with
      | none =>
          rw [step_of_none provider there]
          exact hyp fleet state initially
      | some run =>
          rw [step_of_getElem? provider there]
          exact hyp _ _ (keeps fleet state index run there initially)

theorem length_follow (schedule : List Nat) (fleet : Fleet) (state : σ) :
    (follow provider schedule fleet state).1.length = fleet.length :=
  follow_invariant provider (fun other _ => other.length = fleet.length)
    (fun _ _ _ _ _ same => by rw [List.length_set, same]) schedule fleet state rfl

/-- Each time a run is let on it uses up one of its calls, whatever the others do. -/
theorem remaining_follow (schedule : List Nat) (fleet : Fleet) (state : σ) (index : Nat) (run : Run)
    (there : fleet[index]? = some run) :
    ∃ after, (follow provider schedule fleet state).1[index]? = some after ∧
      after.remaining ≤ run.remaining - schedule.count index := by
  induction schedule generalizing fleet state run with
  | nil => exact ⟨run, there, by simp⟩
  | cons next rest hyp =>
      rw [follow_cons]
      have inside : index < fleet.length := (List.getElem?_eq_some_iff.mp there).1
      by_cases same : next = index
      · subst same
        rw [step_of_getElem? provider there]
        obtain ⟨after, found, less⟩ := hyp (fleet.set next (run.advance provider state).1)
          (run.advance provider state).2 _ (List.getElem?_set_self inside)
        have used := Run.remaining_advance provider run state
        refine ⟨after, found, Nat.le_trans less ?_⟩
        rw [List.count_cons_self]
        omega
      · -- the calls of another run leave this one where it is
        have kept : (step provider next fleet state).1[index]? = some run := by
          cases other : fleet[next]? with
          | none =>
              rw [step_of_none provider other]
              exact there
          | some moved =>
              rw [step_of_getElem? provider other, List.getElem?_set_ne same]
              exact there
        obtain ⟨after, found, less⟩ := hyp _ (step provider next fleet state).2 run kept
        refine ⟨after, found, ?_⟩
        rw [List.count_cons_of_ne same]
        exact less

end Fleet

end Provision
