/-
**Deployments step by step.**

A provider with a state answers each call from its state and moves on to the next one. Here a
deployment through such a provider is opened call by call, so that nobody has to open the monad again:

* `bind_apply` runs one operation after another;
* `Declaration.realise_apply` and `Declaration.realiseAll_apply` open the calls of a deployment,
  `Blueprint.deploy_of_fault` and `Blueprint.deploy_of_faultless` the deployment itself.
-/

import Provision.Deployment.Basic

namespace Provision

variable {σ : Type}

theorem bind_apply {α β : Type} (first : StateM σ α) (next : α → StateM σ β) (state : σ) :
    (first >>= next) state = next (first state).1 (first state).2 := rfl

variable (provider : Provider (StateM σ)) (group : ResourceGroup) (zone : String)

namespace Declaration

/-- One declaration takes one call, or two when its name is taken. -/
theorem realise_apply (declaration : Declaration) (state : σ) :
    declaration.realise provider group zone state =
      match provider.create group declaration.definition (declaration.tags zone) state with
      | (.ok resource, after) => (.ok resource, after)
      | (.error (.alreadyExists taken), after) =>
        let existing := provider.find group declaration.definition.kind
          declaration.definition.name after
        (declaration.settle zone taken existing.1, existing.2)
      | (.error cause, after) => (.error (declaration.refused cause), after) := by
  unfold realise
  rw [bind_apply]
  generalize provider.create group declaration.definition (declaration.tags zone) state = reply
  obtain ⟨answer, after⟩ := reply
  cases answer with
  | ok resource => rfl
  | error cause => cases cause <;> rfl

/-- Several declarations are realised from the front, and the rest only after the first. -/
theorem realiseAll_apply (declaration : Declaration) (rest : List Declaration) (state : σ) :
    realiseAll provider group zone (declaration :: rest) state =
      match declaration.realise provider group zone state with
      | (.ok resource, after) =>
        let further := realiseAll provider group zone rest after
        (further.1.after resource, further.2)
      | (.error error, after) => ({ failure? := some error }, after) := by
  rw [realiseAll, bind_apply]
  generalize declaration.realise provider group zone state = reply
  obtain ⟨answer, after⟩ := reply
  cases answer <;> rfl

end Declaration

namespace Blueprint

variable {provider}

/-- A blueprint with a fault is refused before any call. -/
theorem deploy_of_fault {blueprint : Blueprint} {fault : Fault}
    (faulty : blueprint.fault? = some fault) (state : σ) :
    blueprint.deploy provider state = (.error (.invalidRequest fault), state) := by
  unfold deploy progress
  rw [faulty]
  rfl

/-- A blueprint without a fault comes to what its declarations come to. -/
theorem deploy_of_faultless {blueprint : Blueprint} (faultless : blueprint.fault? = none)
    (state : σ) :
    blueprint.deploy provider state =
      let progress := Declaration.realiseAll provider blueprint.group blueprint.zone
        blueprint.declarations state
      (progress.1.result, progress.2) := by
  unfold deploy progress
  rw [faultless]
  rfl

end Blueprint

end Provision
