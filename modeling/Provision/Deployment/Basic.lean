/-
**Deployments.**

A deployment creates the resources of a blueprint in order and stops at the first failure. A name
that is taken is no failure if the resource that has it is the one that would have been created:

* `Declaration.settle` decides about a resource that was there before;
* `Declaration.realise` creates the resource of a declaration, or settles for the one that exists;
* `Blueprint.progress` realises all declarations and says how far it came, `Blueprint.deploy` only
  whether it came to the end;
* `Rollout.pull` realises them one at a time.
-/

import Provision.Blueprint
import Provision.Provider.Basic

namespace Provision

namespace Declaration

/-- The error of a declaration that cannot be realised. -/
def refused (declaration : Declaration) (cause : CloudError) : ZoneError :=
  .creation declaration.definition.kind declaration.definition.name cause

/-- The managed keys for which two sets of tags differ. -/
def drift (expected existing : Tags) : List String :=
  Tags.managedKeys.filter fun key => existing[key]? != expected[key]?

/-- Why a resource of the landing zone cannot stand for the one that was to be created. -/
def driftText (name : String) (keys : List String) : String :=
  name ++ " exists with different tags (" ++ String.intercalate ", " keys ++ ")"

/-- What becomes of a declaration whose name is taken, when a provider has said by which resource.

That resource stands for the declared one if it belongs to the landing zone and has the tags that it
would have been given. -/
def settle (zone : String) (declaration : Declaration) (taken : String) :
    Answer (Option DeployedResource) → Except ZoneError DeployedResource
  | .error cause => .error (declaration.refused cause)
  | .ok none => .error (declaration.refused (.alreadyExists taken))
  | .ok (some resource) =>
    if resource.tags.owner? = some zone then
      match drift (declaration.tags zone) resource.tags with
      | [] => .ok resource
      | keys =>
        .error (declaration.refused
          (.alreadyExists (driftText declaration.definition.name keys)))
    else .error (declaration.refused (.alreadyExists taken))

/-- Creates the resource of a declaration, or settles for the one that has its name. -/
def realise {m : Type → Type} [Monad m] (provider : Provider m) (group : ResourceGroup) (zone : String)
    (declaration : Declaration) : m (Except ZoneError DeployedResource) := do
  match ← provider.create group declaration.definition (declaration.tags zone) with
  | .ok resource => pure (.ok resource)
  | .error (.alreadyExists taken) =>
    let existing ← provider.find group declaration.definition.kind declaration.definition.name
    pure (declaration.settle zone taken existing)
  | .error cause => pure (.error (declaration.refused cause))

end Declaration

/-- How far a deployment came. -/
structure Progress where
  /-- What the realised declarations led to, in order. -/
  made : List DeployedResource := []
  /-- What kept it from going on. -/
  failure? : Option ZoneError := none
  deriving DecidableEq

namespace Progress

/-- The progress with one more resource in front. -/
def after (progress : Progress) (resource : DeployedResource) : Progress :=
  { progress with made := resource :: progress.made }

/-- All resources of a deployment that came to its end. -/
def result (progress : Progress) : Except ZoneError (List DeployedResource) :=
  match progress.failure? with
  | some error => .error error
  | none => .ok progress.made

end Progress

variable {m : Type → Type} [Monad m]

/-- Realises declarations in order, up to the first failure. -/
def Declaration.realiseAll (provider : Provider m) (group : ResourceGroup) (zone : String) :
    List Declaration → m Progress
  | [] => pure {}
  | declaration :: rest => do
    match ← declaration.realise provider group zone with
    | .error error => pure { failure? := some error }
    | .ok resource => do
      let progress ← realiseAll provider group zone rest
      pure (progress.after resource)

namespace Blueprint

/-- Creates everything that a blueprint declares, as far as it goes. Nothing is created when the
blueprint has a fault; what was created before a failure stays. -/
def progress (provider : Provider m) (blueprint : Blueprint) : m Progress :=
  match blueprint.fault? with
  | some fault => pure { failure? := some (.invalidRequest fault) }
  | none => Declaration.realiseAll provider blueprint.group blueprint.zone blueprint.declarations

/-- Creates everything that a blueprint declares. -/
def deploy (provider : Provider m) (blueprint : Blueprint) :
    m (Except ZoneError (List DeployedResource)) := do
  let progress ← blueprint.progress provider
  pure progress.result

end Blueprint

/-! ## One resource at a time -/

/-- A deployment whose resources are created as they are asked for. -/
inductive Rollout where
  /-- Nothing was asked for so far, and the blueprint is not examined yet. -/
  | planned (blueprint : Blueprint)
  /-- These declarations are left. -/
  | underway (group : ResourceGroup) (zone : String) (pending : List Declaration)

namespace Rollout

/-- A rollout from which nothing more is to come. -/
def finished (group : ResourceGroup) (zone : String) : Rollout := underway group zone []

/-- The next of the declarations that are left, realised, and the rollout after it. -/
def pullPending (provider : Provider m) (group : ResourceGroup) (zone : String) :
    List Declaration → m (Option (Except ZoneError DeployedResource) × Rollout)
  | [] => pure (none, finished group zone)
  | declaration :: rest => do
    match ← declaration.realise provider group zone with
    | .ok resource => pure (some (.ok resource), underway group zone rest)
    | .error error => pure (some (.error error), finished group zone)

/-- The next item of a rollout, if there is one, and the rollout after it. An error is the last
item. -/
def pull (provider : Provider m) : Rollout → m (Option (Except ZoneError DeployedResource) × Rollout)
  | planned blueprint =>
    match blueprint.fault? with
    | some fault =>
      pure (some (.error (.invalidRequest fault)), finished blueprint.group blueprint.zone)
    | none => pullPending provider blueprint.group blueprint.zone blueprint.declarations
  | underway group zone pending => pullPending provider group zone pending

end Rollout

end Provision
