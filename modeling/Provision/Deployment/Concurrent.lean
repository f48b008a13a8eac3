/-
**Deployments side by side.**

Several deployments may reach one provider at the same time. Each call is one step, and the calls of
different deployments may come in any order:

* `Run` is a deployment between two calls, `Run.advance` makes its next call;
* `Fleet.step` lets one of several runs advance, `Fleet.follow` follows a schedule;
* `Fleet.roundRobin` lets all runs advance in turn until they are finished.
-/

import Provision.Deployment.Basic

namespace Provision

/-- What a run is about to do. -/
inductive Run.Stage where
  /-- To create the resource of the first pending declaration. -/
  | creating
  /-- To find out which resource has taken the name of the first pending declaration. -/
  | settling (taken : String)
  /-- Nothing more, since a declaration could not be realised. -/
  | failed (error : ZoneError)
  deriving DecidableEq

/-- A deployment between two calls. -/
structure Run where
  group : ResourceGroup
  zone : String
  /-- What the realised declarations led to, in order. -/
  made : List DeployedResource := []
  pending : List Declaration
  stage : Run.Stage := .creating

namespace Run

/-- A deployment before its first call. -/
def start (blueprint : Blueprint) : Run where
  group := blueprint.group
  zone := blueprint.zone
  pending := blueprint.declarations
  stage := match blueprint.fault? with
    | some fault => .failed (.invalidRequest fault)
    | none => .creating

/-- The result of a run that makes no more calls. -/
def result? (run : Run) : Option (Except ZoneError (List DeployedResource)) :=
  match run.stage, run.pending with
  | .failed error, _ => some (.error error)
  | _, [] => some (.ok run.made)
  | _, _ :: _ => none

/-- The run after its first pending declaration came to an end. -/
def conclude (run : Run) (rest : List Declaration) :
    Except ZoneError DeployedResource → Run
  | .ok resource => { run with made := run.made ++ [resource], pending := rest, stage := .creating }
  | .error error => { run with stage := .failed error }

/-- The run after its first pending declaration was to be created. -/
def created (run : Run) (declaration : Declaration) (rest : List Declaration) :
    Answer DeployedResource → Run
  | .ok resource => run.conclude rest (.ok resource)
  | .error (.alreadyExists taken) => { run with stage := .settling taken }
  | .error cause => run.conclude rest (.error (declaration.refused cause))

variable {m : Type → Type} [Monad m]

/-- The run after its next call. -/
def advance (provider : Provider m) (run : Run) : m Run :=
  match run.stage, run.pending with
  | .creating, declaration :: rest => do
    let answer ← provider.create run.group declaration.definition (declaration.tags run.zone)
    pure (run.created declaration rest answer)
  | .settling taken, declaration :: rest => do
    let answer ← provider.find run.group declaration.definition.kind declaration.definition.name
    pure (run.conclude rest (declaration.settle run.zone taken answer))
  | _, _ => pure run

/-- How many calls a run can still make. -/
def remaining (run : Run) : Nat :=
  match run.stage with
  | .creating => 2 * run.pending.length
  | .settling _ => 2 * run.pending.length - 1
  | .failed _ => 0

end Run

/-- Deployments that reach the same provider. -/
abbrev Fleet := List Run

namespace Fleet

variable {m : Type → Type} [Monad m]

/-- The fleet after a call of the run at an index. -/
def step (provider : Provider m) (index : Nat) (fleet : Fleet) : m Fleet :=
  match fleet[index]? with
  | some run => do
    let after ← run.advance provider
    pure (fleet.set index after)
  | none => pure fleet

/-- The fleet after calls in the order of a schedule. -/
def follow (provider : Provider m) : List Nat → Fleet → m Fleet
  | [], fleet => pure fleet
  | index :: rest, fleet => do
    let after ← step provider index fleet
    follow provider rest after

/-- A schedule in which all runs advance in turn, long enough for all of them to finish. -/
def schedule (fleet : Fleet) : List Nat :=
  (List.replicate ((fleet.map Run.remaining).foldl max 0) (List.range fleet.length)).flatten

/-- The results of several deployments that advance in turn. -/
def roundRobin (provider : Provider m) (blueprints : List Blueprint) :
    m (List (Except ZoneError (List DeployedResource))) := do
  let fleet := blueprints.map Run.start
  let after ← follow provider (schedule fleet) fleet
  pure (after.filterMap Run.result?)

end Fleet

end Provision
