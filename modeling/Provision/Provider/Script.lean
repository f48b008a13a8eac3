/-
**Prepared answers.**

A provider can be put behind answers that are prepared in advance, one queue for each of its calls:
as long as a queue holds answers, the call gets the oldest of them and does not reach the provider.

* `Script` holds the queues;
* `Script.before` is a provider behind them.
-/

import Provision.Provider.Basic

namespace Provision

/-- Answers prepared for the calls of a provider. -/
structure Script where
  create : List (Answer DeployedResource) := []
  find : List (Answer (Option DeployedResource)) := []
  list : List (Answer (List DeployedResource)) := []
  subnets : List (Answer Subnets) := []

namespace Script

/-- A call behind a queue: the oldest answer of the queue, else that of the call. -/
def answer {m : Type → Type} [Monad m] {α : Type} (queue : Script → List (Answer α))
    (update : Script → List (Answer α) → Script) (call : m (Answer α)) :
    StateT Script m (Answer α) := fun script =>
  match queue script with
  | prepared :: rest => pure (prepared, update script rest)
  | [] => do
    let answer ← call
    pure (answer, script)

/-- A provider behind prepared answers. -/
def before {m : Type → Type} [Monad m] (provider : Provider m) : Provider (StateT Script m) where
  name := provider.name
  create := fun group definition tags =>
    answer (·.create) (fun script rest => { script with create := rest })
      (provider.create group definition tags)
  find := fun group kind name =>
    answer (·.find) (fun script rest => { script with find := rest })
      (provider.find group kind name)
  list := fun group =>
    answer (·.list) (fun script rest => { script with list := rest }) (provider.list group)
  subnets := fun network =>
    answer (·.subnets) (fun script rest => { script with subnets := rest })
      (provider.subnets network)

end Script

end Provision
