/-
**Plans.**

A plan says what a deployment would create, in order, with all tags:

* `PlannedResource` is one resource of a plan, `Plan` the whole;
* `Plan.summary` counts, and `PlanSummary.text` words the counts.
-/

import Provision.Resource.Kind
import Provision.Tags

namespace Provision

/-- A resource that a deployment would create. -/
structure PlannedResource where
  name : String
  kind : ResourceKind
  purpose : Option ResourcePurpose
  /-- The subnets that serve a purpose. -/
  bindings : List (SubnetPurpose × String)
  /-- All tags that the resource would carry. -/
  tags : Tags
  deriving DecidableEq

/-- What a deployment would create. -/
structure Plan where
  /-- The landing zone that would own the resources. -/
  zone : String
  /-- The name of the resource group. -/
  group : String
  /-- The resources in the order of their creation. -/
  resources : List PlannedResource
  deriving DecidableEq

/-- The size of a plan. -/
structure PlanSummary where
  total : Nat
  withPurpose : Nat
  bindings : Nat
  deriving DecidableEq, Repr

/-- The wording of a summary. -/
def PlanSummary.text (summary : PlanSummary) : String :=
  toString summary.total ++ " to create, " ++ toString summary.withPurpose ++ " with purpose, " ++
    toString summary.bindings ++ " subnet bindings"

namespace Plan

/-- The names of the resources, in order. -/
def names (plan : Plan) : List String := plan.resources.map (·.name)

/-- The resources that serve a purpose. -/
def withPurpose (plan : Plan) (purpose : ResourcePurpose) : List PlannedResource :=
  plan.resources.filter (·.purpose == some purpose)

/-- The size of the plan. -/
def summary (plan : Plan) : PlanSummary where
  total := plan.resources.length
  withPurpose := (plan.resources.filter (·.purpose.isSome)).length
  bindings := (plan.resources.map (·.bindings.length)).foldl (· + ·) 0

end Plan

end Provision
