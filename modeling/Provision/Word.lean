/-
**Words that stand for something.**

Purposes are named by their words, kinds of resources by the provider's types. A word that stands for
nothing is an error:

* `ResourcePurpose.parse`, `SubnetPurpose.parse` and `ResourceKind.parse` read a word;
* `UnknownWord` is the error.
-/

import Provision.Purpose
import Provision.Resource.Kind

namespace Provision

/-- A word that stands for nothing, and for what it was to stand. -/
inductive UnknownWord where
  | resourcePurpose (word : String)
  | subnetPurpose (word : String)
  | resourceKind (word : String)
  deriving DecidableEq, Repr

/-- The wording of the error. -/
def UnknownWord.message : UnknownWord → String
  | resourcePurpose word => "unknown resource purpose: " ++ word
  | subnetPurpose word => "unknown subnet purpose: " ++ word
  | resourceKind word => "unsupported resource type: " ++ word

/-- An optional value, or the error that stands for its absence. -/
def orUnknown {α : Type} (error : UnknownWord) : Option α → Except UnknownWord α
  | some value => .ok value
  | none => .error error

/-- The purpose of a resource that a word stands for. -/
def ResourcePurpose.parse (word : String) : Except UnknownWord ResourcePurpose :=
  orUnknown (.resourcePurpose word) (ofWord? word)

/-- The purpose of a subnet that a word stands for. -/
def SubnetPurpose.parse (word : String) : Except UnknownWord SubnetPurpose :=
  orUnknown (.subnetPurpose word) (ofWord? word)

/-- The kind of resource that a type of the provider stands for. -/
def ResourceKind.parse (word : String) : Except UnknownWord ResourceKind :=
  orUnknown (.resourceKind word) (ofType? word)

end Provision
