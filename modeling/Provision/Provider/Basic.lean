/-
**Providers.**

Whatever creates resources and says which ones exist is a provider. Deployments and surveys reach
resources through it alone:

* `Provider` has four calls, each of which may fail;
* `Provider.map` is the same provider, called from elsewhere.
-/

import Provision.Error
import Provision.Resource.Definition
import Provision.Resource.Deployed

namespace Provision

/-- What a call to a provider answers. -/
abbrev Answer := Except CloudError

/-- Whatever creates resources and says which ones exist. -/
structure Provider (m : Type → Type) where
  name : String
  /-- Creates a resource with all its tags. A resource of the same kind and name in the group is
  reported as `CloudError.alreadyExists`. -/
  create : ResourceGroup → ResourceDefinition → Tags → m (Answer DeployedResource)
  /-- The resource of a kind and name. -/
  find : ResourceGroup → ResourceKind → String → m (Answer (Option DeployedResource))
  /-- Every resource of a group with its current tags. -/
  list : ResourceGroup → m (Answer (List DeployedResource))
  /-- The subnets of the virtual network with an identifier. -/
  subnets : String → m (Answer Subnets)

/-- The same provider, called from elsewhere. -/
def Provider.map {m n : Type → Type} (lift : {α : Type} → m α → n α) (provider : Provider m) :
    Provider n where
  name := provider.name
  create := fun group definition tags => lift (provider.create group definition tags)
  find := fun group kind name => lift (provider.find group kind name)
  list := fun group => lift (provider.list group)
  subnets := fun network => lift (provider.subnets network)

end Provision
