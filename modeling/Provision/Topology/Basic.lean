/-
**Topologies.**

A topology is a shape that a landing zone can have. It comes in versions and declares its resources
on a blueprint. The names of the resources are drawn in a fixed order, so that the same landing zone
always gets the same names:

* `Topology.versions` lists the versions of a topology;
* `managedNetwork` and `kubernetesWorkspace` declare the resources of the two shapes;
* `Topology.extend` declares those of a topology in a version.
-/

import Provision.Blueprint
import Provision.Name
import Provision.Version

namespace Provision

/-- A shape that a landing zone can have. -/
inductive Topology where
  /-- Shared storage and one virtual network, from the second version on with batch computing. -/
  | managedNetwork
  /-- A cluster, a database and a relay behind a shared network. -/
  | kubernetesWorkspace
  deriving DecidableEq, Repr

/-- A name for people and a short description. -/
structure Header where
  title : String
  description : String
  deriving DecidableEq, Repr

namespace Topology

/-- The key of a topology. -/
def identifier : Topology → String
  | managedNetwork => "managed-network"
  | kubernetesWorkspace => "kubernetes-workspace"

/-- What people are told about a topology. -/
def header : Topology → Header
  | managedNetwork =>
    { title := "Managed network with shared resources"
      description :=
        "Shared storage account and a virtual network with compute and storage subnets" }
  | kubernetesWorkspace =>
    { title := "Kubernetes workspace"
      description :=
        "Kubernetes cluster, PostgreSQL server and relay behind a shared network, " ++
          "with shared storage and log analytics" }

/-- The versions that a topology comes in. -/
def versions : Topology → List Version
  | managedNetwork => [.v1, .v2]
  | kubernetesWorkspace => [.v1]

/-- The name of the resource that is the `number`-th to draw one, as long as its kind allows. -/
def resourceName (zone : String) (number : Nat) (kind : ResourceKind) : String :=
  Naming.name zone number kind.maximumLength

/-- A resource with a drawn name. -/
def resource (zone region : String) (number : Nat) (kind : ResourceKind) : ResourceDefinition where
  name := resourceName zone number kind
  kind := kind
  region := region

/-- A virtual network with a drawn name. -/
def network (zone region : String) (number : Nat) (addresses : String)
    (subnets : List SubnetDefinition) : NetworkDefinition where
  name := resourceName zone number .virtualNetwork
  region := region
  addresses := addresses
  subnets := subnets

/-- A storage account with a drawn name. -/
def storage (zone region : String) (number : Nat) : ResourceDefinition :=
  (resource zone region number .storageAccount).withSetting "sku" (.string "Standard_LRS")

/-! ## The managed network -/

namespace ManagedNetwork

/-- The virtual network, with or without a subnet for batch computing. -/
def network (zone region : String) (batch : Bool) : NetworkDefinition :=
  Topology.network zone region 1 "10.1.0.0/27"
    ([⟨"compute", "10.1.0.0/29"⟩, ⟨"storage", "10.1.0.8/29"⟩] ++
      if batch then [⟨"batch", "10.1.0.16/29"⟩] else [])

/-- The resources of the topology, with or without batch computing. -/
def extend (batch : Bool) (region : String) (blueprint : Blueprint) : Blueprint :=
  let zone := blueprint.zone
  let network := network zone region batch
  let basis := blueprint
    |>.declare (storage zone region 0) (some .shared)
    |>.bind network "compute" .workspaceCompute
    |>.bind network "storage" .workspaceStorage
  if batch then
    basis
      |>.bind network "batch" .workspaceBatch
      |>.declare (resource zone region 2 .batchAccount) (some .shared)
  else basis

end ManagedNetwork

/-! ## The workspace on a cluster -/

namespace KubernetesWorkspace

/-- The virtual network. -/
def network (zone region : String) : NetworkDefinition :=
  Topology.network zone region 0 "10.1.0.0/16"
    [⟨"aks", "10.1.0.0/22"⟩, ⟨"postgres", "10.1.4.0/24"⟩, ⟨"compute", "10.1.5.0/24"⟩]

/-- The sink for diagnostics. -/
def logAnalytics (zone region : String) : ResourceDefinition :=
  (resource zone region 1 .logAnalyticsWorkspace).withSetting "retention_days" (.ofNat 30)

/-- The database server. -/
def database (zone region : String) : ResourceDefinition :=
  (resource zone region 3 .postgresServer)
    |>.withSetting "version" (.string "14")
    |>.withSetting "subnet" (.string "postgres")

/-- The cluster. -/
def cluster (zone region : String) : ResourceDefinition :=
  (resource zone region 4 .kubernetesCluster)
    |>.withSetting "node_count" (.ofNat 1)
    |>.withSetting "vm_size" (.string "Standard_A2_v2")
    |>.withSetting "subnet" (.string "aks")

/-- The resources of the topology. -/
def extend (region : String) (blueprint : Blueprint) : Blueprint :=
  let zone := blueprint.zone
  let network := network zone region
  blueprint
    |>.bind network "aks" .aksNodePool
    |>.bind network "postgres" .postgresql
    |>.bind network "compute" .workspaceCompute
    |>.declare (logAnalytics zone region) (some .monitoring)
    |>.declare (storage zone region 2) (some .shared)
    |>.declare (database zone region) (some .workspace)
    |>.declare (cluster zone region) (some .workspace)
    |>.declare (resource zone region 5 .relayNamespace)

end KubernetesWorkspace

/-- The blueprint with the resources of a topology in a version, placed in a region. -/
def extend (topology : Topology) (version : Version) (region : String) (blueprint : Blueprint) :
    Blueprint :=
  match topology with
  | managedNetwork => ManagedNetwork.extend (version != .v1) region blueprint
  | kubernetesWorkspace => KubernetesWorkspace.extend region blueprint

/-- The blueprint with the resources of a topology, if it comes in the version asked for. -/
def produce (topology : Topology) (version : Version) (region : String) (blueprint : Blueprint) :
    Except ZoneError Blueprint :=
  if version ∈ topology.versions then .ok (topology.extend version region blueprint)
  else .error (.unsupportedVersion topology.identifier version.text)

end Topology

end Provision
