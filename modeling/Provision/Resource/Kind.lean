/-
**Kinds of resources.**

A landing zone declares resources of seven kinds. A kind has a word for documents and a type by which
the provider knows it:

* `ResourceKind.word` and `ResourceKind.ofWord?` are the words, spelled exactly;
* `ResourceKind.type` is the provider's type;
* `ResourceKind.hasType` and `ResourceKind.ofType?` compare types without regard to the case of ASCII
  letters.
-/

namespace Provision

/-- What a resource is. -/
inductive ResourceKind where
  | storageAccount
  | virtualNetwork
  | kubernetesCluster
  | logAnalyticsWorkspace
  | postgresServer
  | relayNamespace
  | batchAccount
  deriving DecidableEq, Repr

namespace ResourceKind

/-- Every kind, in order. -/
def all : List ResourceKind :=
  [storageAccount, virtualNetwork, kubernetesCluster, logAnalyticsWorkspace, postgresServer,
    relayNamespace, batchAccount]

/-- The word for a kind in documents. -/
def word : ResourceKind → String
  | storageAccount => "storage-account"
  | virtualNetwork => "virtual-network"
  | kubernetesCluster => "kubernetes-cluster"
  | logAnalyticsWorkspace => "log-analytics-workspace"
  | postgresServer => "postgres-server"
  | relayNamespace => "relay-namespace"
  | batchAccount => "batch-account"

/-- The type by which the provider knows a kind. -/
def type : ResourceKind → String
  | storageAccount => "Microsoft.Storage/storageAccounts"
  | virtualNetwork => "Microsoft.Network/virtualNetworks"
  | kubernetesCluster => "Microsoft.ContainerService/managedClusters"
  | logAnalyticsWorkspace => "Microsoft.OperationalInsights/workspaces"
  | postgresServer => "Microsoft.DBforPostgreSQL/flexibleServers"
  | relayNamespace => "Microsoft.Relay/namespaces"
  | batchAccount => "Microsoft.Batch/batchAccounts"

/-- The longest name that the provider accepts for a kind. -/
def maximumLength : ResourceKind → Nat
  | storageAccount => 24
  | virtualNetwork => 64
  | kubernetesCluster => 25
  | logAnalyticsWorkspace => 63
  | postgresServer => 63
  | relayNamespace => 50
  | batchAccount => 24

/-- A text with its ASCII letters in lower case. -/
def folded (text : String) : List Char := text.toList.map Char.toLower

/-- Whether a type, in any case, is that of the kind. -/
def hasType (kind : ResourceKind) (type : String) : Bool := folded kind.type == folded type

/-- The kind whose word is given. -/
def ofWord? (text : String) : Option ResourceKind := all.find? (·.word == text)

/-- The kind whose type is given, in any case. -/
def ofType? (type : String) : Option ResourceKind := all.find? (·.hasType type)

theorem ofWord?_word (kind : ResourceKind) : ofWord? kind.word = some kind := by
  cases kind <;> decide

theorem hasType_type (kind : ResourceKind) : kind.hasType kind.type = true := by
  simp [hasType]

end ResourceKind

end Provision
