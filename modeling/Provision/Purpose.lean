/-
**Purposes.**

A resource serves the landing zone in one of three roles, a subnet in one of five. The word for a
role is what is written into tags:

* `ResourcePurpose.word` and `SubnetPurpose.word` spell a role;
* `ofWord?` recognises exactly these spellings (`ofWord?_word`);
* `rank` orders roles as they are declared.
-/

namespace Provision

/-- The role of a whole resource. -/
inductive ResourcePurpose where
  /-- Shared by every workspace of the landing zone. -/
  | shared
  /-- Dedicated to the computing of workspaces. -/
  | workspace
  /-- A sink for monitoring and diagnostics. -/
  | monitoring
  deriving DecidableEq, Repr

namespace ResourcePurpose

/-- Every role of a resource, in order. -/
def all : List ResourcePurpose := [shared, workspace, monitoring]

/-- The word for a role. -/
def word : ResourcePurpose → String
  | shared => "SHARED_RESOURCE"
  | workspace => "WORKSPACE_RESOURCE"
  | monitoring => "MONITORING_RESOURCE"

/-- The place of a role in the order. -/
def rank : ResourcePurpose → Nat
  | shared => 0
  | workspace => 1
  | monitoring => 2

/-- The role that a word stands for. -/
def ofWord? (text : String) : Option ResourcePurpose := all.find? (·.word == text)

theorem ofWord?_word (purpose : ResourcePurpose) : ofWord? purpose.word = some purpose := by
  cases purpose <;> decide

theorem word_injective {first second : ResourcePurpose} (same : first.word = second.word) :
    first = second := by
  have found := ofWord?_word first
  rw [same, ofWord?_word] at found
  exact (Option.some.inj found).symm

end ResourcePurpose

/-- The role of a subnet in a virtual network. -/
inductive SubnetPurpose where
  | workspaceCompute
  | workspaceStorage
  | workspaceBatch
  | aksNodePool
  | postgresql
  deriving DecidableEq, Repr

namespace SubnetPurpose

/-- Every role of a subnet, in order. -/
def all : List SubnetPurpose :=
  [workspaceCompute, workspaceStorage, workspaceBatch, aksNodePool, postgresql]

/-- The word for a role. -/
def word : SubnetPurpose → String
  | workspaceCompute => "WORKSPACE_COMPUTE_SUBNET"
  | workspaceStorage => "WORKSPACE_STORAGE_SUBNET"
  | workspaceBatch => "WORKSPACE_BATCH_SUBNET"
  | aksNodePool => "AKS_NODE_POOL_SUBNET"
  | postgresql => "POSTGRESQL_SUBNET"

/-- The place of a role in the order. -/
def rank : SubnetPurpose → Nat
  | workspaceCompute => 0
  | workspaceStorage => 1
  | workspaceBatch => 2
  | aksNodePool => 3
  | postgresql => 4

/-- The role that a word stands for. -/
def ofWord? (text : String) : Option SubnetPurpose := all.find? (·.word == text)

theorem ofWord?_word (purpose : SubnetPurpose) : ofWord? purpose.word = some purpose := by
  cases purpose <;> decide

theorem word_injective {first second : SubnetPurpose} (same : first.word = second.word) :
    first = second := by
  have found := ofWord?_word first
  rw [same, ofWord?_word] at found
  exact (Option.some.inj found).symm

end SubnetPurpose

end Provision
