/-
**Errors of a store.**

* `StoreError` says why a store cannot be used;
* `StoreError.toCloud` is what a provider reports that keeps its resources in a store.
-/

import Provision.Error
import Provision.Instant.Basic

namespace Provision

/-- Why a store cannot be used. -/
inductive StoreError where
  /-- The stored state is of a version that is not known yet. -/
  | unsupportedVersion (found : UInt32)
  /-- Somebody else uses the store. -/
  | locked (holder : String) (since : Instant)
  | file (error : FileError)
  /-- The stored state cannot be read. -/
  | document
  deriving DecidableEq, Repr

namespace StoreError

/-- The latest version of a stored state that is known. -/
def supportedVersion : UInt32 := 1

/-- The wording of an error. -/
def message : StoreError → String
  | unsupportedVersion found =>
    "State file version " ++ toString found.toNat ++ " is newer than supported version " ++
      toString supportedVersion.toNat
  | locked holder since => "State is locked by " ++ holder ++ " since " ++ since.offsetText
  | file error => (CloudError.file error).message
  | document => CloudError.document.message

/-- What a provider reports. -/
def toCloud : StoreError → CloudError
  | file error => .file error
  | document => .document
  | other => .api other.message

end StoreError

end Provision
