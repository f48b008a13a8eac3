/-
**Errors.**

Two layers. A provider reports why a single call failed; a landing zone operation says what it was
doing when that happened, or that it was asked for something impossible:

* `CloudError` is the first layer, `ZoneError` the second;
* `message` words an error, `causes` lists the wordings of what led to it;
* `ZoneError.isRetryable` holds of the errors that a provider caused, and of no others.
-/

import Provision.Files.Error
import Provision.Resource.Kind
import Provision.Purpose

namespace Provision

/-- Why a call to a provider failed. -/
inductive CloudError where
  /-- A resource of that kind and name exists. -/
  | alreadyExists (text : String)
  | notFound (text : String)
  | api (text : String)
  | invalidDefinition (text : String)
  | file (error : FileError)
  /-- A stored document cannot be read. -/
  | document
  deriving DecidableEq, Repr

/-- The description of a document that cannot be read. -/
def unreadableText : String := "not a document of the expected form"

namespace CloudError

/-- The wording of an error. -/
def message : CloudError → String
  | alreadyExists text => "Resource already exists: " ++ text
  | notFound text => "Resource not found: " ++ text
  | api text => "API error: " ++ text
  | invalidDefinition text => "Invalid resource definition: " ++ text
  | file error => "IO error: " ++ error.text
  | document => "JSON error: " ++ unreadableText

/-- The wordings of what led to an error. -/
def causes : CloudError → List String
  | file error => [error.text]
  | document => [unreadableText]
  | _ => []

end CloudError

/-- What is wrong with a request. -/
inductive Fault where
  | blankZone
  | blankTopology
  | blankVersion
  /-- A resource was declared without a name. -/
  | unnamed (kind : ResourceKind)
  /-- A purpose was given to a subnet that its virtual network does not define. -/
  | undefinedSubnet (purpose : SubnetPurpose) (subnet network : String)
  deriving DecidableEq, Repr

/-- The wording of a fault. -/
def Fault.text : Fault → String
  | blankZone => "landing zone id must not be blank"
  | blankTopology => "factory identifier must not be blank"
  | blankVersion => "definition version must not be blank"
  | unnamed kind => kind.type ++ " declared without a name"
  | undefinedSubnet purpose subnet network =>
    "subnet '" ++ subnet ++ "' tagged " ++ purpose.word ++
      " is not defined in virtual network '" ++ network ++ "'"

/-- Why an operation on a landing zone failed. -/
inductive ZoneError where
  | unknownTopology (identifier : String)
  | unsupportedVersion (topology version : String)
  | invalidRequest (fault : Fault)
  /-- A resource could not be created. -/
  | creation (kind : ResourceKind) (name : String) (cause : CloudError)
  /-- A tag names a subnet that the virtual network does not have. -/
  | staleTag (network subnet : String) (purpose : SubnetPurpose)
  | provider (cause : CloudError)
  deriving DecidableEq, Repr

namespace ZoneError

/-- The wording of an error. -/
def message : ZoneError → String
  | unknownTopology identifier => "Unknown landing zone factory: " ++ identifier
  | unsupportedVersion topology version =>
    "Factory '" ++ topology ++ "' does not support version '" ++ version ++ "'"
  | invalidRequest fault => "Invalid argument: " ++ fault.text
  | creation kind name cause =>
    "Failed to create " ++ kind.type ++ " '" ++ name ++ "': " ++ cause.message
  | staleTag network subnet purpose =>
    "Virtual network " ++ network ++ " tags subnet '" ++ subnet ++ "' as " ++ purpose.word ++
      ", but no such subnet exists"
  | provider cause => "Provider error: " ++ cause.message

/-- What a provider reported, if one caused the error. -/
def cause? : ZoneError → Option CloudError
  | creation _ _ cause | provider cause => some cause
  | _ => none

/-- The wordings of what led to an error. -/
def causes (error : ZoneError) : List String :=
  match error.cause? with
  | some cause => cause.message :: cause.causes
  | none => []

/-- Whether the same request can succeed later. -/
def isRetryable (error : ZoneError) : Bool := error.cause?.isSome

end ZoneError

end Provision
