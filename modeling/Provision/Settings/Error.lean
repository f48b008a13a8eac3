/-
**Errors of settings.**

* `SettingsFault` says what is wrong with a document that should hold settings;
* `SettingsError` says why there are no settings.
-/

import Provision.Files.Error

namespace Provision

/-- What is wrong with a document that should hold settings. -/
inductive SettingsFault where
  | noGroup
  | unnamedGroup
  | noRegion (group : String)
  | noSubscription (group : String)
  | noStateDirectory
  deriving DecidableEq, Repr

/-- The wording of a fault. -/
def SettingsFault.text : SettingsFault → String
  | noGroup => "a resource-group node is required"
  | unnamedGroup => "resource-group requires a name"
  | noRegion group => "resource-group '" ++ group ++ "' requires a region"
  | noSubscription group => "resource-group '" ++ group ++ "' requires a subscription"
  | noStateDirectory => "state-dir requires a path"

/-- Why there are no settings. -/
inductive SettingsError where
  /-- There is no file with settings, and the environment does not stand in for one. -/
  | notFound
  /-- The file is no KDL document. -/
  | malformed
  | invalid (fault : SettingsFault)
  | file (error : FileError)
  deriving DecidableEq, Repr

namespace SettingsError

/-- The description of a text that is no KDL document. -/
def malformedText : String := "Failed to parse KDL document"

/-- The wording of an error. -/
def message : SettingsError → String
  | notFound =>
    "No landingzone.kdl found (set LZ_CONFIG_PATH or run inside a configured directory)"
  | malformed => "KDL parse error: " ++ malformedText
  | invalid fault => "Invalid configuration: " ++ fault.text
  | file error => "IO error: " ++ error.text

/-- The wordings of what led to an error. -/
def causes : SettingsError → List String
  | malformed => [malformedText]
  | file error => [error.text]
  | _ => []

end SettingsError

end Provision
