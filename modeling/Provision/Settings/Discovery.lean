/-
**Finding settings.**

Settings are read from the file that the environment names, else from the nearest file in the current
directory or above it, else from that of the user. Variables of the environment override what a file
says, and can stand in for it:

* `Settings.find` and `Settings.findFrom` look for a file;
* `Settings.userFile?` is the file of the user;
* `Settings.load` gives the settings.
-/

import Provision.Files.Host
import Provision.Settings.Basic

namespace Provision

/-- What surrounds a program that runs. A variable whose value is not valid Unicode cannot be expressed:
to the search for settings it is as good as unset, and so it is here; but the arguments take the path of a
file from a variable as it stands, so that they could tell the two apart. -/
structure Environment where
  /-- The value of a variable, if it is set, and to valid Unicode. -/
  value? : String → Option String
  /-- The path of the current directory, if it can be told. -/
  directory? : Option String
  /-- The home directory that the system knows for the user. -/
  userHome? : Option String := none

/-- The value of a variable, unless it is blank. -/
def Environment.filled? (environment : Environment) (name : String) : Option String :=
  (environment.value? name).filter fun value => !Text.isBlank value

namespace Settings

/-- The name of a file with settings. -/
def fileName : String := "landingzone.kdl"

/-- The variable that names a file with settings. -/
def fileVariable : String := "LZ_CONFIG_PATH"

/-- The variable that overrides the name of the resource group. -/
def groupVariable : String := "LZ_RESOURCE_GROUP"

/-- The variable that overrides the region. -/
def regionVariable : String := "LZ_REGION"

/-- The variable that overrides the subscription. -/
def subscriptionVariable : String := "LZ_SUBSCRIPTION_ID"

/-- The home directory of the user. -/
def homeDirectory? (environment : Environment) : Option String :=
  ((environment.value? "HOME").filter (!·.isEmpty)).or environment.userHome?

/-- The directory in which programs keep the settings of the user. -/
def userDirectory? (environment : Environment) : Option String :=
  ((environment.value? "XDG_CONFIG_HOME").filter Path.isAbsolute).or
    ((homeDirectory? environment).map (Path.join · ".config"))

/-- The file with the settings of the user. -/
def userFile? (environment : Environment) : Option String :=
  (userDirectory? environment).map fun directory =>
    Path.join (Path.join directory "landingzone") fileName

/-- The settings with what the environment overrides. -/
def override (environment : Environment) (settings : Settings) : Settings :=
  { settings with
    group :=
      { name := (environment.filled? groupVariable).getD settings.group.name
        region := (environment.filled? regionVariable).getD settings.group.region
        subscription := (environment.filled? subscriptionVariable).getD
          settings.group.subscription } }

/-- The settings that the environment alone gives. -/
def ofEnvironment (environment : Environment) : Except SettingsError Settings :=
  match environment.filled? groupVariable, environment.filled? regionVariable,
      environment.filled? subscriptionVariable with
  | some name, some region, some subscription =>
    .ok { group := ⟨name, region, subscription⟩, stateDirectory := standardDirectory }
  | _, _, _ => .error .notFound

/-- The settings of a file with given contents. The directory of the store is taken from where the
file is. -/
def ofBytes (path : String) (bytes : Bytes) : Except SettingsError Settings :=
  match Utf8.text? bytes with
  | none => .error (.file .notText)
  | some text =>
    match ofText text with
    | .error error => .error error
    | .ok settings =>
      .ok { settings with
        stateDirectory := match Path.parent? path with
          | some parent => Path.join parent settings.stateDirectory
          | none => settings.stateDirectory
        source? := some path }

variable {m : Type → Type} [Monad m]

/-- Whether anything is known to be at the end of a path. -/
def isThere (disk : Disk m) (path : String) : m Bool := do
  match ← disk.exists? path with
  | .ok found => pure found
  | .error _ => pure false

/-- The file with settings in the first of some directories that has one. -/
def findIn (disk : Disk m) : List String → m (Option String)
  | [] => pure none
  | directory :: rest => do
    let candidate := Path.join directory fileName
    if ← isThere disk candidate then pure (some candidate) else findIn disk rest

/-- The nearest file with settings in a directory or above it. -/
def findFrom (disk : Disk m) (directory : String) : m (Option String) :=
  findIn disk (directory :: Path.parents directory)

/-- The file of the user, if it exists. -/
def findUser (disk : Disk m) (environment : Environment) : m (Option String) := do
  match userFile? environment with
  | none => pure none
  | some path => if ← isThere disk path then pure (some path) else pure none

/-- The nearest file with settings above the current directory, else that of the user. -/
def findNearby (disk : Disk m) (environment : Environment) : m (Option String) := do
  let nearest ← match environment.directory? with
    | some directory => findFrom disk directory
    | none => pure none
  match nearest with
  | some path => pure (some path)
  | none => findUser disk environment

/-- The file with settings. -/
def find (disk : Disk m) (environment : Environment) : m (Option String) := do
  match environment.value? fileVariable with
  | none => findNearby disk environment
  | some path =>
    if ← isThere disk path then pure (some path) else findNearby disk environment

/-- The settings of a file, without what the environment overrides. -/
def ofFile (disk : Disk m) (path : String) : m (Except SettingsError Settings) := do
  match ← disk.read path with
  | .error error => pure (.error (.file error))
  | .ok bytes => pure (ofBytes path bytes)

/-- The settings of a file, or of the one that is found, or of the environment alone. -/
def load (disk : Disk m) (environment : Environment) (path? : Option String) :
    m (Except SettingsError Settings) := do
  let found ← match path? with
    | some path => pure (some path)
    | none => find disk environment
  match found with
  | none => pure ((ofEnvironment environment).map (override environment))
  | some path => do
    let settings ← ofFile disk path
    pure (settings.map (override environment))

end Settings

end Provision
