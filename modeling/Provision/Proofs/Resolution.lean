/-
**Where settings come from.**

Four places can have a file with settings, and three variables can override what it says. On every
machine, in every environment:

* `Settings.named?`, `Settings.nearest?` and `Settings.users?` are the files of the places, if they are
  there; `Settings.find_apply` says that the first of them is found;
* `Settings.Holds` says what a file says, `Settings.placed` what is made of it;
* **`Settings.load_eq_ok_iff_of_file`**, `Settings.load_of_none` — the settings with a file and without;
* **`settings_are_resolved`** — all of it, with the way up from the current directory.
-/

import Mathlib.Data.List.Nodup
import Provision.Proofs.Deployment
import Provision.Proofs.Files.Ascent
import Provision.Settings.Discovery

namespace Provision

/-- Whether anything is known to be at the end of a path. -/
def Machine.there (machine : Machine) (path : String) : Bool :=
  match machine.tree.exists? machine.directory path with
  | .ok found => found
  | .error _ => false

namespace Settings

variable (environment : Environment) (machine : Machine)

/-! ### Finding a file -/

/-- The file that the environment names, if it is there. -/
def named? : Option String := (environment.value? fileVariable).filter machine.there

/-- The file in the nearest of the current directory and those above it that has one. -/
def nearest? : Option String :=
  environment.directory?.bind fun directory =>
    ((directory :: Path.parents directory).map (Path.join · fileName)).find? machine.there

/-- The file of the user, if it is there. -/
def users? : Option String := (userFile? environment).filter machine.there

theorem isThere_apply (path : String) :
    isThere Machine.disk path machine = (machine.there path, machine) := by
  unfold isThere
  rw [bind_apply]
  show (match machine.tree.exists? machine.directory path with
    | .ok found => pure found
    | .error _ => pure false : StateM Machine Bool) machine = _
  unfold Machine.there
  cases machine.tree.exists? machine.directory path <;> rfl

/-- The first directory that has a file settles the search. -/
theorem findIn_apply (directories : List String) :
    findIn Machine.disk directories machine =
      ((directories.map (Path.join · fileName)).find? machine.there, machine) := by
  induction directories with
  | nil => rfl
  | cons directory rest hyp =>
      simp only [findIn, bind_apply, isThere_apply, List.map_cons]
      by_cases there : machine.there (Path.join directory fileName) = true
      · rw [List.find?_cons_of_pos there, if_pos there]
        rfl
      · rw [List.find?_cons_of_neg there, if_neg there, hyp]

theorem findUser_apply :
    findUser Machine.disk environment machine = (users? environment machine, machine) := by
  unfold findUser users?
  cases userFile? environment with
  | none => rfl
  | some path =>
      simp only [bind_apply, isThere_apply]
      by_cases there : machine.there path = true
      · rw [Option.filter_some_pos there, if_pos there]
        rfl
      · rw [Option.filter_some_neg (by simpa using there), if_neg there]
        rfl

theorem findNearby_apply :
    findNearby Machine.disk environment machine =
      ((nearest? environment machine).or (users? environment machine), machine) := by
  unfold findNearby nearest?
  cases environment.directory? with
  | none => exact findUser_apply environment machine
  | some directory =>
      simp only [bind_apply, findFrom, findIn_apply, Option.bind_some]
      cases ((directory :: Path.parents directory).map (Path.join · fileName)).find? machine.there with
      | none => exact findUser_apply environment machine
      | some path => rfl

/-- **The file that the environment names comes first, then the nearest one, then that of the user.** -/
theorem find_apply :
    find Machine.disk environment machine =
      ((named? environment machine).or
        ((nearest? environment machine).or (users? environment machine)), machine) := by
  unfold find named?
  cases environment.value? fileVariable with
  | none => exact findNearby_apply environment machine
  | some path =>
      simp only [bind_apply, isThere_apply]
      by_cases there : machine.there path = true
      · rw [Option.filter_some_pos there, if_pos there]
        rfl
      · rw [Option.filter_some_neg (by simpa using there), if_neg there]
        exact findNearby_apply environment machine

/-! ### Reading it -/

/-- A file can be read, and says these settings. -/
def Holds (path : String) (settings : Settings) : Prop :=
  ∃ bytes text, machine.tree.read machine.directory path = .ok bytes ∧
    Utf8.text? bytes = some text ∧ ofText text = .ok settings

/-- What is made of the settings of a file in a directory: variables that are not blank override the
group, and the directory of the store is taken from where the file is, unless it is absolute. -/
def placed (path above : String) (settings : Settings) : Settings where
  group :=
    { name := (environment.filled? groupVariable).getD settings.group.name
      region := (environment.filled? regionVariable).getD settings.group.region
      subscription := (environment.filled? subscriptionVariable).getD settings.group.subscription }
  stateDirectory :=
    if Path.isAbsolute settings.stateDirectory then settings.stateDirectory
    else Path.join above settings.stateDirectory
  source? := some path

theorem join_eq (above path : String) :
    Path.join above path = if Path.isAbsolute path then path else Path.join above path := by
  by_cases absolute : Path.isAbsolute path = true
  · rw [if_pos absolute, Path.join, absolute]
    rfl
  · rw [if_neg absolute]

/-- What the bytes of a file come to. -/
theorem map_ofBytes_eq_ok_iff {path above : String} (next : Path.parent? path = some above)
    (bytes : Bytes) (settings : Settings) :
    (ofBytes path bytes).map (override environment) = .ok settings ↔
      ∃ text given, Utf8.text? bytes = some text ∧ ofText text = .ok given ∧
        settings = placed environment path above given := by
  unfold ofBytes
  cases Utf8.text? bytes with
  | none => simp [Except.map]
  | some text =>
      cases parsed : ofText text with
      | error error => simp [Except.map, parsed]
      | ok given =>
          have made : override environment { given with
              stateDirectory := Path.join above given.stateDirectory, source? := some path } =
                placed environment path above given := by
            rw [join_eq]
            rfl
          simp only [parsed, next, Except.map, made, Except.ok.injEq, Option.some.injEq]
          constructor
          · rintro rfl
            exact ⟨text, given, rfl, parsed, rfl⟩
          · rintro ⟨_, other, rfl, same, rfl⟩
            obtain rfl := Except.ok.inj (parsed.symm.trans same)
            rfl

theorem ofFile_apply (path : String) :
    ofFile Machine.disk path machine =
      (match machine.tree.read machine.directory path with
        | .error error => .error (.file error)
        | .ok bytes => ofBytes path bytes, machine) := by
  unfold ofFile
  rw [bind_apply]
  show (match machine.tree.read machine.directory path with
    | .error error => pure (.error (.file error))
    | .ok bytes => pure (ofBytes path bytes) : StateM Machine (Except SettingsError Settings)) machine = _
  cases machine.tree.read machine.directory path <;> rfl

/-- The file that settings are loaded from, if any. -/
def chosen? (path? : Option String) : Option String :=
  path?.or ((named? environment machine).or
    ((nearest? environment machine).or (users? environment machine)))

theorem load_apply (path? : Option String) :
    load Machine.disk environment path? machine =
      (((match chosen? environment machine path? with
        | none => ofEnvironment environment
        | some path => (ofFile Machine.disk path machine).1).map (override environment)), machine) := by
  have rest : ∀ found? : Option String, (match found? with
      | none => pure ((ofEnvironment environment).map (override environment))
      | some path => do
        let settings ← ofFile Machine.disk path
        pure (settings.map (override environment)) :
          StateM Machine (Except SettingsError Settings)) machine =
        ((match found? with
          | none => ofEnvironment environment
          | some path => (ofFile Machine.disk path machine).1).map (override environment), machine) := by
    intro found?
    cases found? with
    | none => rfl
    | some path =>
        simp only [bind_apply]
        rw [ofFile_apply]
        rfl
  unfold load chosen?
  cases path? with
  | none =>
      simp only [bind_apply, find_apply]
      exact rest _
  | some path => exact rest (some path)

variable {environment machine} {path? : Option String}

/-- **With a file, the settings are what is made of those that it says.** -/
theorem load_eq_ok_iff_of_file {path : String} (file : chosen? environment machine path? = some path)
    (settings : Settings) :
    (load Machine.disk environment path? machine).1 = .ok settings ↔
      ∃ given above, Holds machine path given ∧ Path.parent? path = some above ∧
        settings = placed environment path above given := by
  rw [load_apply, file]
  simp only [ofFile_apply]
  cases read : machine.tree.read machine.directory path with
  | error error => simp [Holds, read, Except.map]
  | ok bytes =>
      obtain ⟨above, next⟩ := FileTree.exists_parent_of_read read
      rw [map_ofBytes_eq_ok_iff environment next]
      constructor
      · rintro ⟨text, given, spelled, parsed, same⟩
        exact ⟨given, above, ⟨bytes, text, read, spelled, parsed⟩, next, same⟩
      · rintro ⟨given, other, ⟨bytes', text, read', spelled, parsed⟩, next', same⟩
        obtain rfl := Except.ok.inj (read.symm.trans read')
        obtain rfl := Option.some.inj (next.symm.trans next')
        exact ⟨text, given, spelled, parsed, same⟩

/-- With a file there are settings exactly when it can be read and says some. -/
theorem exists_load_iff_of_file {path : String} (file : chosen? environment machine path? = some path) :
    (∃ settings, (load Machine.disk environment path? machine).1 = .ok settings) ↔
      ∃ given, Holds machine path given := by
  constructor
  · rintro ⟨settings, loaded⟩
    obtain ⟨given, above, holds, -, -⟩ := (load_eq_ok_iff_of_file file settings).mp loaded
    exact ⟨given, holds⟩
  · rintro ⟨given, bytes, text, read, spelled, parsed⟩
    obtain ⟨above, next⟩ := FileTree.exists_parent_of_read read
    refine ⟨placed environment path above given, (load_eq_ok_iff_of_file file _).mpr ?_⟩
    exact ⟨given, above, ⟨bytes, text, read, spelled, parsed⟩, next, rfl⟩

/-- Without a file the variables give the settings, if none of them is missing or blank. -/
theorem load_of_none (bare : chosen? environment machine path? = none) :
    (load Machine.disk environment path? machine).1 =
      match environment.filled? groupVariable, environment.filled? regionVariable,
          environment.filled? subscriptionVariable with
      | some name, some region, some subscription =>
        .ok { group := ⟨name, region, subscription⟩, stateDirectory := ".landingzone", source? := none }
      | _, _, _ => .error .notFound := by
  rw [load_apply, bare]
  unfold ofEnvironment override
  cases environment.filled? groupVariable <;> cases environment.filled? regionVariable <;>
    cases environment.filled? subscriptionVariable <;> rfl

end Settings

/-- **Settings are resolved as they should be**, on every machine and in every environment.

The file is the given one, else the first of the named, the nearest and the user's; the way up from the
current directory passes the directory above each path until there is none. With a file there are
settings exactly when it can be read and says some, and they are those with what overrides them.
Without one there are settings exactly when all variables are set and not blank. -/
theorem settings_are_resolved (environment : Environment) (machine : Machine)
    (path? : Option String) :
    let reply := Settings.load Machine.disk environment path? machine
    let chosen? := path?.or ((Settings.named? environment machine).or
      ((Settings.nearest? environment machine).or (Settings.users? environment machine)))
    reply.2 = machine ∧
    (∀ directory, Path.Ascent directory (Path.parents directory)) ∧
    (∀ path, chosen? = some path →
      ((∃ settings, reply.1 = .ok settings) ↔ ∃ given, Settings.Holds machine path given) ∧
      ∀ settings, reply.1 = .ok settings ↔
        ∃ given above, Settings.Holds machine path given ∧ Path.parent? path = some above ∧
          settings = Settings.placed environment path above given) ∧
    (chosen? = none → reply.1 =
      match environment.filled? Settings.groupVariable, environment.filled? Settings.regionVariable,
          environment.filled? Settings.subscriptionVariable with
      | some name, some region, some subscription =>
        .ok { group := ⟨name, region, subscription⟩, stateDirectory := ".landingzone", source? := none }
      | _, _, _ => .error .notFound) := by
  refine ⟨by rw [Settings.load_apply], Path.ascent_parents, ?_, ?_⟩
  · intro path file
    exact ⟨Settings.exists_load_iff_of_file file, Settings.load_eq_ok_iff_of_file file⟩
  · intro bare
    exact Settings.load_of_none bare

/-! ### A file two directories up -/

/-- A document with settings. -/
def checkoutText : String := "resource-group rg {region eastus;subscription sub}"

/-- A directory whose settings are two levels above the current directory. -/
def checkout : Machine where
  tree := ((((∅ : FileTree).insert ["work"] .directory).insert ["work", "zones"] .directory).insert
    ["work", "zones", "dev"] .directory).insert ["work", "landingzone.kdl"]
      (.file (Utf8.encode checkoutText.toList) ⟨1700000000, 0⟩)
  directory := ["work", "zones", "dev"]
  now := ⟨1700000000, 0⟩

/-- An environment that names a file that is not there, overrides the region and leaves the
subscription blank. -/
def checkoutEnvironment : Environment where
  value? := fun name =>
    if name = Settings.fileVariable then some "missing.kdl"
    else if name = Settings.regionVariable then some "westus"
    else if name = Settings.subscriptionVariable then some "  "
    else none
  directory? := some "/work/zones/dev"

theorem checkout_settings_are_resolved :
    Settings.nearest? checkoutEnvironment checkout = some "/work/landingzone.kdl" ∧
    (Settings.load Machine.disk checkoutEnvironment none checkout).1 =
      .ok { group := ⟨"rg", "westus", "sub"⟩, stateDirectory := "/work/.landingzone",
            source? := some "/work/landingzone.kdl" } := by
  have named : Settings.named? checkoutEnvironment checkout = none := by
    decide +kernel
  have nearest : Settings.nearest? checkoutEnvironment checkout = some "/work/landingzone.kdl" := by
    decide +kernel
  have parsed : Settings.ofText checkoutText =
      .ok { group := ⟨"rg", "eastus", "sub"⟩, stateDirectory := ".landingzone" } := by
    decide +kernel
  have holds : Settings.Holds checkout "/work/landingzone.kdl"
      { group := ⟨"rg", "eastus", "sub"⟩, stateDirectory := ".landingzone" } := by
    refine ⟨Utf8.encode checkoutText.toList, checkoutText, ?_, ?_, parsed⟩
    · decide +kernel
    · decide +kernel
  obtain ⟨-, -, resolved, -⟩ := settings_are_resolved checkoutEnvironment checkout none
  obtain ⟨-, made⟩ := resolved "/work/landingzone.kdl" (by rw [named, nearest]; rfl)
  refine ⟨nearest, (made _).mpr ⟨_, "/work", holds, ?_, ?_⟩⟩
  · decide +kernel
  · decide +kernel

end Provision
