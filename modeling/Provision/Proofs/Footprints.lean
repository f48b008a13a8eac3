/-
**What commands leave behind.**

A command is run in any tree of files and with any arguments, and ends in one way or another. What it
leaves behind follows from what it was asked for:

* `Request.IsRefused` is a request whose landing zone, topology or version is turned down, and
  `Catalog.isRefused_iff` says that there is no blueprint for such a request, and for no other;
* `Command.keeps_runTask`: whatever reading files keeps is kept by all that does not deploy;
* `Command.keeps_runDeploy`: a deployment keeps what the calls of its provider keep;
* **`commands_leave_footprints`** — nothing changes unless a deployment is asked for, with settings that
  can be loaded and a request that is not refused; then its store leaves a footprint, however far it
  gets;
* `detour_makes_directory_of_state`: the footprint where the directory is reached through the state file.
-/

import Provision.Proofs.Invocations
import Provision.Proofs.Store.Footprint

namespace Provision

/-! ### Requests that are refused -/

/-- The landing zone of a request is blank, or its topology does not come in its version, if it is
known at all. -/
def Request.IsRefused (catalog : Catalog) (request : Request) : Prop :=
  Text.isBlank request.zone = true ∨
    ∀ descriptor ∈ catalog.descriptor? request.topology, request.version ∉ descriptor.versions

namespace Catalog

/-- Neither an identifier nor a version that a catalog knows is blank. -/
def IsNamed (catalog : Catalog) : Prop :=
  ∀ registration ∈ catalog, Text.isBlank registration.identifier = false ∧
    ∀ version ∈ registration.topology.versions, version.isBlank = false

theorem isNamed_standard : standard.IsNamed := by
  unfold IsNamed
  decide +kernel

variable {catalog : Catalog} {request : Request}

theorem exists_error_of_isRefused (refused : request.IsRefused catalog) (group : ResourceGroup) :
    ∃ error, catalog.blueprint group request = .error error := by
  unfold blueprint
  cases faulty : request.fault? with
  | some fault => exact ⟨_, rfl⟩
  | none =>
      have filled : ¬Text.isBlank request.zone = true := by
        intro blank
        rw [Request.fault?, if_pos blank] at faulty
        cases faulty
      have unoffered := refused.resolve_left filled
      simp only [topology]
      cases found : catalog.find? (·.identifier == request.topology) with
      | none => exact ⟨_, rfl⟩
      | some registration =>
          refine ⟨_, if_neg (unoffered registration.descriptor ?_)⟩
          rw [descriptor?_eq, found]
          rfl

/-- **A request is refused exactly where there is no blueprint for it**, in a catalog where nothing is
blank. -/
theorem isRefused_iff (named : catalog.IsNamed) (group : ResourceGroup) :
    request.IsRefused catalog ↔ ∃ error, catalog.blueprint group request = .error error := by
  refine ⟨fun refused => exists_error_of_isRefused refused group, ?_⟩
  rintro ⟨error, rejected⟩
  by_contra accepted
  obtain ⟨filled, offered⟩ := not_or.mp accepted
  simp only [not_forall, not_not] at offered
  obtain ⟨descriptor, described, offers⟩ := offered
  rw [Option.mem_def, descriptor?_eq] at described
  obtain ⟨registration, found, rfl⟩ := Option.map_eq_some_iff.mp described
  obtain ⟨known, versions⟩ := named registration (List.mem_of_find?_eq_some found)
  have same : registration.identifier = request.topology := by
    simpa using List.find?_some found
  have faultless : request.fault? = none := by
    rw [Request.fault?, if_neg filled, ← same, known, versions _ offers]
    rfl
  unfold blueprint at rejected
  rw [faultless] at rejected
  simp only [topology, found] at rejected
  cases (if_pos offers).symm.trans rejected

end Catalog

namespace Command

/-! ### Commands and what they keep -/

section Keeping

variable {σ : Type} {holds : σ → Prop} {host : Host (StateM σ)} (styled : Bool) (settings : Settings)

section Looking

variable (reads : ∀ path, Keeps holds (host.disk.read path)) (clock : Keeps holds host.now)

include reads clock

/-- A survey reads the state file and the clock. -/
theorem keeps_runSurvey (zone? : Option String) (question : Question) :
    Keeps holds (runSurvey host styled settings zone? question) := by
  have asks {α : Type} (answer : StoreState → Answer α) :
      Keeps holds (Store.ask ⟨settings.stateDirectory⟩ host answer) :=
    Store.keeps_ask _ reads clock answer
  have lists (group : ResourceGroup) : Keeps holds ((providerOf host settings).list group) := asks _
  have subnets (network : String) :
    Keeps holds ((providerOf host settings).subnets network) := asks _
  cases question with
  | everything => exact (Survey.keeps_resources lists _ _).bind fun found => keeps_pure _
  | purpose purpose => exact (Survey.keeps_resources lists _ _).bind fun found => keeps_pure _
  | subnetPurpose purpose =>
      exact (Survey.keeps_networks lists subnets _ _).bind fun found => keeps_pure _

theorem keeps_runTask {task : Task} (looks : ∀ request, task ≠ .deploy request) :
    Keeps holds (runTask host styled settings task) := by
  cases task with
  | plan request document => exact keeps_pure _
  | deploy request => exact absurd rfl (looks request)
  | survey zone? question => exact keeps_runSurvey styled settings reads clock zone? question

/-- Only a task needs settings, and looks for them. -/
theorem keeps_runInvocation (exists? : ∀ path, Keeps holds (host.disk.exists? path))
    (environment : Environment) {invocation : Invocation}
    (looks : ∀ request, invocation.action ≠ .task (.deploy request)) :
    Keeps holds (runInvocation host environment styled invocation) := by
  unfold runInvocation
  cases asked : invocation.action with
  | topologies | version => exact keeps_pure _
  | help topic => exact keeps_pure _
  | task task =>
      refine (Settings.keeps_load exists? reads environment _).bind fun answer => ?_
      cases answer with
      | error error => exact keeps_pure _
      | ok settings =>
          exact keeps_runTask styled settings reads clock fun request same =>
            looks request (asked.trans (congrArg Action.task same))

end Looking

/-- A deployment makes its calls, unless its request is turned down. -/
theorem keeps_runDeploy
    (creates : ∀ group definition tags,
      Keeps holds ((providerOf host settings).create group definition tags))
    (finds : ∀ group kind name, Keeps holds ((providerOf host settings).find group kind name))
    (request : Request) : Keeps holds (runDeploy host styled settings request) := by
  unfold runDeploy
  cases Catalog.standard.blueprint settings.group request with
  | error error => exact keeps_pure _
  | ok blueprint =>
      refine (blueprint.keeps_progress creates finds).bind fun progress => ?_
      split <;> exact keeps_pure _

end Keeping

/-! ### Runs of the program -/

/-- A task is done with the settings that are loaded, and nothing happens before. -/
theorem run_of_task (holder : String) {environment : Environment} (terminal : Bool)
    {arguments : List String} {task : Task} {settings? : Option String} (ticking : Ticking)
    (asks : Invocation.ofArguments? environment arguments = some ⟨.task task, settings?⟩) :
    run (Ticking.host holder) environment terminal arguments ticking =
      task.reportWith (Ticking.host holder) (wantsStyle environment terminal)
        (Settings.load Ticking.disk environment settings? ticking).1 ticking := by
  have loads : Keeps (· = ticking) (Settings.load Ticking.disk environment settings?) :=
    Settings.keeps_load (fun _ _ => id) (fun _ _ => id) environment settings?
  have kept : (Settings.load Ticking.disk environment settings? ticking).2 = ticking :=
    loads ticking rfl
  unfold run
  rw [asks]
  show (Settings.load Ticking.disk environment settings? >>= _) ticking = _
  rw [bind_apply, kept]
  cases (Settings.load Ticking.disk environment settings? ticking).1 <;> rfl

/-- **Commands leave footprints.** Whatever is asked for, files stay as they are unless it is a
deployment. They stay as they are, too, where a deployment cannot load its settings, or its request is
refused. Where it gets further it changes the files of its store, in a tree without links and at times
that can be written, makes directories to hold them, and nothing else; its state file continues as it
was, or spells more resources behind those that it spelled before. Only a state file that is missing, and
through which the path of the directory leads, may be such a directory afterwards. -/
theorem commands_leave_footprints (holder : String) (environment : Environment) (terminal : Bool)
    (arguments : List String) (ticking : Ticking) :
    let before := ticking.machine.tree
    let after := (run (Ticking.host holder) environment terminal arguments ticking).2.machine.tree
    ((∀ request settings?,
      Invocation.ofArguments? environment arguments ≠ some ⟨.task (.deploy request), settings?⟩) →
        after = before) ∧
    ∀ request settings?,
      Invocation.ofArguments? environment arguments = some ⟨.task (.deploy request), settings?⟩ →
        (∀ error, (Settings.load Ticking.disk environment settings? ticking).1 = .error error →
          after = before) ∧
        ∀ settings, (Settings.load Ticking.disk environment settings? ticking).1 = .ok settings →
          (request.IsRefused .standard → after = before) ∧
          (before.LinkFree → (∀ index, (ticking.readings index).Nameable) →
            Store.Footprint ⟨settings.stateDirectory⟩ ticking.machine.directory before after) := by
  intro before after
  refine ⟨fun looks => ?_, fun request settings? asks => ?_⟩
  · have keeps : Keeps (fun later => later.machine.tree = before)
        (run (Ticking.host holder) environment terminal arguments) := by
      unfold run
      cases asked : Invocation.ofArguments? environment arguments with
      | none => exact keeps_pure _
      | some invocation =>
          refine keeps_runInvocation _ (fun _ _ => id) (fun _ => id) (fun _ _ => id) environment
            fun request same => looks request invocation.settings? ?_
          rw [asked, ← same]
    exact keeps ticking rfl
  · have made : after = ((Task.deploy request).reportWith (Ticking.host holder)
        (wantsStyle environment terminal) (Settings.load Ticking.disk environment settings? ticking).1
        ticking).2.machine.tree :=
      congrArg (·.2.machine.tree) (run_of_task holder terminal ticking asks)
    rw [made]
    refine ⟨fun error failed => ?_, fun settings loaded => ?_⟩
    · rw [failed]
      rfl
    · rw [loaded]
      refine ⟨fun refused => ?_, fun free timely => ?_⟩
      · obtain ⟨error, rejected⟩ :=
          (Catalog.isRefused_iff Catalog.isNamed_standard settings.group).mp refused
        show (runDeploy (Ticking.host holder) _ settings request ticking).2.machine.tree = before
        unfold runDeploy
        rw [rejected]
        rfl
      · have guarded : Store.Guarded ⟨settings.stateDirectory⟩ ticking.machine.directory before
            ticking := ⟨rfl, timely, free, Store.Footprint.refl _ _ _⟩
        have deploys : Keeps
            (Store.Guarded ⟨settings.stateDirectory⟩ ticking.machine.directory before)
            (runDeploy (Ticking.host holder) (wantsStyle environment terminal) settings request) :=
          keeps_runDeploy _ settings (Store.keeps_create holder) (Store.keeps_find holder) request
        exact (deploys ticking guarded).footprint

/-- A checkout whose clock stands still. -/
def still : Ticking where
  machine := checkout
  readings := fun _ => ⟨1700000000, 0⟩

/-- A deployment from a checkout. -/
def deployment : List String := ["deploy", "--id", "lab", "--factory", "managed-network"]

theorem linkFree_still : still.machine.tree.LinkFree := by
  have work := FileTree.linkFree_empty.make (List.cons_ne_nil "work" [])
  have zones := work.make (List.cons_ne_nil "work" ["zones"])
  have dev := zones.make (List.cons_ne_nil "work" ["zones", "dev"])
  exact dev.insert (List.cons_ne_nil "work" ["landingzone.kdl"]) fun _ same => nomatch same

/-- A deployment leaves a footprint in the directory of its settings. -/
theorem deployment_leaves_footprint :
    Invocation.ofArguments? plainEnvironment deployment =
      some ⟨.task (.deploy ⟨"lab", "managed-network", .v1⟩), none⟩ ∧
    still.machine.tree.LinkFree ∧ (∀ index, (still.readings index).Nameable) ∧
    Store.Footprint ⟨"/work/.landingzone"⟩ ["work", "zones", "dev"] still.machine.tree
      (run (Ticking.host "lz") plainEnvironment false deployment still).2.machine.tree := by
  have asks : Invocation.ofArguments? plainEnvironment deployment =
      some ⟨.task (.deploy ⟨"lab", "managed-network", .v1⟩), none⟩ := by
    decide +kernel
  have loaded : (Settings.load Ticking.disk plainEnvironment none still).1 =
      .ok { group := ⟨"rg", "eastus", "sub"⟩, stateDirectory := "/work/.landingzone",
            source? := some "/work/landingzone.kdl" } := by
    decide +kernel
  have nameable : Instant.Nameable ⟨1700000000, 0⟩ := ⟨.inl (by decide), by decide +kernel⟩
  have timely (index : Nat) : (still.readings index).Nameable := nameable
  have left :=
    (((commands_leave_footprints "lz" plainEnvironment false deployment still).2 _ _ asks).2 _ loaded).2
      linkFree_still timely
  exact ⟨asks, linkFree_still, timely, left⟩

/-- Settings that name a directory by a path through its state file. -/
def detourText : String :=
  "resource-group rg {region eastus;subscription sub};state-dir \"resources.json/..\""

/-- A directory with these settings and nothing else. -/
def detour : Ticking where
  machine :=
    { tree := ((∅ : FileTree).insert ["work"] .directory).insert ["work", "landingzone.kdl"]
        (.file (Utf8.encode detourText.toList) ⟨1700000000, 0⟩)
      directory := ["work"]
      now := ⟨1700000000, 0⟩ }
  readings := fun _ => ⟨1700000000, 0⟩

/-- The environment of that directory. -/
def detourEnvironment : Environment where
  value? := fun _ => none
  directory? := some "/work"

/-- **A deployment makes a directory of a missing state file** if the directory of its settings is reached
through it. -/
theorem detour_makes_directory_of_state :
    Invocation.ofArguments? detourEnvironment deployment =
      some ⟨.task (.deploy ⟨"lab", "managed-network", .v1⟩), none⟩ ∧
    (Settings.load Ticking.disk detourEnvironment none detour).1 =
      .ok { group := ⟨"rg", "eastus", "sub"⟩, stateDirectory := "/work/resources.json/..",
            source? := some "/work/landingzone.kdl" } ∧
    detour.machine.tree.LinkFree ∧
    let state := Store.fileRoute ⟨"/work/resources.json/.."⟩ ["work"] Store.stateName
    detour.machine.tree.entry? state = none ∧
      (run (Ticking.host "lz") detourEnvironment false deployment detour).2.machine.tree.entry? state =
        some .directory := by
  have work := FileTree.linkFree_empty.make (List.cons_ne_nil "work" [])
  have free : detour.machine.tree.LinkFree :=
    work.insert (List.cons_ne_nil "work" ["landingzone.kdl"]) fun _ same => nomatch same
  have asks : Invocation.ofArguments? detourEnvironment deployment =
      some ⟨.task (.deploy ⟨"lab", "managed-network", .v1⟩), none⟩ := by
    decide +kernel
  have loaded : (Settings.load Ticking.disk detourEnvironment none detour).1 =
      .ok { group := ⟨"rg", "eastus", "sub"⟩, stateDirectory := "/work/resources.json/..",
            source? := some "/work/landingzone.kdl" } := by
    decide +kernel
  refine ⟨asks, loaded, free, by decide +kernel, ?_⟩
  rw [run_of_task "lz" false detour asks, loaded]
  decide +kernel

end Command

end Provision
