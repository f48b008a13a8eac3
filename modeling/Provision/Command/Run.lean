/-
**Running commands.**

A command works on the resource group that the settings name, through a provider on the store in
their directory:

* `runPlan`, `runDeploy` and `runSurvey` are the commands that need settings;
* `run` is the whole program.
-/

import Provision.Command.Arguments
import Provision.Command.Report
import Provision.Document.Resource
import Provision.Settings.Discovery
import Provision.Store.Provider
import Provision.Survey

namespace Provision.Command

variable {m : Type → Type} [Monad m]

/-- The provider on the store that settings name. -/
def providerOf (host : Host m) (settings : Settings) : Provider m :=
  Store.provider ⟨settings.stateDirectory⟩ host

/-- Shows what a deployment would create. -/
def runPlan (styled : Bool) (settings : Settings) (request : Request) (document : Bool) : Report :=
  match Catalog.standard.plan settings.group request with
  | .error error => .refused [] error
  | .ok plan =>
    if document then .done [(Document.encode plan).pretty]
    else .done (settingsLines styled settings ++ planLines styled request plan)

/-- Deploys a landing zone. -/
def runDeploy (host : Host m) (styled : Bool) (settings : Settings) (request : Request) :
    m Report := do
  let opening := settingsLines styled settings ++ [deployingLine styled request]
  match Catalog.standard.blueprint settings.group request with
  | .error error => pure (.refused opening error)
  | .ok blueprint => do
    let progress ← blueprint.progress (providerOf host settings)
    let lines := opening ++ progressLines styled progress
    match progress.failure? with
    | some error => pure (.refused lines error)
    | none => pure (.done lines)

/-- The report of a survey that found something, or failed. -/
def surveyReport {α : Type} (opening : List String) (lines : α → List String) :
    Except ZoneError α → Report
  | .error error => .refused opening error
  | .ok found => .done (opening ++ lines found)

/-- Shows the resources that exist. -/
def runSurvey (host : Host m) (styled : Bool) (settings : Settings) (zone? : Option String)
    (question : Question) : m Report := do
  let survey : Survey := { group := settings.group, zone? := zone? }
  let provider := providerOf host settings
  let opening := settingsLines styled settings
  match question with
  | .everything => do
    let found ← survey.owned provider
    pure (surveyReport opening (resourcesLines styled) found)
  | .purpose purpose => do
    let found ← survey.withPurpose provider purpose
    pure (surveyReport opening (resourcesLines styled) found)
  | .subnetPurpose purpose => do
    let found ← survey.networks provider purpose
    pure (surveyReport opening (networksLines styled) found)

/-- Does a task in the resource group that settings name. -/
def runTask (host : Host m) (styled : Bool) (settings : Settings) : Task → m Report
  | .plan request document => pure (runPlan styled settings request document)
  | .deploy request => runDeploy host styled settings request
  | .survey zone? question => runSurvey host styled settings zone? question

/-- Does what a user asks for, with settings where they are needed. -/
def runInvocation (host : Host m) (environment : Environment) (styled : Bool)
    (invocation : Invocation) : m Report := do
  match invocation.action with
  | .version => pure (.done [versionLine])
  | .help topic => pure (.done (helpLines environment topic))
  | .topologies => pure (.done (topologyLines styled .standard))
  | .task task => do
    match ← Settings.load host.disk environment invocation.settings? with
    | .error error => pure (.failed [] error.message error.causes)
    | .ok settings => runTask host styled settings task

/-- Does what arguments ask for. -/
def run (host : Host m) (environment : Environment) (terminal : Bool) (arguments : List String) :
    m Report :=
  match Invocation.ofArguments? environment arguments with
  | none => pure .usage
  | some invocation =>
    runInvocation host environment (wantsStyle environment terminal) invocation

end Provision.Command
