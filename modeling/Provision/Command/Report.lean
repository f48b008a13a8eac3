/-
**Reports.**

What a command prints, line by line, and how it ends:

* `Report` is the whole of it;
* `Report.failed` reports an error with what led to it;
* `planLines`, `progressLines`, `resourceLines` and `networkLines` word what commands found out.
-/

import Provision.Command.Style
import Provision.Deployment.Basic
import Provision.Topology.Catalog

namespace Provision.Command

/-- What a command prints, and the code with which it ends. -/
structure Report where
  code : UInt32 := 0
  output : String := ""
  errors : String := ""
  deriving DecidableEq, Repr

/-- Lines as text. -/
def ofLines (lines : List String) : String := String.join (lines.map (· ++ "\n"))

/-- A text with everything after a line end moved to the right. -/
def indented (margin : String) (text : String) : String :=
  String.join (text.toList.map fun character =>
    if character = '\n' then "\n" ++ margin else character.toString)

/-- One of several causes, with its number in front. -/
def numberedCause (number : Nat) (text : String) : String :=
  let digits := toString number
  let margin := String.ofList (List.replicate (5 - digits.length) ' ')
  margin ++ digits ++ ": " ++ indented "       " text

/-- What is said about the causes of an error. -/
def causeLines : List String → List String
  | [] => []
  | [cause] => ["", "Caused by:", "    " ++ indented "    " cause]
  | causes => "" :: "Caused by:" :: causes.mapIdx numberedCause

/-- What is said about an error. -/
def errorText (message : String) (causes : List String) : String :=
  ofLines (("Error: " ++ message) :: causeLines causes)

namespace Report

/-- The report of a command that did what it should. -/
def done (lines : List String) : Report := { output := ofLines lines }

/-- The report of a command that failed after it had printed some lines. -/
def failed (lines : List String) (message : String) (causes : List String) : Report :=
  { code := 1, output := ofLines lines, errors := errorText message causes }

/-- The report of a command that failed on a landing zone. -/
def refused (lines : List String) (error : ZoneError) : Report :=
  failed lines error.message error.causes

/-- The report on arguments that make no sense. -/
def usage : Report where
  code := 2
  errors := ofLines
    ["usage: lz [--config PATH] COMMAND", "",
      "  factories", "  plan --id ID --factory FACTORY [--version VERSION] [--json]",
      "  deploy --id ID --factory FACTORY [--version VERSION]",
      "  show [--id ID] [--purpose PURPOSE | --subnet-purpose PURPOSE]", "  version"]

end Report

/-! ## Lines -/

/-- The name and the version of the program. -/
def versionLine : String := "landingzone 0.3.0"

/-- Lines about the topologies of a catalog. -/
def topologyLines (styled : Bool) (catalog : Catalog) : List String :=
  paint styled .bold "Landing zone factories" :: "" ::
    catalog.descriptors.flatMap fun descriptor =>
      ["  " ++ paint styled .title descriptor.identifier ++ " " ++
          paint styled .dim
            ("[" ++ String.intercalate ", " (descriptor.versions.map (·.text)) ++ "]"),
        "    " ++ descriptor.title,
        "    " ++ paint styled .dim descriptor.description]

/-- Lines about the settings that are used. -/
def settingsLines (styled : Bool) (settings : Settings) : List String :=
  [paint styled .dim "Config:" ++ " " ++
      (settings.source?.getD (paint styled .dim "environment")),
    paint styled .dim "Resource group:" ++ " " ++ paint styled .cyan settings.group.name ++
      " (" ++ settings.group.region ++ ")",
    ""]

/-- Lines about a resource of a plan. -/
def plannedLines (styled : Bool) (resource : PlannedResource) : List String :=
  ["  " ++ paint styled .green "+" ++ " " ++ paint styled .bold resource.name,
      "      " ++ paint styled .dim "type:" ++ " " ++ resource.kind.type] ++
    (resource.purpose.toList.map fun purpose =>
      "      " ++ paint styled .dim "purpose:" ++ " " ++ purpose.word) ++
    resource.bindings.map fun (purpose, subnet) =>
      "      " ++ paint styled .dim "subnet:" ++ " " ++ purpose.word ++ " -> " ++ subnet

/-- Lines about a plan. -/
def planLines (styled : Bool) (request : Request) (plan : Plan) : List String :=
  [paint styled .bold "Plan for" ++ " " ++ paint styled .title request.zone ++ " " ++
      paint styled .bold "using" ++ " " ++
      paint styled .cyan (request.topology ++ "@" ++ request.version.text),
    ""] ++ plan.resources.flatMap (plannedLines styled) ++
    ["", paint styled .green plan.summary.text]

/-- The line before a deployment. -/
def deployingLine (styled : Bool) (request : Request) : String :=
  paint styled .bold "Deploying" ++ " " ++ paint styled .title request.zone ++ " " ++
    paint styled .dim ("(" ++ request.topology ++ "@" ++ request.version.text ++ ")")

/-- Lines about how far a deployment came. -/
def progressLines (styled : Bool) (progress : Progress) : List String :=
  let count := toString progress.made.length
  (progress.made.map fun resource =>
      "  " ++ paint styled .green "✓" ++ " " ++ paint styled .bold resource.name ++ " " ++
        paint styled .dim ("(" ++ resource.type ++ ")")) ++
    match progress.failure? with
    | some error =>
      ["  " ++ paint styled .red "✗" ++ " " ++ error.message, "",
        paint styled .yellow (count ++ " resource(s) were created before the failure; " ++
          "deploying again resumes from there")]
    | none => ["", paint styled .green (count ++ " resource(s) deployed")]

/-- Lines about a resource that exists. -/
def resourceLines (styled : Bool) (resource : DeployedResource) : List String :=
  let owner := resource.tags.owner?.getD "-"
  let purpose := (resource.tags.purpose?.map ResourcePurpose.word).getD "-"
  [paint styled .bold resource.name ++ " " ++ paint styled .cyan ("[" ++ owner ++ "]") ++ " " ++
      paint styled .dim purpose,
    "  " ++ paint styled .dim resource.type]

/-- Lines about resources that exist. -/
def resourcesLines (styled : Bool) (resources : List DeployedResource) : List String :=
  if resources.isEmpty then [paint styled .dim "No landing zone resources found"]
  else resources.flatMap (resourceLines styled)

/-- Lines about a virtual network that exists. -/
def networkLines (styled : Bool) (network : DeployedNetwork) : List String :=
  paint styled .bold network.id ::
    network.subnets.map fun (purpose, subnet) =>
      "  " ++ paint styled .dim (purpose.word ++ ":") ++ " " ++ paint styled .cyan subnet.name

/-- Lines about virtual networks that exist. -/
def networksLines (styled : Bool) (networks : List DeployedNetwork) : List String :=
  if networks.isEmpty then [paint styled .dim "No matching virtual networks"]
  else networks.flatMap (networkLines styled)

end Provision.Command
