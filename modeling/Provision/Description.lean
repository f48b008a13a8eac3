/-
**Descriptions.**

Short descriptions of what is at work, for people who look into a program:

* `describeBlueprint`, `describeCatalog` and `describeSurvey` tell the provider, the resource group and
  what is worked on.
-/

import Provision.Survey
import Provision.Text.Quoted
import Provision.Topology.Catalog

namespace Provision

/-- A description of a record with its fields. -/
def describeFields (name : String) (fields : List (String × String)) : String :=
  name ++ " \x7b " ++
    String.intercalate ", " (fields.map fun (field, value) => field ++ ": " ++ value) ++ " \x7d"

/-- A description of a resource group. -/
def describeGroup (group : ResourceGroup) : String :=
  describeFields "ResourceGroup"
    [("name", Text.quote group.name), ("region", Text.quote group.region),
      ("subscription_id", Text.quote group.subscription)]

/-- A description of a blueprint and the provider that is to realise it. -/
def describeBlueprint (provider : String) (blueprint : Blueprint) : String :=
  describeFields "DeploymentBuilder"
    [("provider", Text.quote provider), ("resource_group", Text.quote blueprint.group.name),
      ("landing_zone_id", Text.quote blueprint.zone),
      ("entries", toString blueprint.declarations.length)]

/-- A description of a catalog and of where its topologies are deployed. -/
def describeCatalog (provider : String) (group : ResourceGroup) (catalog : Catalog) : String :=
  describeFields "LandingZoneManager"
    [("provider", Text.quote provider), ("resource_group", describeGroup group),
      ("factories", toString catalog.length)]

/-- A description of a survey and the provider that it asks. -/
def describeSurvey (provider : String) (survey : Survey) : String :=
  describeFields "ResourcesReader"
    [("provider", Text.quote provider), ("resource_group", Text.quote survey.group.name),
      ("landing_zone_id", match survey.zone? with
        | some zone => "Some(" ++ Text.quote zone ++ ")"
        | none => "None")]

end Provision
