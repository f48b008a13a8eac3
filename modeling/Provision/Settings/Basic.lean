/-
**Settings.**

Settings name a resource group and the directory of its store. They are written as a KDL document
with a node for each; where a node or one of its children is repeated, the last one counts:

* `Settings.ofDocument` reads a document, `Settings.ofText` a text;
* `SettingsFault` of the first node in order that has one is the error.
-/

import Provision.Kdl.Reader
import Provision.Resource.Group
import Provision.Settings.Error
import Provision.Text.Blank

namespace Provision

/-- All that has to be known to work on a resource group. -/
structure Settings where
  group : ResourceGroup
  /-- The directory of the store. -/
  stateDirectory : String
  /-- The file that the settings come from, if any. -/
  source? : Option String := none
  deriving DecidableEq, Repr

namespace Settings

/-- The directory of the store where none is given. -/
def standardDirectory : String := ".landingzone"

/-- The text of the last node of a name; the last one counts even if it has no text. -/
def lastString? (name : String) (nodes : List Kdl.Node) : Option String :=
  ((nodes.filter (·.name == name)).getLast?).bind Kdl.Node.firstString?

/-- The resource group that a node describes. -/
def groupOf (node : Kdl.Node) : Except SettingsFault ResourceGroup :=
  match node.firstString?.filter fun name => !Text.isBlank name with
  | none => .error .unnamedGroup
  | some name =>
    match lastString? "region" node.children, lastString? "subscription" node.children with
    | none, _ => .error (.noRegion name)
    | some _, none => .error (.noSubscription name)
    | some region, some subscription => .ok ⟨name, region, subscription⟩

/-- What the nodes of a document have said so far. -/
structure Draft where
  group? : Option ResourceGroup := none
  stateDirectory : String := standardDirectory

/-- What a node adds to a draft. -/
def Draft.add (draft : Draft) (node : Kdl.Node) : Except SettingsFault Draft :=
  if node.name = "resource-group" then
    match groupOf node with
    | .error fault => .error fault
    | .ok group => .ok { draft with group? := some group }
  else if node.name = "state-dir" then
    match node.firstString? with
    | none => .error .noStateDirectory
    | some directory => .ok { draft with stateDirectory := directory }
  else .ok draft

/-- What nodes add to a draft, one after the other, up to the first fault. -/
def Draft.addAll (draft : Draft) : List Kdl.Node → Except SettingsFault Draft
  | [] => .ok draft
  | node :: rest =>
    match draft.add node with
    | .error fault => .error fault
    | .ok after => after.addAll rest

/-- The settings of a document. -/
def ofDocument (document : Kdl.Document) : Except SettingsFault Settings :=
  match Draft.addAll {} document with
  | .error fault => .error fault
  | .ok draft =>
    match draft.group? with
    | none => .error .noGroup
    | some group => .ok { group := group, stateDirectory := draft.stateDirectory }

/-- The settings of a text. -/
def ofText (text : String) : Except SettingsError Settings :=
  match Kdl.read? text with
  | none => .error .malformed
  | some document =>
    match ofDocument document with
    | .error fault => .error (.invalid fault)
    | .ok settings => .ok settings

end Settings

end Provision
