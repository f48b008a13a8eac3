/-
**Arguments.**

A command is named by the first argument that is no option. Options start with two dashes; a value
follows its option as the next argument, unless it starts with a dash itself, or behind an equals
sign. No option may be repeated. Who asks for help gets it, whatever follows or is missing, unless
something in front is wrong:

* `Invocation` is what a user can ask for;
* `options?` reads options up to the first argument that is none;
* `Invocation.ofArguments?` reads all arguments; what it refuses is not used as intended.
-/

import Provision.Command.Help
import Provision.Settings.Discovery
import Provision.Text.Capital
import Provision.Topology.Catalog

namespace Provision.Command

/-- What to show of the resources that exist. -/
inductive Question where
  /-- All resources of landing zones. -/
  | everything
  | purpose (purpose : ResourcePurpose)
  | subnetPurpose (purpose : SubnetPurpose)
  deriving DecidableEq, Repr

/-- What to do in the resource group that the settings name. -/
inductive Task where
  /-- Show what a deployment would create, possibly as a document. -/
  | plan (request : Request) (document : Bool)
  | deploy (request : Request)
  /-- Show the resources that exist, possibly those of one landing zone only. -/
  | survey (zone? : Option String) (question : Question)
  deriving DecidableEq, Repr

/-- What to do. -/
inductive Action where
  /-- List the topologies. -/
  | topologies
  /-- Show the version of the program. -/
  | version
  | help (topic : Topic)
  | task (task : Task)
  deriving DecidableEq, Repr

/-- What a user asks for. -/
structure Invocation where
  action : Action
  /-- The file with the settings, if one is given. -/
  settings? : Option String
  deriving DecidableEq, Repr

/-! ## Options -/

/-- Options that were given, with their values. -/
abbrev Options := List (String × String)

/-- An argument in front of its first equals sign, and what stands behind that. -/
def splitEquals (argument : List Char) : List Char × Option (List Char) :=
  match argument.dropWhile (· != '=') with
  | [] => (argument, none)
  | _ :: value => (argument.takeWhile (· != '='), some value)

/-- Whether an argument looks like an option. A single dash does not. -/
def isOption (argument : String) : Bool :=
  match argument.toList with
  | '-' :: _ :: _ => true
  | _ => false

/-- The option that asks for help. -/
def helpOption : String := "help"

/-- Whether an argument asks for help. Behind the letter for it, others do not count. -/
def asksForHelp (argument : String) : Bool :=
  match argument.toList with
  | '-' :: 'h' :: _ => true
  | characters => characters == '-' :: '-' :: helpOption.toList

/-- Reads options up to the first argument that is none, or that asks for help, behind which nothing
is read. After two dashes nothing may follow. -/
def options? (valued flags : List String) : List String → Option (Options × List String)
  | [] => some ([], [])
  | argument :: rest =>
    if argument = "--" then if rest.isEmpty then some ([], []) else none
    else if asksForHelp argument then some ([(helpOption, "")], [])
    else
      match argument.toList with
      | '-' :: '-' :: characters =>
        let (name, value?) := splitEquals characters
        let name := String.ofList name
        let add (value : String) : Options × List String → Options × List String :=
          fun (others, after) => ((name, value) :: others, after)
        if name ∈ valued then
          match value? with
          | some value => (options? valued flags rest).map (add (String.ofList value))
          | none =>
            match rest with
            | [] => none
            | value :: others =>
              if isOption value then none else (options? valued flags others).map (add value)
        else if name ∈ flags ∧ value?.isNone then (options? valued flags rest).map (add "")
        else none
      | _ => if isOption argument then none else some ([], argument :: rest)

/-- Whether no option is repeated. -/
def areDistinct (options : Options) : Bool := decide (options.map (·.1)).Nodup

/-- The value of an option. -/
def Options.value? (options : Options) (name : String) : Option String := options.lookup name

/-! ## Actions -/

/-- The word that somebody means who writes blanks around it, dashes, or small letters. -/
def normalized (text : String) : String :=
  Text.upper ((Text.trim text).map fun character => if character = '-' then '_' else character)

/-- The request that options describe. -/
def request? (options : Options) : Option Request := do
  let zone ← options.value? "id"
  let topology ← options.value? "factory"
  pure ⟨zone, topology, ⟨(options.value? "version").getD "v1"⟩⟩

/-- The question that options describe. At most one purpose may be given. -/
def question? (options : Options) : Option Question :=
  match options.value? "purpose", options.value? "subnet-purpose" with
  | none, none => some .everything
  | some word, none => (ResourcePurpose.ofWord? (normalized word)).map .purpose
  | none, some word => (SubnetPurpose.ofWord? (normalized word)).map .subnetPurpose
  | some _, some _ => none

/-- The option that names the file with the settings, in front of the command or behind it. -/
def settingsOption : String := "config"

/-- Whether an option may have its value. -/
def isValid : String × String → Bool
  | ("config", path) => path != ""
  | ("purpose", word) => (ResourcePurpose.ofWord? (normalized word)).isSome
  | ("subnet-purpose", word) => (SubnetPurpose.ofWord? (normalized word)).isSome
  | _ => true

/-- Whether options have values that they may have, and none is repeated. -/
def Options.areSound (options : Options) : Bool := areDistinct options && options.all isValid

/-- The options of a command that take a value, and those that do not. -/
def optionsOf? : String → Option (List String × List String)
  | "factories" | "version" => some ([], [])
  | "plan" => some (["id", "factory", "version"], ["json"])
  | "deploy" => some (["id", "factory", "version"], [])
  | "show" => some (["id", "purpose", "subnet-purpose"], [])
  | _ => none

/-- What a command is to do with its options. -/
def action? (command : String) (options : Options) : Option Action :=
  match command with
  | "factories" => some .topologies
  | "version" => some .version
  | "plan" =>
    (request? options).map fun request => .task (.plan request (options.value? "json").isSome)
  | "deploy" => (request? options).map fun request => .task (.deploy request)
  | "show" =>
    (question? options).map fun question => .task (.survey (options.value? "id") question)
  | _ => none

/-- The file with the settings. The option behind the command counts more than the one in front of
it, and both count more than the environment, which is asked wherever the option is missing. An empty
path is refused. -/
def settingsPath? (inherited? front behind : Option String) : Option (Option String) :=
  let asked := [front.or inherited?, behind.or inherited?]
  if asked.contains (some "") then none else some ((behind.or front).or inherited?)

/-- The topic that arguments of the command for help name. -/
def topic? : List String → Option Topic
  | [] => some .program
  | [name] => if commandTexts.any (·.form == name) then some (.command name) else none
  | _ => none

/-- What a command with its arguments asks for. -/
def commandOfArguments? (environment : Environment) (front : Options) (command : String)
    (arguments : List String) : Option Invocation := do
  let (valued, flags) ← optionsOf? command
  let (behind, rest) ← options? (settingsOption :: valued) flags arguments
  if behind.areSound && rest.isEmpty then
    if (behind.value? helpOption).isSome then pure ⟨.help (.command command), none⟩
    else do
      let action ← action? command behind
      let settings ← settingsPath? (environment.value? Settings.fileVariable)
        (front.value? settingsOption) (behind.value? settingsOption)
      pure ⟨action, settings⟩
  else none

/-- What arguments ask for. -/
def Invocation.ofArguments? (environment : Environment) (arguments : List String) :
    Option Invocation := do
  let (front, rest) ← options? [settingsOption] [] arguments
  if front.areSound then
    if (front.value? helpOption).isSome then pure ⟨.help .program, none⟩
    else
      match rest with
      | [] => none
      | command :: rest =>
        if command = helpCommand then do
          let topic ← topic? rest
          pure ⟨.help topic, none⟩
        else commandOfArguments? environment front command rest
  else none

end Provision.Command
