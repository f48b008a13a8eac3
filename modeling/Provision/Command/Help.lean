/-
**Help.**

What is said about the program and its commands to somebody who asks for it:

* `Topic` is what help can be asked for;
* `explanationLines` lays out explanations, each beside what it explains, or below it where the lines
  would become too long;
* `helpLines` is the help on a topic.
-/

import Provision.Settings.Discovery

namespace Provision.Command

/-- What help can be asked for. -/
inductive Topic where
  | program
  | command (name : String)
  deriving DecidableEq, Repr

/-- How something is written, and what it does. -/
structure Explanation where
  form : String
  text : String
  deriving DecidableEq, Repr

/-! ## What there is -/

/-- The command that shows help. -/
def helpCommand : String := "help"

/-- The commands. -/
def commandTexts : List Explanation :=
  [⟨"factories", "List available landing zone factories"⟩,
    ⟨"plan", "Show the resources a deployment would create"⟩,
    ⟨"deploy", "Deploy a landing zone"⟩,
    ⟨"show", "Show deployed resources, reconstructed from their tags"⟩,
    ⟨"version", "Show version information"⟩,
    ⟨helpCommand, "Print this message or the help of the given subcommand(s)"⟩]

/-- The options that say what to deploy. -/
def requestTexts : List Explanation :=
  [⟨"--id <ID>", "Landing zone id"⟩,
    ⟨"--factory <FACTORY>", "Factory identifier (see `lz factories`)"⟩,
    ⟨"--version <VERSION>", "Factory version [default: v1]"⟩]

/-- The options of a command of its own. -/
def ownTexts : String → List Explanation
  | "plan" => requestTexts ++ [⟨"--json", "Print the plan as JSON"⟩]
  | "deploy" => requestTexts
  | "show" =>
    [⟨"--id <ID>", "Only resources of this landing zone"⟩,
      ⟨"--purpose <PURPOSE>", "Only resources with this purpose (e.g. SHARED_RESOURCE)"⟩,
      ⟨"--subnet-purpose <SUBNET_PURPOSE>",
        "Virtual networks with a subnet of this purpose (e.g. WORKSPACE_COMPUTE_SUBNET)"⟩]
  | _ => []

/-- The option that every command has, with the path that the environment has for it. -/
def settingsText (environment : Environment) : Explanation :=
  let inherited := (environment.value? Settings.fileVariable).getD ""
  ⟨"--config <CONFIG>",
    "Path to landingzone.kdl [env: " ++ Settings.fileVariable ++ "=" ++ inherited ++ "]"⟩

/-- The option that shows help. -/
def helpText : Explanation := ⟨"--help", "Print help"⟩

/-- What has to follow a command, or may. -/
def usageOf : String → String
  | "plan" | "deploy" => "[OPTIONS] --id <ID> --factory <FACTORY>"
  | "help" => "[COMMAND]..."
  | _ => "[OPTIONS]"

/-! ## Layout -/

/-- The length of the longest form. -/
def longestForm (explanations : List Explanation) : Nat :=
  (explanations.map (·.form.length)).foldl max 0

/-- A text with blanks behind it up to a width. -/
def padded (width : Nat) (text : String) : String :=
  text ++ String.ofList (List.replicate (width - text.length) ' ')

/-- How wide lines of help should be at most. -/
def helpWidth : Nat := 100

/-- Whether explanations go below what they explain: the forms take more than two fifths of the
width, and some explanation does not fit into the rest. -/
def goBelow (explanations : List Explanation) : Bool :=
  let taken := longestForm explanations + 12
  taken ≤ helpWidth && 2 * helpWidth < 5 * taken &&
    explanations.any fun explanation => helpWidth - taken < explanation.text.length

/-- Explanations with a margin in front of each form. -/
def explanationLines (margin : Explanation → String) (explanations : List Explanation) :
    List String :=
  let width := longestForm explanations + 2
  explanations.flatMap fun explanation =>
    let form := margin explanation ++ explanation.form
    if goBelow explanations then [form, "          " ++ explanation.text]
    else [margin explanation ++ padded width explanation.form ++ explanation.text]

/-- What stands in front of an option: its short form, or as many blanks. -/
def optionMargin (option : Explanation) : String :=
  if option = helpText then "  -h, " else "      "

/-- The lines about options. -/
def optionLines (options : List Explanation) : List String :=
  "Options:" :: explanationLines optionMargin options

/-! ## Topics -/

/-- The help on a topic. -/
def helpLines (environment : Environment) : Topic → List String
  | .program =>
    ["Deterministic, tag-driven landing zones", "", "Usage: lz [OPTIONS] <COMMAND>", "",
      "Commands:"] ++ explanationLines (fun _ => "  ") commandTexts ++ [""] ++
      optionLines [settingsText environment, helpText]
  | .command name =>
    let about := (commandTexts.find? (·.form == name)).elim "" (·.text)
    let usage := "Usage: lz " ++ name ++ " " ++ usageOf name
    [about, "", usage, ""] ++
      if name = helpCommand then
        ["Arguments:", "  [COMMAND]...  Print help for the subcommand(s)"]
      else optionLines ([settingsText environment] ++ ownTexts name ++ [helpText])

end Provision.Command
