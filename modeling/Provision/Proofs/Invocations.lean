/-
**The settings of a command that is given none.**

A command whose arguments name no file with settings still looks at the variable that names one. What
it makes of it is not what the search for settings makes of it:

* `Command.Gives` says that an argument gives an option, `Command.Asks` that arguments ask for a task;
* `Command.ofArguments?_of_bare`: without the option, the variable stands in for it;
* **`bare_commands_find_settings`** — if the file of the variable is there, or none is named, a task is
  done with the settings that are found, or fails with their error; otherwise it fails all the same;
* `missing_file_is_not_passed_over`: it fails even where the search would find another file.
-/

import Provision.Command.Run
import Provision.Proofs.Resolution

namespace Provision.Command

/-- An argument gives an option, with its value behind an equals sign or without one. -/
def Gives (name argument : String) : Prop :=
  argument.toList = '-' :: '-' :: name.toList ∨ '-' :: '-' :: name.toList ++ ['='] <+: argument.toList

instance (name argument : String) : Decidable (Gives name argument) :=
  inferInstanceAs (Decidable (_ ∨ _))

/-- Arguments ask for a task. What it takes for its settings depends on the environment, the task does
not. -/
def Asks (arguments : List String) (task : Task) : Prop :=
  ∃ environment settings?, Invocation.ofArguments? environment arguments = some ⟨.task task, settings?⟩

/-! ### Reading options -/

/-- An argument is the name in front of its first equals sign, or goes on with that sign. -/
theorem eq_or_prefix_of_splitEquals (argument : List Char) :
    argument = (splitEquals argument).1 ∨ (splitEquals argument).1 ++ ['='] <+: argument := by
  unfold splitEquals
  have whole := List.takeWhile_append_dropWhile (p := (· != '=')) (l := argument)
  cases behind : argument.dropWhile (· != '=') with
  | nil => exact .inl rfl
  | cons sign value =>
      have equals : sign = '=' := by
        have stops := List.head?_dropWhile_not (· != '=') argument
        simpa [behind] using stops
      rw [behind, equals] at whole
      exact .inr ⟨value, by rw [List.append_assoc, List.singleton_append]; exact whole⟩

theorem gives_of_splitEquals {argument : String} {characters : List Char}
    (dashes : argument.toList = '-' :: '-' :: characters) :
    Gives (String.ofList (splitEquals characters).1) argument := by
  unfold Gives
  rw [dashes, String.toList_ofList]
  rcases eq_or_prefix_of_splitEquals characters with same | more
  · exact .inl (congrArg ('-' :: '-' :: ·) same)
  · exact .inr (((List.prefix_cons_inj _).mpr ((List.prefix_cons_inj _).mpr more)))

/-- Options that were read, with what is left over, come from arguments: each option but the one that
asks for help is given by one of them, and the last of them are left. -/
structure ComesFrom (arguments : List String) (read : Options × List String) : Prop where
  given : ∀ option ∈ read.1, option.1 = helpOption ∨ ∃ argument ∈ arguments, Gives option.1 argument
  last : read.2 <:+ arguments

/-- Another option is read in front of those that come from the later arguments. -/
theorem ComesFrom.cons {left arguments : List String} {read : Options × List String}
    (comes : ComesFrom left read) {argument name : String} (more : left <:+ arguments)
    (member : argument ∈ arguments) (gives : Gives name argument) (value : String) :
    ComesFrom arguments ((name, value) :: read.1, read.2) where
  given := by
    intro option inside
    rcases List.mem_cons.mp inside with rfl | later
    · exact .inr ⟨argument, member, gives⟩
    · rcases comes.given option later with help | ⟨other, there, own⟩
      · exact .inl help
      · exact .inr ⟨other, more.subset there, own⟩
  last := comes.last.trans more

theorem comesFrom_of_options? {valued flags arguments : List String} :
    ∀ reply, options? valued flags arguments = some reply → ComesFrom arguments reply := by
  fun_induction options? valued flags arguments with
  | case1 | case2 =>
      intro reply read
      obtain rfl := Option.some.inj read
      exact ⟨fun _ member => (nomatch member), List.nil_suffix⟩
  | case3 | case6 | case7 | case10 | case11 => exact fun _ read => nomatch read
  | case4 =>
      intro reply read
      obtain rfl := Option.some.inj read
      exact ⟨fun _ member => .inl (congrArg Prod.fst (List.mem_singleton.mp member)),
        List.nil_suffix⟩
  | case5 argument others _ _ characters dashes _ name _ _ value cut hyp =>
      intro reply read
      obtain ⟨further, later, rfl⟩ := Option.map_eq_some_iff.mp read
      refine (hyp _ later).cons (List.suffix_cons _ _) List.mem_cons_self ?_ _
      have gives := gives_of_splitEquals dashes
      rwa [cut] at gives
  | case8 argument _ _ characters dashes _ name _ _ value others _ cut hyp =>
      intro reply read
      obtain ⟨further, later, rfl⟩ := Option.map_eq_some_iff.mp read
      refine (hyp _ later).cons ((List.suffix_cons _ _).trans (List.suffix_cons _ _))
        List.mem_cons_self ?_ _
      have gives := gives_of_splitEquals dashes
      rwa [cut] at gives
  | case9 argument others _ _ characters dashes _ value? cut name _ _ _ hyp =>
      intro reply read
      obtain ⟨further, later, rfl⟩ := Option.map_eq_some_iff.mp read
      refine (hyp _ later).cons (List.suffix_cons _ _) List.mem_cons_self ?_ _
      have gives := gives_of_splitEquals dashes
      rwa [cut] at gives
  | case12 =>
      intro reply read
      obtain rfl := Option.some.inj read
      exact ⟨fun _ member => (nomatch member), List.suffix_refl _⟩

/-- An option that no argument gives has no value. -/
theorem ComesFrom.value?_eq_none {arguments : List String} {read : Options × List String}
    (comes : ComesFrom arguments read) (bare : ∀ argument ∈ arguments, ¬Gives settingsOption argument) :
    read.1.value? settingsOption = none := by
  unfold Options.value?
  rw [List.lookup_eq_none_iff]
  intro option member
  rcases comes.given option member with help | ⟨argument, inside, gives⟩
  · rw [help]
    decide
  · rw [bne_iff_ne]
    rintro same
    exact bare argument inside (same ▸ gives)

/-! ### What a task takes for its settings -/

variable {task : Task} {front : Options} {command : String} {arguments : List String}

theorem settingsPath?_of_unset (inherited? : Option String) :
    settingsPath? inherited? none none = if inherited? = some "" then none else some inherited? := by
  cases inherited? with
  | none => rfl
  | some path =>
      by_cases empty : path = ""
      · subst empty
        rfl
      · simp [settingsPath?, empty, eq_comm]

/-- Behind the command, too, the variable stands in for the option. -/
theorem commandOfArguments?_of_bare {environment other : Environment} {settings? : Option String}
    (unset : front.value? settingsOption = none)
    (bare : ∀ argument ∈ arguments, ¬Gives settingsOption argument)
    (asks : commandOfArguments? other front command arguments = some ⟨.task task, settings?⟩) :
    commandOfArguments? environment front command arguments =
      if environment.value? Settings.fileVariable = some "" then none
      else some ⟨.task task, environment.value? Settings.fileVariable⟩ := by
  unfold commandOfArguments? at asks ⊢
  simp only [Option.bind_eq_bind, Option.bind_eq_some_iff] at asks
  obtain ⟨⟨valued, flags⟩, known, ⟨behind, rest⟩, read, asks⟩ := asks
  have unsetToo := (comesFrom_of_options? _ read).value?_eq_none bare
  simp only [known, read, Option.bind_eq_bind, Option.bind_some, unset, unsetToo] at asks ⊢
  split at asks
  · rename_i sound
    rw [if_pos sound]
    split at asks
    · cases asks
    · rename_i helpless
      rw [if_neg helpless]
      obtain ⟨action, does, settled⟩ := Option.bind_eq_some_iff.mp asks
      obtain ⟨_, -, same⟩ := Option.bind_eq_some_iff.mp settled
      obtain rfl : action = .task task := congrArg Invocation.action (Option.some.inj same)
      rw [does, Option.bind_some, settingsPath?_of_unset]
      by_cases empty : environment.value? Settings.fileVariable = some ""
      · rw [if_pos empty, if_pos empty]
        rfl
      · rw [if_neg empty, if_neg empty]
        rfl
  · cases asks

/-- **Arguments that do not give the option leave it to the variable**, which may not be empty. -/
theorem ofArguments?_of_bare (environment : Environment)
    (bare : ∀ argument ∈ arguments, ¬Gives settingsOption argument) (asks : Asks arguments task) :
    Invocation.ofArguments? environment arguments =
      if environment.value? Settings.fileVariable = some "" then none
      else some ⟨.task task, environment.value? Settings.fileVariable⟩ := by
  obtain ⟨other, settings?, asked⟩ := asks
  unfold Invocation.ofArguments? at asked ⊢
  simp only [Option.bind_eq_bind, Option.bind_eq_some_iff] at asked
  obtain ⟨⟨front, rest⟩, read, asked⟩ := asked
  have comes := comesFrom_of_options? _ read
  have unset := comes.value?_eq_none bare
  simp only [read, Option.bind_eq_bind, Option.bind_some] at asked ⊢
  split at asked
  · rename_i sound
    rw [if_pos sound]
    split at asked
    · cases asked
    · rename_i helpless
      rw [if_neg helpless]
      cases rest with
      | nil => cases asked
      | cons command others =>
          have within : others ⊆ arguments := fun argument member =>
            comes.last.subset (List.mem_cons_of_mem _ member)
          by_cases helps : command = helpCommand
          · simp only [if_pos helps] at asked
            obtain ⟨_, -, same⟩ := Option.bind_eq_some_iff.mp asked
            cases same
          · simp only [if_neg helps] at asked ⊢
            exact commandOfArguments?_of_bare unset (fun argument member => bare _ (within member))
              asked
  · cases asked

/-! ### What a task comes to -/

/-- What a task comes to when settings were found, or an error. -/
def Task.reportWith {m : Type → Type} [Monad m] (host : Host m) (styled : Bool) (task : Task) :
    Except SettingsError Settings → m Report
  | .error error => pure (.failed [] error.message error.causes)
  | .ok settings => runTask host styled settings task

/-- A task is done with the settings of the variable's file, whether that file is there or not. -/
theorem run_of_bare (holder : String) (environment : Environment) (terminal : Bool) (machine : Machine)
    (bare : ∀ argument ∈ arguments, ¬Gives settingsOption argument) (asks : Asks arguments task) :
    run (Machine.host holder) environment terminal arguments machine =
      if environment.value? Settings.fileVariable = some "" then (.usage, machine)
      else task.reportWith (Machine.host holder) (wantsStyle environment terminal)
        (Settings.load Machine.disk environment (environment.value? Settings.fileVariable) machine).1
        machine := by
  unfold run
  rw [ofArguments?_of_bare environment bare asks]
  by_cases empty : environment.value? Settings.fileVariable = some ""
  · rw [if_pos empty, if_pos empty]
    rfl
  · rw [if_neg empty, if_neg empty]
    have kept : (Settings.load Machine.disk environment (environment.value? Settings.fileVariable)
        machine).2 = machine := by
      rw [Settings.load_apply]
    show (Settings.load Machine.disk environment _ >>= fun loaded => match loaded with
      | .error error => pure (.failed [] error.message error.causes)
      | .ok settings => runTask (Machine.host holder) (wantsStyle environment terminal) settings task)
      machine = _
    rw [bind_apply, kept]
    cases (Settings.load Machine.disk environment (environment.value? Settings.fileVariable)
      machine).1 <;> rfl

/-- A file that is there is the one that is found for the variable that names it. -/
theorem load_of_there {environment : Environment} {machine : Machine} {path : String}
    (named : environment.value? Settings.fileVariable = some path)
    (there : machine.there path = true) :
    Settings.load Machine.disk environment (some path) machine =
      Settings.load Machine.disk environment none machine := by
  have found : Settings.named? environment machine = some path := by
    rw [Settings.named?, named, Option.filter_some_pos there]
  rw [Settings.load_apply, Settings.load_apply]
  simp only [Settings.chosen?, found, Option.some_or, Option.none_or]

/-- What is not there cannot be read. -/
theorem exists_read_error {machine : Machine} {path : String} (missing : machine.there path = false) :
    ∃ error, machine.tree.read machine.directory path = .error error := by
  unfold Machine.there FileTree.exists? at missing
  unfold FileTree.read
  cases resolved : machine.tree.resolve .target machine.directory path with
  | error error => exact ⟨error, rfl⟩
  | ok place =>
      rw [resolved] at missing
      cases place with
      | existing route entry => cases missing
      | vacant route slash => exact ⟨.notFound, rfl⟩

/-- **Commands that are given no file with settings find them as anybody would, unless the variable
names one that is missing.** If it is unset, or its file is there, a task is done with the settings that
the search finds, or fails with the error that the search has. If its file is missing, the task fails
because that file cannot be read; if it is empty, the arguments are refused. -/
theorem bare_commands_find_settings (holder : String) (environment : Environment) (terminal : Bool)
    (arguments : List String) (task : Task) (machine : Machine)
    (bare : ∀ argument ∈ arguments, ¬Gives settingsOption argument) (asks : Asks arguments task) :
    let named? := environment.value? Settings.fileVariable
    let reply := run (Machine.host holder) environment terminal arguments machine
    ((∀ path, named? = some path → machine.there path = true) →
      reply = task.reportWith (Machine.host holder) (wantsStyle environment terminal)
        (Settings.load Machine.disk environment none machine).1 machine) ∧
    (∀ path, named? = some path → path ≠ "" → machine.there path = false →
      ∃ error, machine.tree.read machine.directory path = .error error ∧
        reply = (.failed [] (SettingsError.file error).message (SettingsError.file error).causes,
          machine)) ∧
    (named? = some "" → reply = (.usage, machine)) := by
  intro named? reply
  have made : reply = _ := run_of_bare holder environment terminal machine bare asks
  have nowhere : machine.there "" = false := rfl
  refine ⟨?_, ?_, ?_⟩
  · intro there
    have filled : environment.value? Settings.fileVariable ≠ some "" := fun empty =>
      Bool.false_ne_true (nowhere.symm.trans (there _ empty))
    rw [made, if_neg filled]
    cases named : environment.value? Settings.fileVariable with
    | none => rfl
    | some path => rw [load_of_there named (there path named)]
  · intro path named filled missing
    obtain ⟨error, unread⟩ := exists_read_error missing
    refine ⟨error, unread, ?_⟩
    have named : environment.value? Settings.fileVariable = some path := named
    have unloaded : (Settings.load Machine.disk environment (some path) machine).1 =
        .error (.file error) := by
      rw [Settings.load_apply, Settings.chosen?]
      simp only [Option.some_or, Settings.ofFile_apply, unread]
      rfl
    rw [made, named, if_neg (by simpa using filled), unloaded]
    rfl
  · intro empty
    rw [made, if_pos empty]

/-- The environment of a checkout in which no file is named. -/
def plainEnvironment : Environment where
  value? := fun _ => none
  directory? := some "/work/zones/dev"

/-- A survey in a checkout is made with the settings two directories up. -/
theorem survey_finds_settings :
    (∀ argument ∈ ["show"], ¬Gives settingsOption argument) ∧
    Asks ["show"] (.survey none .everything) ∧
    run (Machine.host "lz") plainEnvironment false ["show"] checkout =
      (Task.survey none .everything).reportWith (Machine.host "lz") false
        (Settings.load Machine.disk plainEnvironment none checkout).1 checkout := by
  have bare : ∀ argument ∈ ["show"], ¬Gives settingsOption argument := by decide +kernel
  have asks : Asks ["show"] (.survey none .everything) :=
    ⟨plainEnvironment, none, by decide +kernel⟩
  exact ⟨bare, asks, (bare_commands_find_settings "lz" plainEnvironment false ["show"]
    (.survey none .everything) checkout bare asks).1 (fun _ named => nomatch named)⟩

/-- **A missing file is not passed over.** The search finds the settings two directories up when the
variable names a file that is missing; a survey without the option fails there. -/
theorem missing_file_is_not_passed_over :
    (∀ argument ∈ ["show"], ¬Gives settingsOption argument) ∧
    Asks ["show"] (.survey none .everything) ∧
    (Settings.load Machine.disk checkoutEnvironment none checkout).1 =
      .ok { group := ⟨"rg", "westus", "sub"⟩, stateDirectory := "/work/.landingzone",
            source? := some "/work/landingzone.kdl" } ∧
    (run (Machine.host "lz") checkoutEnvironment false ["show"] checkout).1 =
      .failed [] (SettingsError.file .notFound).message (SettingsError.file .notFound).causes ∧
    run (Machine.host "lz") checkoutEnvironment false ["show"] checkout ≠
      (Task.survey none .everything).reportWith (Machine.host "lz") false
        (Settings.load Machine.disk checkoutEnvironment none checkout).1 checkout := by
  have loaded : (Settings.load Machine.disk checkoutEnvironment none checkout).1 =
      .ok { group := ⟨"rg", "westus", "sub"⟩, stateDirectory := "/work/.landingzone",
            source? := some "/work/landingzone.kdl" } := by
    decide +kernel
  have failed : (run (Machine.host "lz") checkoutEnvironment false ["show"] checkout).1 =
      .failed [] (SettingsError.file .notFound).message
        (SettingsError.file .notFound).causes := by
    decide +kernel
  refine ⟨by decide +kernel, ⟨plainEnvironment, none, by decide +kernel⟩, loaded, failed, ?_⟩
  rw [loaded]
  intro same
  have codes := congrArg (·.1.code) same
  revert codes
  decide +kernel

end Provision.Command
