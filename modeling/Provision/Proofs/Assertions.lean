/-
**Assertions on operations.**

What is true of the state before an operation says what is true after it, operation by operation:

* `Ensures` is such an assertion on an operation, `Keeps` one that is the same before and after;
* `Ensures.bind` and `Ensures.bindOk` go along operations, also where one fails;
* `Settings.keeps_load`, `Store.keeps_load` and their like: programs that only look keep whatever looking
  keeps;
* `Declaration.keeps_realiseAll`: a deployment keeps whatever the calls of its provider keep.
-/

import Provision.Proofs.Deployment
import Provision.Settings.Discovery
import Provision.Store.Provider
import Provision.Survey

namespace Provision

variable {σ ε α β : Type}

/-- From every state with a property, an operation leads to an answer and a state with another one. -/
def Ensures (before : σ → Prop) (operation : StateM σ α) (after : α → σ → Prop) : Prop :=
  ∀ state, before state → after (operation state).1 (operation state).2

/-- A property of the state that an operation does not change. -/
abbrev Keeps (holds : σ → Prop) (operation : StateM σ α) : Prop := Ensures holds operation fun _ => holds

/-! ### Rules -/

section Rules

variable {before holds : σ → Prop} {middle : α → σ → Prop}

theorem ensures_pure {value : α} {after : α → σ → Prop}
    (implies : ∀ state, before state → after value state) : Ensures before (pure value) after :=
  implies

theorem keeps_pure (value : α) : Keeps holds (pure value) := ensures_pure fun _ => id

theorem Ensures.bind {first : StateM σ α} {next : α → StateM σ β} {after : β → σ → Prop}
    (one : Ensures before first middle) (two : ∀ value, Ensures (middle value) (next value) after) :
    Ensures before (first >>= next) after :=
  fun state fulfilled => two _ _ (one state fulfilled)

/-- What is true whatever the state may be used for the operation as a whole. -/
theorem ensures_of_fact {fact : Prop} {operation : StateM σ α} {after : α → σ → Prop}
    (ensures : fact → Ensures before operation after) :
    Ensures (fun state => fact ∧ before state) operation after :=
  fun state fulfilled => ensures fulfilled.1 state fulfilled.2

/-- What comes next is done only behind an operation that succeeds. -/
theorem Ensures.bindOk {first : ExceptT ε (StateM σ) α} {next : α → ExceptT ε (StateM σ) β}
    {middle : Except ε α → σ → Prop} {after : Except ε β → σ → Prop}
    (one : Ensures (α := Except ε α) before first middle)
    (fails : ∀ error state, middle (.error error) state → after (.error error) state)
    (two : ∀ value, Ensures (α := Except ε β) (middle (.ok value)) (next value) after) :
    Ensures (α := Except ε β) before (first >>= next : ExceptT ε (StateM σ) β) after := by
  intro state fulfilled
  have own := one state fulfilled
  show after (ExceptT.bindCont next (first state).1 (first state).2).1
    (ExceptT.bindCont next (first state).1 (first state).2).2
  revert own
  cases (first state).1 with
  | error error => exact fails error _
  | ok value => exact two value _

/-- An operation that cannot fail, among those that can. -/
theorem Ensures.lift {operation : StateM σ α} {after : Except ε α → σ → Prop}
    (ensures : Ensures before operation fun value => after (.ok value)) :
    Ensures (α := Except ε α) before (liftM operation : ExceptT ε (StateM σ) α) after :=
  Ensures.bind ensures fun _ => ensures_pure fun _ => id

end Rules

/-! ### Steps of operations on a store -/

section Steps

variable {before holds : σ → Prop}

theorem Keeps.bindOk {first : ExceptT ε (StateM σ) α} {next : α → ExceptT ε (StateM σ) β}
    (one : Keeps (α := Except ε α) holds first)
    (two : ∀ value, Keeps (α := Except ε β) holds (next value)) :
    Keeps (α := Except ε β) holds (first >>= next : ExceptT ε (StateM σ) β) :=
  Ensures.bindOk one (fun _ _ => id) two

theorem Store.step_ensures {operation : StateM σ (FileAnswer α)} {middle : FileAnswer α → σ → Prop}
    {after : Except StoreError α → σ → Prop} (ensures : Ensures before operation middle)
    (fails : ∀ error state, middle (.error error) state → after (.error (.file error)) state)
    (done : ∀ value state, middle (.ok value) state → after (.ok value) state) :
    Ensures (α := Except StoreError α) before (step operation) after := by
  refine Ensures.bind (β := Except StoreError α) ensures fun answer => ?_
  cases answer with
  | error error => exact ensures_pure (fails error)
  | ok value => exact ensures_pure (done value)

theorem Store.keeps_step {operation : StateM σ (FileAnswer α)} (keeps : Keeps holds operation) :
    Keeps (α := Except StoreError α) holds (step operation) :=
  step_ensures keeps (fun _ _ => id) fun _ _ => id

theorem Store.toCloud_ensures {operation : StateM σ (Except StoreError α)}
    {middle : Except StoreError α → σ → Prop} {after : Except CloudError α → σ → Prop}
    (ensures : Ensures before operation middle)
    (fails : ∀ error state, middle (.error error) state → after (.error error.toCloud) state)
    (done : ∀ value state, middle (.ok value) state → after (.ok value) state) :
    Ensures (α := Except CloudError α) before (toCloud operation) after := by
  refine Ensures.bind (β := Except CloudError α) ensures fun answer => ?_
  cases answer with
  | error error => exact ensures_pure (fails error)
  | ok value => exact ensures_pure (done value)

end Steps

/-! ### Programs that only look -/

section Settings

variable {holds : σ → Prop} {disk : Disk (StateM σ)}

theorem Settings.keeps_isThere (looks : ∀ path, Keeps holds (disk.exists? path)) (path : String) :
    Keeps holds (isThere disk path) := by
  refine (looks path).bind fun answer => ?_
  cases answer <;> exact keeps_pure _

theorem Settings.keeps_findIn (looks : ∀ path, Keeps holds (disk.exists? path))
    (directories : List String) : Keeps holds (findIn disk directories) := by
  induction directories with
  | nil => exact keeps_pure _
  | cons directory rest hyp =>
      refine (keeps_isThere looks _).bind fun found => ?_
      cases found
      · exact hyp
      · exact keeps_pure _

theorem Settings.keeps_findUser (looks : ∀ path, Keeps holds (disk.exists? path))
    (environment : Environment) : Keeps holds (findUser disk environment) := by
  unfold findUser
  split
  · exact keeps_pure _
  · refine (keeps_isThere looks _).bind fun found => ?_
    cases found <;> exact keeps_pure _

theorem Settings.keeps_findNearby (looks : ∀ path, Keeps holds (disk.exists? path))
    (environment : Environment) : Keeps holds (findNearby disk environment) := by
  unfold findNearby
  cases environment.directory? with
  | none => exact keeps_findUser looks environment
  | some directory =>
      refine (keeps_findIn looks _).bind fun found => ?_
      cases found with
      | some path => exact keeps_pure _
      | none => exact keeps_findUser looks environment

theorem Settings.keeps_find (looks : ∀ path, Keeps holds (disk.exists? path))
    (environment : Environment) : Keeps holds (find disk environment) := by
  unfold find
  split
  · exact keeps_findNearby looks environment
  · refine (keeps_isThere looks _).bind fun found => ?_
    cases found
    · exact keeps_findNearby looks environment
    · exact keeps_pure _

/-- Settings are found by looking, and loaded by reading. -/
theorem Settings.keeps_load (looks : ∀ path, Keeps holds (disk.exists? path))
    (reads : ∀ path, Keeps holds (disk.read path)) (environment : Environment)
    (path? : Option String) : Keeps holds (load disk environment path?) := by
  have file (path : String) : Keeps holds (ofFile disk path) := by
    refine (reads path).bind fun answer => ?_
    cases answer <;> exact keeps_pure _
  cases path? with
  | some path => exact (file path).bind fun settings => keeps_pure _
  | none =>
      refine (keeps_find looks environment).bind fun found => ?_
      cases found with
      | none => exact keeps_pure _
      | some path => exact (file path).bind fun settings => keeps_pure _

end Settings

section Store

variable {holds : σ → Prop} {host : Host (StateM σ)} (store : Store)

theorem Store.keeps_load (reads : ∀ path, Keeps holds (host.disk.read path))
    (clock : Keeps holds host.now) : Keeps holds (store.load host) := by
  refine (reads _).bind fun answer => ?_
  split
  · exact keeps_pure _
  · exact clock.bind fun now => keeps_pure _
  · exact keeps_pure _

theorem Store.keeps_ask (reads : ∀ path, Keeps holds (host.disk.read path))
    (clock : Keeps holds host.now) (question : StoreState → Answer α) :
    Keeps holds (store.ask host question) := by
  refine (store.keeps_load reads clock).bind fun answer => ?_
  cases answer <;> exact keeps_pure _

end Store

/-! ### Making directories -/

/-- Making a directory and those above it keeps whatever making each of them keeps. -/
theorem Disk.keeps_makeDirectoriesFrom {holds : σ → Prop} {disk : Disk (StateM σ)}
    (looks : ∀ path, Keeps holds (disk.isDirectory path)) (paths : List String)
    (makes : ∀ path ∈ paths, Keeps holds (disk.makeDirectory path)) :
    Keeps holds (disk.makeDirectoriesFrom paths) := by
  have settles (path : String) (answer : FileAnswer Unit) :
      Keeps holds (disk.settleDirectory path answer) := by
    cases answer with
    | ok => exact keeps_pure _
    | error error =>
        refine (looks path).bind fun isThere => ?_
        cases isThere <;> exact keeps_pure _
  induction paths with
  | nil => exact keeps_pure _
  | cons path parents hyp =>
      obtain ⟨own, above⟩ := List.forall_mem_cons.mp makes
      unfold makeDirectoriesFrom
      split
      · exact keeps_pure _
      refine own.bind fun answer => ?_
      split
      · refine (hyp above).bind fun answer => ?_
        split
        · exact keeps_pure _
        · exact own.bind (settles path)
      · exact settles path _

/-! ### Programs that call a provider -/

section Providers

variable {holds : σ → Prop} {provider : Provider (StateM σ)}

theorem Survey.keeps_resources (lists : ∀ group, Keeps holds (provider.list group)) (survey : Survey)
    (test : DeployedResource → Bool) : Keeps holds (survey.resources provider test) := by
  refine (lists _).bind fun answer => ?_
  cases answer <;> exact keeps_pure _

theorem Survey.keeps_resolve (asks : ∀ network, Keeps holds (provider.subnets network))
    (candidates : List DeployedResource) : Keeps holds (resolve provider candidates) := by
  induction candidates with
  | nil => exact keeps_pure _
  | cons resource rest hyp =>
      have first : Keeps holds (network provider resource) := by
        refine (asks _).bind fun answer => ?_
        cases answer <;> exact keeps_pure _
      refine first.bind fun view => ?_
      cases view with
      | error error => exact keeps_pure _
      | ok own =>
          refine hyp.bind fun others => ?_
          cases others <;> exact keeps_pure _

theorem Survey.keeps_networks (lists : ∀ group, Keeps holds (provider.list group))
    (asks : ∀ network, Keeps holds (provider.subnets network)) (survey : Survey)
    (purpose : SubnetPurpose) : Keeps holds (survey.networks provider purpose) := by
  refine (survey.keeps_resources lists _).bind fun answer => ?_
  cases answer with
  | error error => exact keeps_pure _
  | ok candidates => exact keeps_resolve asks candidates

variable (creates : ∀ group definition tags, Keeps holds (provider.create group definition tags))
  (finds : ∀ group kind name, Keeps holds (provider.find group kind name))
  (group : ResourceGroup) (zone : String)

include creates finds

theorem Declaration.keeps_realise (declaration : Declaration) :
    Keeps holds (declaration.realise provider group zone) := by
  refine (creates _ _ _).bind fun answer => ?_
  split
  · exact keeps_pure _
  · exact (finds _ _ _).bind fun existing => keeps_pure _
  · exact keeps_pure _

/-- **A deployment keeps whatever its calls keep**, also when it stops half way. -/
theorem Declaration.keeps_realiseAll (declarations : List Declaration) :
    Keeps holds (realiseAll provider group zone declarations) := by
  induction declarations with
  | nil => exact keeps_pure _
  | cons declaration rest hyp =>
      refine (declaration.keeps_realise creates finds group zone).bind fun answer => ?_
      cases answer with
      | error error => exact keeps_pure _
      | ok resource => exact hyp.bind fun progress => keeps_pure _

theorem Blueprint.keeps_progress (blueprint : Blueprint) : Keeps holds (blueprint.progress provider) := by
  unfold progress
  split
  · exact keeps_pure _
  · exact Declaration.keeps_realiseAll creates finds _ _ _

end Providers

end Provision
