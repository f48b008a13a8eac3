/-
**What a deployment asks of a provider.**

The provider is any machine with a state: it may answer anything, in any order. It is made to note
every call, and the stream of a deployment is pulled turn by turn:

* `Exchange` is a call with its answer, `Provider.noting` the provider that notes its calls;
* `Rollout.turns` pulls several times and says what each pull gave and asked;
* `Declaration.Served` is what a pull does for a declaration: one creation with the planned tags, and
  one look-up if and only if the name is taken;
* **`Rollout.turns_served`** — the pulls serve the declarations one by one, up to the first error;
* **`Rollout.realiseAll_noting`** — a whole deployment asks what the pulls ask, and comes to what they
  come to;
* **`deployment_follows_protocol`** — both, with the errors that are worth another attempt.
-/

import Provision.Proofs.Blueprints
import Provision.Proofs.Deployment

namespace Provision

/-! ### Noting calls -/

/-- A call to a provider and what it answered. -/
inductive Exchange where
  | create (group : ResourceGroup) (definition : ResourceDefinition) (tags : Tags)
    (answer : Answer DeployedResource)
  | find (group : ResourceGroup) (kind : ResourceKind) (name : String)
    (answer : Answer (Option DeployedResource))
  | list (group : ResourceGroup) (answer : Answer (List DeployedResource))
  | subnets (network : String) (answer : Answer Subnets)

variable {σ : Type}

/-- A call that is noted behind the earlier ones. -/
def noting {α : Type} (exchange : α → Exchange) (call : StateM σ α) : StateM (σ × List Exchange) α :=
  fun memory => ((call memory.1).1, ((call memory.1).2, memory.2 ++ [exchange (call memory.1).1]))

/-- The same provider, which notes every call with its answer. -/
def Provider.noting (provider : Provider (StateM σ)) : Provider (StateM (σ × List Exchange)) where
  name := provider.name
  create := fun group definition tags =>
    Provision.noting (.create group definition tags) (provider.create group definition tags)
  find := fun group kind name =>
    Provision.noting (.find group kind name) (provider.find group kind name)
  list := fun group => Provision.noting (.list group) (provider.list group)
  subnets := fun network => Provision.noting (.subnets network) (provider.subnets network)

variable (provider : Provider (StateM σ)) (group : ResourceGroup) (zone : String)

namespace Declaration

/-- The calls that realise a declaration. -/
def calls (declaration : Declaration) (state : σ) : List Exchange :=
  let definition := declaration.definition
  match provider.create group definition (declaration.tags zone) state with
  | (.error (.alreadyExists taken), after) =>
    [.create group definition (declaration.tags zone) (.error (.alreadyExists taken)),
      .find group definition.kind definition.name
        (provider.find group definition.kind definition.name after).1]
  | (answer, _) => [.create group definition (declaration.tags zone) answer]

/-- Noting the calls of a declaration changes nothing else. -/
theorem realise_noting (declaration : Declaration) (state : σ) (noted : List Exchange) :
    declaration.realise provider.noting group zone (state, noted) =
      ((declaration.realise provider group zone state).1,
        ((declaration.realise provider group zone state).2,
          noted ++ declaration.calls provider group zone state)) := by
  rw [realise_apply, realise_apply, calls]
  simp only [Provider.noting, Provision.noting]
  generalize provider.create group declaration.definition (declaration.tags zone) state = reply
  obtain ⟨answer, after⟩ := reply
  cases answer with
  | ok resource => rfl
  | error cause =>
      cases cause with
      | alreadyExists taken => simp only [List.append_assoc, List.singleton_append]
      | _ => rfl

/-- Noting the calls of several declarations changes nothing else, either. -/
theorem realiseAll_unnoted (declarations : List Declaration) (state : σ) (noted : List Exchange) :
    let reply := realiseAll provider.noting group zone declarations (state, noted)
    (reply.1, reply.2.1) = realiseAll provider group zone declarations state := by
  induction declarations generalizing state noted with
  | nil => rfl
  | cons declaration rest hyp =>
      rw [realiseAll_apply, realiseAll_apply, realise_noting]
      generalize declaration.realise provider group zone state = reply
      obtain ⟨answer, after⟩ := reply
      cases answer with
      | ok resource =>
          have further := hyp after (noted ++ declaration.calls provider group zone state)
          simp only [← further]
      | error error => rfl

end Declaration

/-! ### Turns -/

/-- What one pull gave, and the calls that it made. -/
structure Turn where
  item? : Option (Except ZoneError DeployedResource)
  calls : List Exchange

namespace Turn

/-- The turn of a stream that has ended. -/
def idle : Turn := ⟨none, []⟩

theorem flatMap_calls_idle (count : Nat) : (List.replicate count idle).flatMap (·.calls) = [] := by
  rw [List.flatMap_eq_nil_iff]
  intro turn member
  rw [List.eq_of_mem_replicate member]
  rfl

/-- The turn gave a resource. -/
def Delivers (turn : Turn) : Prop := ∃ resource, turn.item? = some (.ok resource)

/-- What comes of collecting the items of some turns: all resources up to the end of the stream, or the
first error. -/
def collected : List Turn → Except ZoneError (List DeployedResource)
  | [] => .ok []
  | turn :: rest =>
    match turn.item? with
    | none => .ok []
    | some (.error error) => .error error
    | some (.ok resource) => (collected rest).map (resource :: ·)

/-- An error that is collected is the item of a turn. -/
theorem exists_of_collected_eq_error {turns : List Turn} {error : ZoneError}
    (failed : collected turns = .error error) : ∃ turn ∈ turns, turn.item? = some (.error error) := by
  induction turns with
  | nil => cases failed
  | cons turn rest hyp =>
      unfold collected at failed
      split at failed
      · cases failed
      next item =>
        obtain rfl := Except.error.inj failed
        exact ⟨turn, List.mem_cons_self, item⟩
      · cases further : collected rest with
        | ok made =>
            rw [further] at failed
            cases failed
        | error other =>
            rw [further] at failed
            obtain rfl := Except.error.inj failed
            obtain ⟨later, member, item⟩ := hyp further
            exact ⟨later, List.mem_cons_of_mem _ member, item⟩

end Turn

namespace Rollout

/-- What several pulls gave and asked, and the state of the provider after them. The notes are begun
anew for each. -/
def turns : Nat → Rollout → σ → List Turn × σ
  | 0, _, state => ([], state)
  | count + 1, rollout, state =>
    let reply := rollout.pull provider.noting (state, [])
    let further := turns count reply.1.2 reply.2.1
    (⟨reply.1.1, reply.2.2⟩ :: further.1, further.2)

/-- Every pull is a turn. -/
theorem length_turns (count : Nat) (rollout : Rollout) (state : σ) :
    (turns provider count rollout state).1.length = count := by
  induction count generalizing rollout state with
  | zero => rfl
  | succ count hyp => exact congrArg Nat.succ (hyp _ _)

theorem pullPending_noting (declarations : List Declaration) (state : σ) (noted : List Exchange) :
    let reply := pullPending provider.noting group zone declarations (state, noted)
    (reply.1, reply.2.1) = pullPending provider group zone declarations state := by
  cases declarations with
  | nil => rfl
  | cons declaration rest =>
      simp only [pullPending, bind_apply]
      rw [Declaration.realise_noting]
      generalize declaration.realise provider group zone state = reply
      obtain ⟨answer, after⟩ := reply
      cases answer <;> rfl

/-- Noting the calls of a pull changes nothing else. -/
theorem pull_noting (rollout : Rollout) (state : σ) (noted : List Exchange) :
    let reply := rollout.pull provider.noting (state, noted)
    (reply.1, reply.2.1) = rollout.pull provider state := by
  cases rollout with
  | planned blueprint =>
      simp only [pull]
      cases blueprint.fault? with
      | some fault => rfl
      | none => exact pullPending_noting provider _ _ _ state noted
  | underway group zone declarations =>
      exact pullPending_noting provider group zone declarations state noted

/-- Nothing comes of a rollout of which nothing is left. -/
theorem turns_underway_nil (count : Nat) (state : σ) :
    turns provider count (underway group zone []) state =
      (List.replicate count Turn.idle, state) := by
  induction count with
  | zero => rfl
  | succ count hyp =>
      show (Turn.idle :: (turns provider count (underway group zone []) state).1,
        (turns provider count (underway group zone []) state).2) = _
      rw [hyp]
      rfl

/-- A pull realises the first declaration that is left; after an error none is left. -/
theorem turns_underway_cons (declaration : Declaration) (rest : List Declaration) (count : Nat)
    (state : σ) :
    turns provider (count + 1) (underway group zone (declaration :: rest)) state =
      let reply := declaration.realise provider group zone state
      let left := match reply.1 with
        | .ok _ => rest
        | .error _ => []
      let further := turns provider count (underway group zone left) reply.2
      (⟨some reply.1, declaration.calls provider group zone state⟩ :: further.1, further.2) := by
  simp only [turns, pull, pullPending, bind_apply]
  rw [Declaration.realise_noting]
  generalize declaration.realise provider group zone state = reply
  obtain ⟨answer, after⟩ := reply
  cases answer <;> rfl

theorem turns_planned_of_fault {blueprint : Blueprint} {fault : Fault}
    (faulty : blueprint.fault? = some fault) (count : Nat) (state : σ) :
    turns provider (count + 1) (planned blueprint) state =
      (⟨some (.error (.invalidRequest fault)), []⟩ :: List.replicate count Turn.idle, state) := by
  simp only [turns, pull, faulty]
  show (_ :: (turns provider count (underway _ _ []) state).1,
    (turns provider count (underway _ _ []) state).2) = _
  rw [turns_underway_nil]
  rfl

/-- A blueprint without a fault is pulled like its declarations. -/
theorem turns_planned_of_faultless {blueprint : Blueprint} (faultless : blueprint.fault? = none)
    (count : Nat) (state : σ) :
    turns provider count (planned blueprint) state =
      turns provider count (underway blueprint.group blueprint.zone blueprint.declarations) state := by
  cases count with
  | zero => rfl
  | succ count => simp only [turns, pull, faultless]

end Rollout

/-! ### One declaration, one turn -/

/-- What a pull does for a declaration whose tags are planned: it creates the resource with them, and
if and only if its name is taken it looks up, once, what has it. -/
inductive Declaration.Served (group : ResourceGroup) (zone : String) (declaration : Declaration)
    (tags : Tags) : Turn → Prop where
  | created (resource : DeployedResource) : Served group zone declaration tags
      ⟨some (.ok resource), [.create group declaration.definition tags (.ok resource)]⟩
  | refused (cause : CloudError) (free : ∀ taken, cause ≠ .alreadyExists taken) :
      Served group zone declaration tags
        ⟨some (.error (declaration.refused cause)),
          [.create group declaration.definition tags (.error cause)]⟩
  | settled (taken : String) (existing : Answer (Option DeployedResource)) :
      Served group zone declaration tags
        ⟨some (declaration.settle zone taken existing),
          [.create group declaration.definition tags (.error (.alreadyExists taken)),
            .find group declaration.definition.kind declaration.definition.name existing]⟩

namespace Declaration

/-- A declaration is realised by the calls that serve it. -/
theorem served (declaration : Declaration) (state : σ) :
    declaration.Served group zone (declaration.tags zone)
      ⟨some (declaration.realise provider group zone state).1,
        declaration.calls provider group zone state⟩ := by
  rw [realise_apply, calls]
  generalize provider.create group declaration.definition (declaration.tags zone) state = reply
  obtain ⟨answer, after⟩ := reply
  cases answer with
  | ok resource => exact .created resource
  | error cause =>
      cases cause with
      | alreadyExists taken => exact .settled taken _
      | _ => exact .refused _ fun _ same => nomatch same

variable {group zone} {declaration : Declaration} {tags : Tags} {turn : Turn}

/-- What keeps a declaration from settling counts as caused by the provider. -/
theorem isRetryable_of_settle {taken : String} {existing : Answer (Option DeployedResource)}
    {error : ZoneError} (failed : declaration.settle zone taken existing = .error error) :
    error.isRetryable = true := by
  unfold settle at failed
  split at failed
  · obtain rfl := Except.error.inj failed
    rfl
  · obtain rfl := Except.error.inj failed
    rfl
  · split at failed
    · split at failed
      · cases failed
      · obtain rfl := Except.error.inj failed
        rfl
    · obtain rfl := Except.error.inj failed
      rfl

theorem Served.calls_ne_nil (served : declaration.Served group zone tags turn) : turn.calls ≠ [] := by
  cases served <;> exact List.cons_ne_nil _ _

theorem Served.isRetryable (served : declaration.Served group zone tags turn) {error : ZoneError}
    (item : turn.item? = some (.error error)) : error.isRetryable = true := by
  cases served with
  | created resource => cases item
  | refused cause free =>
      obtain rfl := Except.error.inj (Option.some.inj item)
      rfl
  | settled taken existing => exact isRetryable_of_settle (Option.some.inj item)

end Declaration

namespace Rollout

/-- **Pulls serve the declarations one by one**, as long as every earlier one was delivered. Behind the
last declaration and behind an error nothing is asked and nothing comes. -/
theorem turns_served (pending : List Declaration) (count : Nat) (state : σ) (index : Nat) (turn : Turn)
    (pulled : (turns provider count (underway group zone pending) state).1[index]? = some turn) :
    let earlier := (turns provider count (underway group zone pending) state).1.take index
    (∃ declaration, pending[index]? = some declaration ∧ (∀ before ∈ earlier, before.Delivers) ∧
      declaration.Served group zone (declaration.tags zone) turn) ∨
    turn = .idle ∧ (pending.length ≤ index ∨
      ∃ before ∈ earlier, ∃ error, before.item? = some (.error error)) := by
  induction pending generalizing count state index with
  | nil =>
      rw [turns_underway_nil] at pulled
      exact .inr ⟨List.eq_of_mem_replicate (List.mem_of_getElem? pulled), .inl (Nat.zero_le _)⟩
  | cons declaration rest hyp =>
      cases count with
      | zero => cases pulled
      | succ count =>
          have served := declaration.served provider group zone state
          rw [turns_underway_cons] at pulled ⊢
          generalize declaration.realise provider group zone state = reply at pulled served ⊢
          obtain ⟨answer, after⟩ := reply
          cases index with
          | zero =>
              obtain rfl := Option.some.inj pulled
              exact .inl ⟨declaration, rfl, fun _ member => (nomatch member), served⟩
          | succ index =>
              cases answer with
              | ok resource =>
                  simp only [List.getElem?_cons_succ, List.take_succ_cons, List.forall_mem_cons,
                    List.length_cons, Nat.add_le_add_iff_right] at pulled ⊢
                  rcases hyp count after index pulled with
                    ⟨next, here, before, serves⟩ | ⟨idle, past | ⟨before, member, failed⟩⟩
                  · exact .inl ⟨next, here, ⟨⟨resource, rfl⟩, before⟩, serves⟩
                  · exact .inr ⟨idle, .inl past⟩
                  · exact .inr ⟨idle, .inr ⟨before, List.mem_cons_of_mem _ member, failed⟩⟩
              | error error =>
                  simp only [List.getElem?_cons_succ, turns_underway_nil] at pulled
                  have idle := List.eq_of_mem_replicate (List.mem_of_getElem? pulled)
                  exact .inr ⟨idle, .inr ⟨_, List.mem_cons_self, error, rfl⟩⟩

/-- **A whole deployment asks what the pulls ask**, and it collects what they give. -/
theorem realiseAll_noting (pending : List Declaration) (count : Nat) (enough : pending.length < count)
    (state : σ) (noted : List Exchange) :
    let pulled := turns provider count (underway group zone pending) state
    let reply := Declaration.realiseAll provider.noting group zone pending (state, noted)
    (reply.1.result, reply.2) =
      (Turn.collected pulled.1, (pulled.2, noted ++ pulled.1.flatMap (·.calls))) := by
  obtain ⟨count, rfl⟩ : ∃ fewer, count = fewer + 1 := ⟨count - 1, by omega⟩
  induction pending generalizing count state noted with
  | nil =>
      simp only [turns_underway_nil, Turn.flatMap_calls_idle, List.append_nil]
      rfl
  | cons declaration rest hyp =>
      obtain ⟨count, rfl⟩ : ∃ fewer, count = fewer + 1 := ⟨count - 1, by simp at enough; omega⟩
      have fewer : rest.length < count + 1 := by
        simpa using enough
      rw [turns_underway_cons, Declaration.realiseAll_apply, Declaration.realise_noting]
      generalize declaration.realise provider group zone state = reply
      obtain ⟨answer, after⟩ := reply
      cases answer with
      | ok resource =>
          have further := hyp after (noted ++ declaration.calls provider group zone state) count fewer
          simp only [Prod.mk.injEq] at further
          simp only [Turn.collected, List.flatMap_cons, further.2, ← further.1, List.append_assoc,
            Prod.mk.injEq, and_true]
          generalize (Declaration.realiseAll provider.noting group zone rest
            (after, noted ++ declaration.calls provider group zone state)).1 = progress
          obtain ⟨made, failure?⟩ := progress
          cases failure? <;> rfl
      | error error =>
          simp only [turns_underway_nil, List.flatMap_cons, Turn.flatMap_calls_idle, List.append_nil]
          rfl

end Rollout

/-! ### The whole protocol -/

namespace Blueprint

variable {provider} {blueprint : Blueprint}

/-- The planned tags of a declaration are the tags that it is given. -/
theorem plan_getElem? {index : Nat} {declaration : Declaration}
    (here : blueprint.declarations[index]? = some declaration) :
    blueprint.plan.resources[index]? = some (declaration.plan blueprint.zone) := by
  simp only [plan, List.getElem?_map, here, Option.map_some]

/-- A deployment asks what enough pulls ask, and comes to what they come to. -/
theorem deploy_noting (count : Nat) (enough : blueprint.declarations.length < count) (state : σ) :
    let pulled := Rollout.turns provider count (.planned blueprint) state
    blueprint.deploy provider.noting (state, []) =
      (Turn.collected pulled.1, (pulled.2, pulled.1.flatMap (·.calls))) := by
  cases faulty : blueprint.fault? with
  | some fault =>
      obtain ⟨count, rfl⟩ : ∃ fewer, count = fewer + 1 := ⟨count - 1, by omega⟩
      rw [deploy_of_fault faulty, Rollout.turns_planned_of_fault provider faulty]
      simp only [List.flatMap_cons, Turn.flatMap_calls_idle, List.append_nil]
      rfl
  | none =>
      rw [deploy_of_faultless faulty, Rollout.turns_planned_of_faultless provider faulty]
      exact Rollout.realiseAll_noting provider _ _ _ count enough state []

/-- Noting the calls of a deployment changes nothing else. -/
theorem deploy_unnoted (blueprint : Blueprint) (state : σ) :
    let reply := blueprint.deploy provider.noting (state, [])
    (reply.1, reply.2.1) = blueprint.deploy provider state := by
  cases faulty : blueprint.fault? with
  | some fault =>
      rw [deploy_of_fault faulty, deploy_of_fault faulty]
  | none =>
      rw [deploy_of_faultless faulty, deploy_of_faultless faulty]
      simp only [← Declaration.realiseAll_unnoted provider _ _ _ state []]

/-- Every pull of a blueprint without a fault serves the planned resource of its place, or is idle
because an error came before or nothing is left. -/
theorem turns_follow_plan (faultless : blueprint.fault? = none) (count : Nat) (state : σ) (index : Nat)
    (turn : Turn)
    (pulled : (Rollout.turns provider count (.planned blueprint) state).1[index]? = some turn) :
    let earlier := (Rollout.turns provider count (.planned blueprint) state).1.take index
    (∃ declaration planned, blueprint.declarations[index]? = some declaration ∧
      blueprint.plan.resources[index]? = some planned ∧ (∀ before ∈ earlier, before.Delivers) ∧
      declaration.Served blueprint.group blueprint.zone planned.tags turn) ∨
    turn = .idle ∧ (blueprint.declarations.length ≤ index ∨
      ∃ before ∈ earlier, ∃ error, before.item? = some (.error error)) := by
  rw [Rollout.turns_planned_of_faultless provider faultless] at pulled ⊢
  rcases Rollout.turns_served provider blueprint.group blueprint.zone blueprint.declarations count
    state index turn pulled with ⟨declaration, here, before, served⟩ | idle
  · exact .inl ⟨declaration, declaration.plan blueprint.zone, here, plan_getElem? here, before, served⟩
  · exact .inr idle

/-- An error of a deployment can be overcome by another attempt exactly when the provider was asked. -/
theorem isRetryable_iff_asked (count : Nat) (enough : blueprint.declarations.length < count)
    (state : σ) {error : ZoneError} (failed : (blueprint.deploy provider state).1 = .error error) :
    error.isRetryable = true ↔
      (Rollout.turns provider count (.planned blueprint) state).1.flatMap (·.calls) ≠ [] := by
  cases faulty : blueprint.fault? with
  | some fault =>
      obtain ⟨count, rfl⟩ : ∃ fewer, count = fewer + 1 := ⟨count - 1, by omega⟩
      rw [deploy_of_fault faulty] at failed
      obtain rfl := Except.error.inj failed
      rw [Rollout.turns_planned_of_fault provider faulty, List.flatMap_cons, Turn.flatMap_calls_idle]
      exact iff_of_false Bool.false_ne_true fun asked => asked rfl
  | none =>
      have collected : Turn.collected (Rollout.turns provider count (.planned blueprint) state).1 =
          .error error := by
        rw [← failed, ← deploy_unnoted, deploy_noting count enough]
      obtain ⟨turn, member, item⟩ := Turn.exists_of_collected_eq_error collected
      obtain ⟨index, here⟩ := List.mem_iff_getElem?.mp member
      rcases turns_follow_plan faulty count state index turn here with
        ⟨declaration, planned, -, -, -, served⟩ | ⟨rfl, -⟩
      · have asked : (Rollout.turns provider count (.planned blueprint) state).1.flatMap (·.calls) ≠
            [] := by
          intro silent
          exact served.calls_ne_nil (List.flatMap_eq_nil_iff.mp silent turn member)
        exact iff_of_true (served.isRetryable item) asked
      · cases item

/-- Behind an error no turn asks or gives anything. -/
theorem idle_after_error (count : Nat) (state : σ) {index later : Nat} {turn next : Turn}
    {error : ZoneError}
    (pulled : (Rollout.turns provider count (.planned blueprint) state).1[index]? = some turn)
    (item : turn.item? = some (.error error)) (behind : index < later)
    (further : (Rollout.turns provider count (.planned blueprint) state).1[later]? = some next) :
    next = .idle := by
  cases faulty : blueprint.fault? with
  | some fault =>
      cases count with
      | zero => cases further
      | succ count =>
          obtain ⟨later, rfl⟩ : ∃ place, later = place + 1 := ⟨later - 1, by omega⟩
          rw [Rollout.turns_planned_of_fault provider faulty, List.getElem?_cons_succ] at further
          exact List.eq_of_mem_replicate (List.mem_of_getElem? further)
  | none =>
      rcases turns_follow_plan faulty count state later next further with
        ⟨declaration, planned, -, -, before, -⟩ | ⟨idle, -⟩
      · have earlier : turn ∈ (Rollout.turns provider count (.planned blueprint) state).1.take later := by
          rw [List.mem_iff_getElem?]
          exact ⟨index, by rw [List.getElem?_take_of_lt behind, pulled]⟩
        obtain ⟨resource, delivered⟩ := before turn earlier
        rw [item] at delivered
        cases delivered
      · exact idle

end Blueprint

/-- **Every provider is asked by the same protocol**, whatever it answers.

Noting the calls changes no pull. A blueprint with a fault gives that fault and asks nothing. Otherwise
each pull serves the planned resource of its place, and asks nothing else; behind an error and behind
the last declaration nothing is asked. A whole deployment makes the calls of the pulls and comes to
what they give; its error is worth another attempt exactly when a call was made. -/
theorem deployment_follows_protocol (provider : Provider (StateM σ)) (blueprint : Blueprint)
    (state : σ) :
    (∀ (rollout : Rollout) (state : σ),
      let reply := rollout.pull provider.noting (state, [])
      (reply.1, reply.2.1) = rollout.pull provider state) ∧
    (∀ fault, blueprint.fault? = some fault → ∀ count,
      Rollout.turns provider (count + 1) (.planned blueprint) state =
        (⟨some (.error (.invalidRequest fault)), []⟩ :: List.replicate count Turn.idle, state)) ∧
    ∀ count,
      let pulled := Rollout.turns provider count (.planned blueprint) state
      let calls := pulled.1.flatMap (·.calls)
      pulled.1.length = count ∧
      (blueprint.fault? = none → ∀ index turn, pulled.1[index]? = some turn →
        (∃ declaration planned, blueprint.declarations[index]? = some declaration ∧
          blueprint.plan.resources[index]? = some planned ∧
          (∀ before ∈ pulled.1.take index, before.Delivers) ∧
          declaration.Served blueprint.group blueprint.zone planned.tags turn) ∨
        turn = .idle ∧ (blueprint.declarations.length ≤ index ∨
          ∃ before ∈ pulled.1.take index, ∃ error, before.item? = some (.error error))) ∧
      (∀ (index later : Nat) (turn next : Turn) (error : ZoneError), pulled.1[index]? = some turn →
        turn.item? = some (.error error) → index < later → pulled.1[later]? = some next →
          next = .idle) ∧
      (blueprint.declarations.length < count →
        blueprint.deploy provider.noting (state, []) = (Turn.collected pulled.1, (pulled.2, calls)) ∧
        blueprint.deploy provider state = (Turn.collected pulled.1, pulled.2) ∧
        ∀ error, (blueprint.deploy provider state).1 = .error error →
          (error.isRetryable = true ↔ calls ≠ [])) := by
  refine ⟨fun rollout state => Rollout.pull_noting provider rollout state [],
    fun fault faulty count => Rollout.turns_planned_of_fault provider faulty count state, ?_⟩
  intro count
  refine ⟨Rollout.length_turns provider count _ state, ?_, ?_, ?_⟩
  · intro faultless index turn pulled
    exact Blueprint.turns_follow_plan faultless count state index turn pulled
  · intro index later turn next error pulled item behind further
    exact Blueprint.idle_after_error count state pulled item behind further
  · intro enough
    have noted : blueprint.deploy provider.noting (state, []) = _ :=
      Blueprint.deploy_noting count enough state
    refine ⟨noted, ?_, fun error failed =>
      Blueprint.isRetryable_iff_asked count enough state failed⟩
    rw [← Blueprint.deploy_unnoted, noted]

/-! ### A provider that contradicts itself -/

/-- Every name is taken, and nobody has it. -/
def forgetful : Provider (StateM Nat) where
  name := "forgetful"
  create := fun _ definition _ count => (.error (.alreadyExists definition.name), count + 1)
  find := fun _ _ _ count => (.ok none, count + 1)
  list := fun _ count => (.ok [], count + 1)
  subnets := fun _ count => (.ok ∅, count + 1)

/-- Two accounts of one landing zone. -/
def twoAccounts : Blueprint :=
  (((⟨⟨"rg", "eastus", "sub"⟩, "", []⟩ : Blueprint).define "lz").declare
    { name := "first", kind := .storageAccount, region := "eastus" }).declare
      { name := "second", kind := .storageAccount, region := "eastus" }

theorem forgetful_deployment_follows_protocol :
    let asked := (twoAccounts.deploy forgetful.noting (0, [])).2.2
    twoAccounts.fault? = none ∧ asked.length = 2 ∧ (twoAccounts.deploy forgetful 0).2 = 2 ∧
    (∃ error : ZoneError, (twoAccounts.deploy forgetful 0).1 = .error error ∧
      error.isRetryable = true) ∧
    ∀ later next, 0 < later →
      (Rollout.turns forgetful 3 (.planned twoAccounts) 0).1[later]? = some next → next = .idle := by
  have faultless : twoAccounts.fault? = none := rfl
  obtain ⟨-, -, protocol⟩ := deployment_follows_protocol forgetful twoAccounts 0
  obtain ⟨-, -, ended, whole⟩ := protocol 3
  obtain ⟨noted, -, retryable⟩ := whole (by decide)
  have failed : (twoAccounts.deploy forgetful 0).1 =
      .error (.creation .storageAccount "first" (.alreadyExists "first")) := rfl
  have calls : (Rollout.turns forgetful 3 (.planned twoAccounts) 0).1.flatMap (·.calls) ≠ [] :=
    List.cons_ne_nil _ _
  refine ⟨faultless, ?_, rfl, ⟨_, failed, (retryable _ failed).mpr calls⟩, ?_⟩
  · rw [noted]
    rfl
  · intro later next behind further
    exact ended 0 later _ next _ rfl rfl behind further

end Provision
