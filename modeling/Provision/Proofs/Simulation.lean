/-
**Providers that answer alike.**

Two providers answer alike if their states are related, every call has the same answer on both and the
states stay related. What is made of such calls is then the same, too:

* `CloudError.plain` and `ZoneError.plain` leave out by which text a name is said to be taken, the only
  thing in which answers may differ;
* `Provider.Simulates` says so of the calls;
* `Simulates.deploy` says so of deployments, `Simulates.resources` and `Simulates.networks` of surveys.
-/

import Provision.Proofs.Blueprints
import Provision.Proofs.Deployment
import Provision.Survey

namespace Provision

variable {α β σ τ : Type}

/-! ### Answers without texts -/

/-- An error without the text by which a name is said to be taken. -/
def CloudError.plain : CloudError → CloudError
  | alreadyExists _ => alreadyExists ""
  | error => error

/-- An error whose cause is without the text by which a name is said to be taken. -/
def ZoneError.plain : ZoneError → ZoneError
  | creation kind name cause => creation kind name cause.plain
  | provider cause => provider cause.plain
  | error => error

/-- Progress whose failure is without the text by which a name is said to be taken. -/
def Progress.plain (progress : Progress) : Progress :=
  { progress with failure? := progress.failure?.map ZoneError.plain }

theorem CloudError.plain_eq_alreadyExists {error : CloudError}
    (same : error.plain = .alreadyExists "") : ∃ text, error = .alreadyExists text := by
  cases error with
  | alreadyExists text => exact ⟨text, rfl⟩
  | _ => cases same

theorem CloudError.plain_eq_self {error : CloudError} (other : ∀ text, error ≠ .alreadyExists text) :
    error.plain = error := by
  cases error with
  | alreadyExists text => exact absurd rfl (other text)
  | _ => rfl

theorem Progress.result_plain {progress other : Progress} (same : progress.plain = other.plain) :
    progress.result.mapError ZoneError.plain = other.result.mapError ZoneError.plain := by
  obtain ⟨made, failure?⟩ := progress
  obtain ⟨made', failure?'⟩ := other
  simp only [plain, Progress.mk.injEq] at same
  obtain ⟨rfl, same⟩ := same
  cases failure? <;> cases failure?' <;>
    simp_all [Progress.result, Except.mapError]

/-- Answers that are alike are the same, or errors that are alike. -/
theorem mapError_eq_cases {ε : Type} {plain : ε → ε} {first second : Except ε α}
    (same : first.mapError plain = second.mapError plain) :
    (∃ value, first = .ok value ∧ second = .ok value) ∨
      ∃ error other, first = .error error ∧ second = .error other ∧ plain error = plain other := by
  cases first with
  | ok value =>
      cases second with
      | ok value' => exact .inl ⟨value, rfl, congrArg Except.ok (Except.ok.inj same).symm⟩
      | error error => cases same
  | error error =>
      cases second with
      | ok value => cases same
      | error other => exact .inr ⟨error, other, rfl, rfl, Except.error.inj same⟩

/-! ### Operations that agree -/

/-- Whether two operations have come to answers that are alike and to states that are related. -/
structure Agree (plain : α → β) (related : σ → τ → Prop) (first : α × σ) (second : α × τ) :
    Prop where
  answer : plain first.1 = plain second.1
  state : related first.2 second.2

variable {related : σ → τ → Prop}

/-- Operations agree that go on alike behind the same answer. -/
theorem Agree.bind {γ : Type} {plain : β → γ} {first : StateM σ α} {second : StateM τ α} {state : σ}
    {other : τ} (agree : Agree id related (first state) (second other)) {next : α → StateM σ β}
    {next' : α → StateM τ β}
    (further : ∀ value state other, related state other →
      Agree plain related (next value state) (next' value other)) :
    Agree plain related ((first >>= next) state) ((second >>= next') other) := by
  have same : (first state).1 = (second other).1 := agree.answer
  rw [bind_apply, bind_apply, same]
  exact further _ _ _ agree.state

/-- Two providers that answer alike as long as every resource has a name. -/
structure Provider.Simulates (first : Provider (StateM σ)) (second : Provider (StateM τ))
    (related : σ → τ → Prop) : Prop where
  create : ∀ (group : ResourceGroup) (definition : ResourceDefinition) (tags : Tags) (state : σ)
    (other : τ), Text.isBlank definition.name = false → related state other →
      Agree (Except.mapError CloudError.plain) related (first.create group definition tags state)
        (second.create group definition tags other)
  find : ∀ (group : ResourceGroup) (kind : ResourceKind) (name : String) (state : σ) (other : τ),
    related state other →
      Agree id related (first.find group kind name state) (second.find group kind name other)
  list : ∀ (group : ResourceGroup) (state : σ) (other : τ), related state other →
    Agree id related (first.list group state) (second.list group other)
  subnets : ∀ (network : String) (state : σ) (other : τ), related state other →
    Agree id related (first.subnets network state) (second.subnets network other)

namespace Provider.Simulates

variable {first : Provider (StateM σ)} {second : Provider (StateM τ)} {state : σ} {other : τ}

/-! ### Deployments -/

/-- What is settled does not depend on how it was said that the name is taken. -/
theorem settle_plain (zone : String) (declaration : Declaration) (taken text : String)
    (existing : Answer (Option DeployedResource)) :
    (declaration.settle zone taken existing).mapError ZoneError.plain =
      (declaration.settle zone text existing).mapError ZoneError.plain := by
  cases existing with
  | error cause => rfl
  | ok found =>
      cases found with
      | none => rfl
      | some resource =>
          unfold Declaration.settle
          simp only
          split
          · cases Declaration.drift (declaration.tags zone) resource.tags <;> rfl
          · rfl

theorem realise (simulates : first.Simulates second related) (group : ResourceGroup) (zone : String)
    {declaration : Declaration} (named : Text.isBlank declaration.definition.name = false)
    (start : related state other) :
    Agree (Except.mapError ZoneError.plain) related (declaration.realise first group zone state)
      (declaration.realise second group zone other) := by
  have agree := simulates.create group declaration.definition (declaration.tags zone) state other
    named start
  rw [Declaration.realise_apply, Declaration.realise_apply]
  generalize first.create group declaration.definition (declaration.tags zone) state = reply at agree
  generalize second.create group declaration.definition (declaration.tags zone) other = reply' at agree
  obtain ⟨answer, after⟩ := reply
  obtain ⟨answer', after'⟩ := reply'
  obtain ⟨same, later⟩ := agree
  rcases mapError_eq_cases same with ⟨resource, rfl, rfl⟩ | ⟨cause, cause', rfl, rfl, alike⟩
  · exact ⟨rfl, later⟩
  by_cases taken : ∃ text, cause = .alreadyExists text
  · obtain ⟨text, rfl⟩ := taken
    obtain ⟨text', rfl⟩ := CloudError.plain_eq_alreadyExists alike.symm
    have found := simulates.find group declaration.definition.kind declaration.definition.name
      after after' later
    refine ⟨?_, found.state⟩
    show Except.mapError _ (declaration.settle zone text _) = _
    rw [show (first.find _ _ _ _).1 = (second.find _ _ _ _).1 from found.answer]
    exact settle_plain zone declaration text text' _
  · have free : ∀ text, cause ≠ .alreadyExists text := fun text equal => taken ⟨text, equal⟩
    have free' : ∀ text, cause' ≠ .alreadyExists text := by
      rintro text rfl
      obtain ⟨text', rfl⟩ := CloudError.plain_eq_alreadyExists alike
      exact free text' rfl
    rw [CloudError.plain_eq_self free, CloudError.plain_eq_self free'] at alike
    subst alike
    cases cause with
    | alreadyExists text => exact absurd rfl (free text)
    | _ => exact ⟨rfl, later⟩

theorem realiseAll (simulates : first.Simulates second related) (group : ResourceGroup)
    (zone : String) {declarations : List Declaration}
    (named : ∀ declaration ∈ declarations, Text.isBlank declaration.definition.name = false)
    (start : related state other) :
    Agree Progress.plain related (Declaration.realiseAll first group zone declarations state)
      (Declaration.realiseAll second group zone declarations other) := by
  induction declarations generalizing state other with
  | nil => exact ⟨rfl, start⟩
  | cons declaration rest hyp =>
      have agree := simulates.realise group zone (named declaration List.mem_cons_self) start
      rw [Declaration.realiseAll_apply, Declaration.realiseAll_apply]
      generalize declaration.realise first group zone state = reply at agree
      generalize declaration.realise second group zone other = reply' at agree
      obtain ⟨answer, after⟩ := reply
      obtain ⟨answer', after'⟩ := reply'
      obtain ⟨same, later⟩ := agree
      rcases mapError_eq_cases same with ⟨resource, rfl, rfl⟩ | ⟨error, error', rfl, rfl, alike⟩
      · obtain ⟨others, last⟩ :=
          hyp (fun other member => named other (List.mem_cons_of_mem _ member)) later
        refine ⟨?_, last⟩
        simp only [Progress.plain, Progress.mk.injEq] at others
        simp only [Progress.plain, Progress.after, others]
      · refine ⟨?_, later⟩
        simp only [Progress.plain, Option.map_some, alike]

/-- **Deployments come to the same end.** -/
theorem deploy (simulates : first.Simulates second related) (blueprint : Blueprint)
    (start : related state other) :
    Agree (Except.mapError ZoneError.plain) related (blueprint.deploy first state)
      (blueprint.deploy second other) := by
  cases faulty : blueprint.fault? with
  | some fault =>
      rw [Blueprint.deploy_of_fault faulty, Blueprint.deploy_of_fault faulty]
      exact ⟨rfl, start⟩
  | none =>
      have named : ∀ declaration ∈ blueprint.declarations,
          Text.isBlank declaration.definition.name = false := fun declaration member =>
        Declaration.isBlank_of_faultless (Blueprint.faultless_declaration faulty declaration member)
      obtain ⟨same, last⟩ := simulates.realiseAll blueprint.group blueprint.zone named start
      rw [Blueprint.deploy_of_faultless faulty, Blueprint.deploy_of_faultless faulty]
      exact ⟨Progress.result_plain same, last⟩

/-! ### Surveys -/

/-- **Surveys list the same resources.** -/
theorem resources (simulates : first.Simulates second related) (survey : Survey)
    (test : DeployedResource → Bool) (start : related state other) :
    Agree id related (survey.resources first test state) (survey.resources second test other) := by
  refine (simulates.list survey.group state other start).bind fun listed state other start => ?_
  cases listed <;> exact ⟨rfl, start⟩

theorem network (simulates : first.Simulates second related) (resource : DeployedResource)
    (start : related state other) :
    Agree id related (Survey.network first resource state)
      (Survey.network second resource other) := by
  refine (simulates.subnets resource.id state other start).bind fun live state other start => ?_
  cases live <;> exact ⟨rfl, start⟩

theorem resolve (simulates : first.Simulates second related) (candidates : List DeployedResource)
    (start : related state other) :
    Agree id related (Survey.resolve first candidates state)
      (Survey.resolve second candidates other) := by
  induction candidates generalizing state other with
  | nil => exact ⟨rfl, start⟩
  | cons resource rest hyp =>
      refine (simulates.network resource start).bind fun answer state other start => ?_
      cases answer with
      | error error => exact ⟨rfl, start⟩
      | ok network =>
          refine (hyp start).bind fun answer state other start => ?_
          cases answer <;> exact ⟨rfl, start⟩

/-- **Surveys list the same virtual networks.** -/
theorem networks (simulates : first.Simulates second related) (survey : Survey)
    (purpose : SubnetPurpose) (start : related state other) :
    Agree id related (survey.networks first purpose state) (survey.networks second purpose other) := by
  refine (simulates.resources survey _ start).bind fun answer state other start => ?_
  cases answer with
  | error error => exact ⟨rfl, start⟩
  | ok candidates => exact simulates.resolve candidates start

end Provider.Simulates

end Provision
