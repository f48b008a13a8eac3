/-
**Surveys project what a provider answers.**

A survey keeps nothing and adds nothing: what it reports is a function of the listing and of the subnets
that the provider answers with. This holds of every provider, also of one that has other resources than
those of landing zones, or tags that nobody wrote:

* `Provider.Answers` says with what a provider answers, whatever else becomes of its state;
* `Survey.Includes` and `Survey.Considers` say of tags and type what a survey looks at;
* `Survey.view` is what one virtual network comes to, `Survey.Thwarts` the error if it comes to none;
* `Survey.resolve_apply`: the networks are viewed in order, up to the first that has an error;
* **`surveys_project_answers`** puts this together.
-/

import Mathlib.Data.List.Forall2
import Provision.Proofs.Deployment
import Provision.Proofs.Readback
import Provision.Provider.Memory
import Provision.Survey

namespace Provision

/-! ### In order, up to the first error -/

section Order

variable {ε α β : Type} {view : α → Except ε β}

theorem mapM_cons_of_ok {item : α} {value : β} (own : view item = .ok value) (rest : List α) :
    (item :: rest).mapM view = (rest.mapM view).map (value :: ·) := by
  rw [List.mapM_cons, own]
  cases rest.mapM view <;> rfl

theorem mapM_cons_of_error {item : α} {error : ε} (own : view item = .error error) (rest : List α) :
    (item :: rest).mapM view = .error error := by
  rw [List.mapM_cons, own]
  rfl

theorem map_eq_ok_iff {γ : Type} {answer : Except ε α} {next : α → γ} {value : γ} :
    answer.map next = .ok value ↔ ∃ found, answer = .ok found ∧ next found = value := by
  cases answer <;> simp [Except.map]

theorem map_eq_error_iff {γ : Type} {answer : Except ε α} {next : α → γ} {error : ε} :
    answer.map next = .error error ↔ answer = .error error := by
  cases answer <;> simp [Except.map]

/-- All items have a value exactly when each of them has its own. -/
theorem mapM_eq_ok_iff {items : List α} {values : List β} :
    items.mapM view = .ok values ↔
      List.Forall₂ (fun item value => view item = .ok value) items values := by
  induction items generalizing values with
  | nil =>
      rw [List.mapM_nil, List.forall₂_nil_left_iff]
      exact ⟨fun same => (Except.ok.inj same).symm, fun same => congrArg Except.ok same.symm⟩
  | cons item rest hyp =>
      rw [List.forall₂_cons_left_iff]
      cases own : view item with
      | error error => simp [mapM_cons_of_error own]
      | ok value =>
          simp only [mapM_cons_of_ok own, map_eq_ok_iff, hyp, Except.ok.injEq]
          constructor
          · rintro ⟨others, alike, rfl⟩
            exact ⟨value, others, rfl, alike, rfl⟩
          · rintro ⟨_, others, rfl, alike, rfl⟩
            exact ⟨others, alike, rfl⟩

/-- The error is that of the first item that has one. -/
theorem mapM_eq_error_iff {items : List α} {error : ε} :
    items.mapM view = .error error ↔
      ∃ before item rest, items = before ++ item :: rest ∧
        (∀ earlier ∈ before, ∃ value, view earlier = .ok value) ∧ view item = .error error := by
  induction items with
  | nil => simp [pure, Except.pure]
  | cons item rest hyp =>
      cases own : view item with
      | error first =>
          rw [mapM_cons_of_error own]
          constructor
          · intro same
            obtain rfl := Except.error.inj same
            exact ⟨[], item, rest, rfl, fun _ member => (nomatch member), own⟩
          · rintro ⟨before, other, others, split, fine, failed⟩
            cases before with
            | nil =>
                obtain ⟨rfl, rfl⟩ := List.cons.inj split
                exact congrArg Except.error (Except.error.inj (own.symm.trans failed))
            | cons earlier more =>
                obtain ⟨rfl, -⟩ := List.cons.inj split
                obtain ⟨value, found⟩ := fine item List.mem_cons_self
                cases own.symm.trans found
      | ok value =>
          rw [mapM_cons_of_ok own, map_eq_error_iff, hyp]
          constructor
          · rintro ⟨before, other, others, rfl, fine, failed⟩
            exact ⟨item :: before, other, others, rfl,
              List.forall_mem_cons.mpr ⟨⟨value, own⟩, fine⟩, failed⟩
          · rintro ⟨before, other, others, split, fine, failed⟩
            cases before with
            | nil =>
                obtain ⟨rfl, -⟩ := List.cons.inj split
                cases own.symm.trans failed
            | cons earlier more =>
                obtain ⟨rfl, rfl⟩ := List.cons.inj split
                exact ⟨more, other, others, rfl, (List.forall_mem_cons.mp fine).2, failed⟩

/-- Values for all items are found by finding one for each. -/
theorem exists_forall₂_iff {related : α → β → Prop} {items : List α} :
    (∃ values, List.Forall₂ related items values) ↔ ∀ item ∈ items, ∃ value, related item value := by
  induction items with
  | nil => simp
  | cons item rest hyp => simp [List.forall₂_cons_left_iff, ← hyp]

end Order

/-! ### What a provider answers -/

/-- In states of a certain kind, a provider answers every listing of a group and every question for
subnets in the same way, and stays in such a state. -/
structure Provider.Answers {σ : Type} (provider : Provider (StateM σ)) (group : ResourceGroup)
    (listing : Answer (List DeployedResource)) (live : String → Answer Subnets) (holds : σ → Prop) :
    Prop where
  list : ∀ state, holds state →
    (provider.list group state).1 = listing ∧ holds (provider.list group state).2
  subnets : ∀ network state, holds state →
    (provider.subnets network state).1 = live network ∧ holds (provider.subnets network state).2

/-- A memory that nobody changes answers every question in the same way. -/
theorem Memory.provider_answers (memory : Memory) (group : ResourceGroup) :
    Memory.provider.Answers group (.ok (memory.list group)) memory.subnets (· = memory) where
  list := by
    rintro state rfl
    exact ⟨rfl, rfl⟩
  subnets := by
    rintro network state rfl
    exact ⟨rfl, rfl⟩

namespace Survey

/-! ### What a survey looks at -/

/-- The resources that belong to the landing zone of a survey, or all of them if it has none. -/
def Includes (survey : Survey) (resource : DeployedResource) : Prop :=
  ∀ zone ∈ survey.zone?, resource.tags["landing-zone-id"]? = some zone

instance (survey : Survey) (resource : DeployedResource) : Decidable (survey.Includes resource) :=
  inferInstanceAs (Decidable (∀ zone ∈ survey.zone?, resource.tags["landing-zone-id"]? = some zone))

/-- The resources that a survey of virtual networks looks at: their type is that of virtual networks but
for the case of letters, and they have the tag of a purpose. -/
def Considers (survey : Survey) (purpose : SubnetPurpose) (resource : DeployedResource) : Prop :=
  survey.Includes resource ∧
    resource.type.toList.map Char.toLower = "microsoft.network/virtualnetworks".toList ∧
    purpose.word ∈ resource.tags

instance (survey : Survey) (purpose : SubnetPurpose) (resource : DeployedResource) :
    Decidable (survey.Considers purpose resource) :=
  inferInstanceAs (Decidable (_ ∧ _ ∧ _))

theorem covers_iff (survey : Survey) (resource : DeployedResource) :
    survey.covers resource = true ↔ survey.Includes resource := by
  unfold covers Includes
  cases survey.zone? with
  | none => simp
  | some zone => simp [Tags.owner?, Tags.ownerKey]

theorem serves_iff (purpose : ResourcePurpose) (resource : DeployedResource) :
    serves purpose resource = true ↔
      resource.tags["landing-zone-purpose"]? = some purpose.word := by
  have known (word : String) : ResourcePurpose.ofWord? word = some purpose ↔ word = purpose.word := by
    constructor
    · intro found
      have spelled := List.find?_some found
      exact (beq_iff_eq.mp spelled).symm
    · rintro rfl
      exact ResourcePurpose.ofWord?_word purpose
  unfold serves Tags.purpose? Tags.purposeKey
  rw [beq_iff_eq, Option.bind_eq_some_iff]
  constructor
  · rintro ⟨word, read, found⟩
    rw [read, (known word).mp found]
  · intro read
    exact ⟨_, read, (known _).mpr rfl⟩

theorem isNetworkFor_iff (purpose : SubnetPurpose) (resource : DeployedResource) :
    isNetworkFor purpose resource = true ↔
      resource.type.toList.map Char.toLower = "microsoft.network/virtualnetworks".toList ∧
        purpose.word ∈ resource.tags := by
  have folded : ResourceKind.folded ResourceKind.virtualNetwork.type =
      "microsoft.network/virtualnetworks".toList := by decide
  unfold isNetworkFor DeployedResource.isKind ResourceKind.hasType
  rw [Bool.and_eq_true, beq_iff_eq, folded, Std.ExtTreeMap.contains_iff_mem]
  exact and_congr_left fun _ => eq_comm

/-! ### One virtual network -/

/-- What a resource comes to as a virtual network, where the provider answers for its subnets. -/
def view (live : String → Answer Subnets) (resource : DeployedResource) :
    Except ZoneError DeployedNetwork :=
  match live resource.id with
  | .error cause => .error (.provider cause)
  | .ok subnets => DeployedNetwork.ofTags resource subnets

/-- The provider knows the subnets of a resource, and every tag for a subnet names one of them. -/
def Resolves (live : String → Answer Subnets) (resource : DeployedResource) : Prop :=
  ∃ subnets, live resource.id = .ok subnets ∧
    ∀ (purpose : SubnetPurpose) (name : String),
      resource.tags[purpose.word]? = some name → name ∈ subnets

/-- A virtual network has the subnets that the tags of a resource name: one for each purpose that is
tagged, and no other. -/
def Depicts (live : String → Answer Subnets) (resource : DeployedResource)
    (network : DeployedNetwork) : Prop :=
  network.id = resource.id ∧ network.region = resource.region ∧
    ∃ subnets, live resource.id = .ok subnets ∧ ∀ purpose : SubnetPurpose,
      (∀ name, resource.tags[purpose.word]? = some name →
        ∃ subnet, subnets[name]? = some subnet ∧ network.subnet? purpose = some subnet) ∧
      (purpose.word ∉ resource.tags → network.subnet? purpose = none)

/-- The error that keeps a resource from being seen as a virtual network: that of the provider, or that of
the first tag, in the order of the purposes, that names no subnet. -/
def Thwarts (live : String → Answer Subnets) (resource : DeployedResource) (error : ZoneError) : Prop :=
  (∃ cause, live resource.id = .error cause ∧ error = .provider cause) ∨
    ∃ (subnets : Subnets) (purpose : SubnetPurpose) (name : String),
      live resource.id = .ok subnets ∧ resource.tags[purpose.word]? = some name ∧ name ∉ subnets ∧
      (∀ earlier : SubnetPurpose, earlier.rank < purpose.rank →
        ∀ other, resource.tags[earlier.word]? = some other → other ∈ subnets) ∧
      error = .staleTag resource.id name purpose

/-- What the tags of a resource make of it as a virtual network with given subnets. -/
def drawn (resource : DeployedResource) (subnets : Subnets) : DeployedNetwork where
  id := resource.id
  region := resource.region
  subnet? := fun purpose => resource.tags[purpose.word]?.bind fun name => subnets[name]?

/-- No tag is found to be stale exactly when every tag for a subnet names one. -/
theorem find?_stale_eq_none_iff (tags : Tags) (subnets : Subnets) :
    (tags.subnets.find? fun tagged => !subnets.contains tagged.2) = none ↔
      ∀ (purpose : SubnetPurpose) (name : String), tags[purpose.word]? = some name →
        name ∈ subnets := by
  rw [List.find?_eq_none]
  constructor
  · intro fresh purpose name read
    have live := fresh (purpose, name) ((Tags.mem_subnets_iff ..).mpr read)
    simpa using live
  · rintro live ⟨purpose, name⟩ member
    have there := live purpose name ((Tags.mem_subnets_iff ..).mp member)
    simpa using there

/-- **The stale tag that is found is the first in the order of the purposes.** -/
theorem find?_stale_eq_some_iff (tags : Tags) (subnets : Subnets) (purpose : SubnetPurpose)
    (name : String) :
    (tags.subnets.find? fun tagged => !subnets.contains tagged.2) = some (purpose, name) ↔
      tags[purpose.word]? = some name ∧ name ∉ subnets ∧
        ∀ earlier : SubnetPurpose, earlier.rank < purpose.rank →
          ∀ other, tags[earlier.word]? = some other → other ∈ subnets := by
  have sorted := tags.subnets_sorted
  rw [List.find?_eq_some_iff_append]
  constructor
  · rintro ⟨stale, before, behind, split, fresh⟩
    rw [split] at sorted
    have member : (purpose, name) ∈ tags.subnets := by simp [split]
    refine ⟨(Tags.mem_subnets_iff ..).mp member,
      fun live => by simp [Std.ExtTreeMap.contains_iff_mem.mpr live] at stale, ?_⟩
    intro earlier less other read
    have inside := (Tags.mem_subnets_iff ..).mpr read
    rw [split, List.mem_append, List.mem_cons] at inside
    rcases inside with near | same | far
    · simpa using fresh _ near
    · rw [(Prod.mk.inj same).1] at less
      exact absurd less (Nat.lt_irrefl _)
    · have later := List.rel_of_pairwise_cons (List.pairwise_append.mp sorted).2.1 far
      exact absurd less (Nat.lt_asymm later)
  · rintro ⟨read, stale, fresh⟩
    obtain ⟨before, behind, split⟩ := List.append_of_mem ((Tags.mem_subnets_iff ..).mpr read)
    have missing : subnets.contains name = false :=
      Bool.eq_false_iff.mpr fun there => stale (Std.ExtTreeMap.contains_iff_mem.mp there)
    refine ⟨by simp [missing], before, behind, split, ?_⟩
    rintro ⟨earlier, other⟩ member
    rw [split] at sorted
    have less := (List.pairwise_append.mp sorted).2.2 _ member _ List.mem_cons_self
    have inside : (earlier, other) ∈ tags.subnets := by
      rw [split]
      exact List.mem_append_left _ member
    simpa using fresh earlier less other ((Tags.mem_subnets_iff ..).mp inside)

variable {live : String → Answer Subnets} {resource : DeployedResource}

/-- **A resource is seen as a virtual network exactly when it is resolved**, and then as it is drawn. -/
theorem view_eq_ok_iff (network : DeployedNetwork) :
    view live resource = .ok network ↔
      Resolves live resource ∧ ∃ subnets, live resource.id = .ok subnets ∧
        network = drawn resource subnets := by
  unfold view Resolves
  cases live resource.id with
  | error cause => simp
  | ok subnets =>
      simp only [Except.ok.injEq, exists_eq_left']
      rw [← find?_stale_eq_none_iff, DeployedNetwork.ofTags]
      cases resource.tags.subnets.find? fun tagged => !subnets.contains tagged.2 with
      | none =>
          simp only [Except.ok.injEq, true_and]
          exact eq_comm
      | some tagged => simp

/-- **A resource that is not resolved has the error that thwarts it.** -/
theorem view_eq_error_iff (error : ZoneError) :
    view live resource = .error error ↔ Thwarts live resource error := by
  unfold view Thwarts
  cases live resource.id with
  | error cause =>
      simp only [Except.error.injEq, exists_eq_left', reduceCtorEq, false_and, exists_false, or_false]
      exact eq_comm
  | ok subnets =>
      simp only [reduceCtorEq, false_and, exists_false, false_or, Except.ok.injEq, exists_and_left,
        exists_eq_left']
      rw [DeployedNetwork.ofTags]
      cases found : resource.tags.subnets.find? fun tagged => !subnets.contains tagged.2 with
      | none =>
          have fresh := (find?_stale_eq_none_iff ..).mp found
          simp only [reduceCtorEq, false_iff, not_exists, not_and]
          intro purpose name read stale
          exact absurd (fresh purpose name read) stale
      | some tagged =>
          obtain ⟨purpose, name⟩ := tagged
          simp only [Except.error.injEq]
          constructor
          · rintro rfl
            obtain ⟨read, stale, first⟩ := (find?_stale_eq_some_iff ..).mp found
            exact ⟨purpose, name, read, stale, first, rfl⟩
          · rintro ⟨own, named, read, stale, first, rfl⟩
            have same := (find?_stale_eq_some_iff ..).mpr ⟨read, stale, first⟩
            obtain ⟨rfl, rfl⟩ := Prod.mk.inj (Option.some.inj (found.symm.trans same))
            rfl

/-- What is drawn of a resource that is resolved depicts it, and nothing else does. -/
theorem depicts_iff (network : DeployedNetwork) :
    Depicts live resource network ↔ view live resource = .ok network := by
  rw [view_eq_ok_iff]
  constructor
  · rintro ⟨id, region, subnets, known, each⟩
    refine ⟨⟨subnets, known, fun purpose name read => ?_⟩, subnets, known, ?_⟩
    · obtain ⟨subnet, there, -⟩ := (each purpose).1 name read
      rw [Std.ExtTreeMap.mem_iff_isSome_getElem?, there]
      rfl
    · obtain ⟨own, place, subnet?⟩ := network
      obtain rfl : own = resource.id := id
      obtain rfl : place = resource.region := region
      rw [drawn, DeployedNetwork.mk.injEq]
      refine ⟨rfl, rfl, funext fun purpose => ?_⟩
      cases read : resource.tags[purpose.word]? with
      | none =>
          refine (each purpose).2 ?_
          rw [Std.ExtTreeMap.mem_iff_isSome_getElem?, read]
          exact Bool.false_ne_true
      | some name =>
          obtain ⟨subnet, there, seen⟩ := (each purpose).1 name read
          exact seen.trans there.symm
  · rintro ⟨⟨subnets, known, live⟩, others, same, rfl⟩
    obtain rfl := Except.ok.inj (known.symm.trans same)
    refine ⟨rfl, rfl, subnets, known, fun purpose => ⟨fun name read => ?_, fun untagged => ?_⟩⟩
    · have there := live purpose name read
      rw [Std.ExtTreeMap.mem_iff_isSome_getElem?] at there
      obtain ⟨subnet, found⟩ := Option.isSome_iff_exists.mp there
      exact ⟨subnet, found, by simp [drawn, read, found]⟩
    · simp [drawn, Std.ExtTreeMap.getElem?_eq_none untagged]

theorem exists_depicts_iff : (∃ network, Depicts live resource network) ↔ Resolves live resource := by
  simp only [depicts_iff, view_eq_ok_iff]
  constructor
  · rintro ⟨network, resolves, -⟩
    exact resolves
  · rintro ⟨subnets, known, live⟩
    exact ⟨_, ⟨subnets, known, live⟩, subnets, known, rfl⟩

/-! ### All that is listed -/

variable {σ : Type} {provider : Provider (StateM σ)} {survey : Survey}
  {listing : Answer (List DeployedResource)} {holds : σ → Prop}

/-- What is listed and passes a test is a part of the listing. -/
theorem resources_fst (answers : provider.Answers survey.group listing live holds)
    (test : DeployedResource → Bool) {state : σ} (start : holds state) :
    (survey.resources provider test state).1 =
        (match listing with
          | .error cause => .error (.provider cause)
          | .ok listed => .ok (listed.filter fun resource => survey.covers resource && test resource)) ∧
      holds (survey.resources provider test state).2 := by
  obtain ⟨same, kept⟩ := answers.list state start
  unfold resources
  rw [bind_apply, same]
  cases listing with
  | error cause => exact ⟨rfl, kept⟩
  | ok listed =>
      refine ⟨congrArg Except.ok ?_, kept⟩
      rw [List.filter_filter]
      exact List.filter_congr fun resource _ => Bool.and_comm _ _

theorem network_fst (answers : provider.Answers survey.group listing live holds) {state : σ}
    (start : holds state) (resource : DeployedResource) :
    (network provider resource state).1 = view live resource ∧
      holds (network provider resource state).2 := by
  obtain ⟨same, kept⟩ := answers.subnets resource.id state start
  unfold network view
  rw [bind_apply, same]
  cases live resource.id <;> exact ⟨rfl, kept⟩

/-- **Networks are seen in order, up to the first error.** -/
theorem resolve_fst (answers : provider.Answers survey.group listing live holds)
    (candidates : List DeployedResource) {state : σ} (start : holds state) :
    (resolve provider candidates state).1 = candidates.mapM (view live) := by
  induction candidates generalizing state with
  | nil => rfl
  | cons resource rest hyp =>
      obtain ⟨same, kept⟩ := network_fst answers start resource
      rw [resolve, bind_apply, same]
      cases own : view live resource with
      | error error =>
          rw [mapM_cons_of_error own]
          rfl
      | ok seen =>
          simp only [bind_apply, hyp kept, mapM_cons_of_ok own]
          cases rest.mapM (view live) <;> rfl

end Survey

/-- **Surveys project what a provider answers**, exactly and in the order of the listing.

An error of the listing is the error of every survey. Otherwise surveys list the resources that they
include and that have the tag of the purpose, or that of an owner. A survey of virtual networks considers
the resources of that type that have the tag of a subnet; it succeeds exactly when each of them is
resolved, and depicts each of them; if it fails, it is with the error that thwarts the first of them that
is not resolved. -/
theorem surveys_project_answers {σ : Type} (provider : Provider (StateM σ)) (survey : Survey)
    (listing : Answer (List DeployedResource)) (live : String → Answer Subnets) (holds : σ → Prop)
    (answers : provider.Answers survey.group listing live holds) (state : σ) (start : holds state) :
    (∀ cause, listing = .error cause →
      (∀ purpose, (survey.withPurpose provider purpose state).1 = .error (.provider cause)) ∧
      (survey.owned provider state).1 = .error (.provider cause) ∧
      ∀ purpose, (survey.networks provider purpose state).1 = .error (.provider cause)) ∧
    ∀ listed, listing = .ok listed →
      (∀ purpose, (survey.withPurpose provider purpose state).1 =
        .ok (listed.filter fun resource => survey.Includes resource ∧
          resource.tags["landing-zone-purpose"]? = some purpose.word)) ∧
      (survey.owned provider state).1 =
        .ok (listed.filter fun resource => survey.Includes resource ∧
          "landing-zone-id" ∈ resource.tags) ∧
      ∀ purpose,
        let candidates := listed.filter fun resource => survey.Considers purpose resource
        let reply := (survey.networks provider purpose state).1
        ((∃ networks, reply = .ok networks) ↔
          ∀ resource ∈ candidates, Survey.Resolves live resource) ∧
        (∀ networks, reply = .ok networks ↔
          List.Forall₂ (Survey.Depicts live) candidates networks) ∧
        ∀ error, reply = .error error ↔
          ∃ before resource rest, candidates = before ++ resource :: rest ∧
            (∀ earlier ∈ before, Survey.Resolves live earlier) ∧
            Survey.Thwarts live resource error := by
  constructor
  · rintro cause rfl
    have every (test : DeployedResource → Bool) :
        (survey.resources provider test state).1 = .error (.provider cause) :=
      (Survey.resources_fst answers test start).1
    refine ⟨fun purpose => every _, every _, fun purpose => ?_⟩
    rw [Survey.networks, bind_apply, every]
    rfl
  · rintro listed rfl
    refine ⟨fun purpose => ?_, ?_, fun purpose => ?_⟩
    · refine (Survey.resources_fst answers (Survey.serves purpose) start).1.trans ?_
      refine congrArg Except.ok (List.filter_congr fun resource _ => ?_)
      rw [Bool.eq_iff_iff, Bool.and_eq_true, Survey.covers_iff, Survey.serves_iff, decide_eq_true_iff]
    · refine (Survey.resources_fst answers (·.tags.owner?.isSome) start).1.trans ?_
      refine congrArg Except.ok (List.filter_congr fun resource _ => ?_)
      rw [Bool.eq_iff_iff, Bool.and_eq_true, Survey.covers_iff, decide_eq_true_iff,
        Std.ExtTreeMap.mem_iff_isSome_getElem?]
      rfl
    · intro candidates reply
      obtain ⟨found, kept⟩ := Survey.resources_fst answers (Survey.isNetworkFor purpose) start
      have considered : (survey.resources provider (Survey.isNetworkFor purpose) state).1 =
          .ok candidates := by
        refine found.trans (congrArg Except.ok (List.filter_congr fun resource _ => ?_))
        rw [Bool.eq_iff_iff, Bool.and_eq_true, Survey.covers_iff, Survey.isNetworkFor_iff,
          decide_eq_true_iff]
        rfl
      have seen : reply = candidates.mapM (Survey.view live) := by
        show (survey.networks provider purpose state).1 = _
        rw [Survey.networks, bind_apply, considered]
        exact Survey.resolve_fst answers candidates kept
      have depicted (networks : List DeployedNetwork) :
          reply = .ok networks ↔ List.Forall₂ (Survey.Depicts live) candidates networks := by
        rw [seen, mapM_eq_ok_iff]
        exact ⟨fun each => each.imp fun _ _ => (Survey.depicts_iff _).mpr,
          fun each => each.imp fun _ _ => (Survey.depicts_iff _).mp⟩
      refine ⟨?_, depicted, fun error => ?_⟩
      · simp only [depicted, ← Survey.exists_depicts_iff]
        exact exists_forall₂_iff
      · rw [seen, mapM_eq_error_iff]
        simp only [← Survey.view_eq_error_iff, ← Survey.exists_depicts_iff, Survey.depicts_iff]

/-! ### A network that has lost a subnet -/

/-- A virtual network of a landing zone with subnets for some purposes, as somebody else spells its
type. -/
def strayNetwork (zone name type : String) (bindings : List (SubnetPurpose × String))
    (subnets : List String) : Memory.Record where
  group := "rg"
  kind := .virtualNetwork
  name := name
  resource :=
    { id := name, type := type, region := "eastus", tags := Tags.written zone none bindings }
  subnets := subnets

/-- A network whose tags name its subnets. -/
def hub : Memory.Record :=
  strayNetwork "lz" "hub" "MICROSOFT.Network/virtualnetworks"
    [(.workspaceCompute, "front"), (.aksNodePool, "nodes")] ["front", "nodes"]

/-- A network that has lost two of the subnets that its tags name. -/
def spoke : Memory.Record :=
  strayNetwork "lz" "spoke" "Microsoft.Network/virtualNetworks"
    [(.postgresql, "gone"), (.workspaceCompute, "front"), (.workspaceStorage, "lost")] ["front"]

/-- Two networks of a landing zone behind one of another landing zone, which has no subnets at all. -/
def drifted : Memory where
  records :=
    [strayNetwork "other" "far" "Microsoft.Network/virtualNetworks" [(.workspaceCompute, "none")] [],
      hub, spoke]

theorem drifted_surveys_project_answers :
    let survey : Survey := { group := ⟨"rg", "eastus", "sub"⟩, zone? := some "lz" }
    Memory.provider.Answers survey.group (.ok (drifted.list survey.group)) drifted.subnets
      (· = drifted) ∧
    (survey.owned Memory.provider drifted).1 = .ok [hub.resource, spoke.resource] ∧
    (∃ networks, (survey.networks Memory.provider .aksNodePool drifted).1 = .ok networks ∧
      List.Forall₂ (Survey.Depicts drifted.subnets) [hub.resource] networks) ∧
    (survey.networks Memory.provider .workspaceCompute drifted).1 =
      .error (.staleTag "spoke" "lost" .workspaceStorage) := by
  intro survey
  have answers := Memory.provider_answers drifted survey.group
  obtain ⟨-, projected⟩ := surveys_project_answers Memory.provider survey _ _ _ answers drifted rfl
  obtain ⟨-, owned, networks⟩ := projected _ rfl
  have hubResolves : Survey.Resolves drifted.subnets hub.resource := by
    refine ⟨.ofNames "hub" hub.subnets, by decide +kernel, fun purpose name read => ?_⟩
    have every : ∀ tagged ∈ hub.resource.tags.subnets,
        tagged.2 ∈ Subnets.ofNames "hub" hub.subnets := by decide +kernel
    exact every _ ((Tags.mem_subnets_iff ..).mpr read)
  refine ⟨answers, owned.trans (by decide +kernel), ?_, ?_⟩
  · obtain ⟨succeeds, depicted, -⟩ := networks .aksNodePool
    have only : (drifted.list survey.group).filter
        (fun resource => survey.Considers .aksNodePool resource) = [hub.resource] := by
      decide +kernel
    rw [only] at succeeds depicted
    obtain ⟨found, same⟩ := succeeds.mpr (by simpa using hubResolves)
    exact ⟨found, same, (depicted found).mp same⟩
  · obtain ⟨-, -, fails⟩ := networks .workspaceCompute
    refine (fails _).mpr ⟨[hub.resource], spoke.resource, [], by decide +kernel, ?_, .inr ?_⟩
    · simpa using hubResolves
    · refine ⟨.ofNames "spoke" spoke.subnets, .workspaceStorage, "lost", by decide +kernel,
        by decide +kernel, by decide +kernel, fun earlier less other read => ?_, rfl⟩
      have first : ∀ tagged ∈ spoke.resource.tags.subnets, tagged.1.rank < 1 →
          tagged.2 ∈ Subnets.ofNames "spoke" spoke.subnets := by decide +kernel
      exact first _ ((Tags.mem_subnets_iff ..).mpr read) less

end Provision
