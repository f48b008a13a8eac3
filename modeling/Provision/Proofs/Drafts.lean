/-
**What a row of steps declares.**

Behind its start a landing zone is declared step by step, and each step gives a blueprint of its own. What
a plan says can be told from the steps that have led to it:

* `Blueprint.Step` is a step, `Blueprint.after` the blueprint after several;
* `Blueprint.opening` are the steps that open an entry of the plan (`Blueprint.headings_after`);
* `Blueprint.standing` are the bindings of a network that no later step replaces
  (`Blueprint.bindingsOf_after`), and no entry but the first one of a network has any
  (`Blueprint.boundAtFirst_after`);
* `Blueprint.drawn` are all blueprints that come about when any of them is taken further at any time;
* **`plans_say_what_was_declared`** puts this together.
-/

import Mathlib.Data.List.Induction
import Provision.Proofs.Blueprints

namespace Provision

/-- Whether a planned resource is the virtual network with a name. -/
def PlannedResource.isNetwork (name : String) (planned : PlannedResource) : Bool :=
  planned.kind == .virtualNetwork && planned.name == name

namespace Blueprint

/-! ### Steps -/

/-- What can be said about a landing zone after its start. -/
inductive Step where
  /-- A resource is declared, with a purpose or without one. -/
  | declare (definition : ResourceDefinition) (purpose : Option ResourcePurpose)
  /-- A subnet of a virtual network is bound to a purpose. -/
  | bind (network : NetworkDefinition) (subnet : String) (purpose : SubnetPurpose)

namespace Step

/-- The entry that the step opens, if it opens one. -/
def heading : Step → ResourceDefinition × Option ResourcePurpose
  | declare definition purpose => (definition, purpose)
  | bind network _ _ => (network.toResource, none)

/-- Whether the step opens an entry: it declares a resource, or it binds a subnet of a virtual network
that is not planned so far. -/
def opens (plan : Plan) : Step → Bool
  | declare _ _ => true
  | bind network _ _ => !plan.resources.any (·.isNetwork network.name)

/-- Whether the step binds a subnet of the network with a name to a purpose. -/
def binds (name : String) (purpose : SubnetPurpose) : Step → Bool
  | declare _ _ => false
  | bind network _ role => network.name == name && role == purpose

end Step

/-- The blueprint after one more step. -/
def step (blueprint : Blueprint) : Step → Blueprint
  | .declare definition purpose => blueprint.declare definition purpose
  | .bind network subnet purpose => blueprint.bind network subnet purpose

/-- The blueprint after several steps. -/
def after (blueprint : Blueprint) (steps : List Step) : Blueprint := steps.foldl step blueprint

/-- The steps that open an entry, in order. -/
def opening (blueprint : Blueprint) : List Step → List Step
  | [] => []
  | step :: rest =>
    if step.opens blueprint.plan then step :: opening (blueprint.step step) rest
    else opening (blueprint.step step) rest

/-- The bindings of the network with a name for whose purpose it has no later one, in the order of the
steps that have made them. -/
def standing (name : String) : List Step → List (SubnetPurpose × String)
  | [] => []
  | .declare _ _ :: rest => standing name rest
  | .bind network subnet purpose :: rest =>
    if network.name = name ∧ !rest.any (·.binds name purpose) then
      (purpose, subnet) :: standing name rest
    else standing name rest

@[simp]
theorem after_nil (blueprint : Blueprint) : blueprint.after [] = blueprint := rfl

@[simp]
theorem after_cons (blueprint : Blueprint) (step : Step) (rest : List Step) :
    blueprint.after (step :: rest) = (blueprint.step step).after rest := rfl

theorem after_append (blueprint : Blueprint) (first rest : List Step) :
    blueprint.after (first ++ rest) = (blueprint.after first).after rest :=
  List.foldl_append

theorem after_concat (blueprint : Blueprint) (steps : List Step) (step : Step) :
    blueprint.after (steps ++ [step]) = (blueprint.after steps).step step := by
  rw [after_append, after_cons, after_nil]

theorem step_group (blueprint : Blueprint) (step : Step) :
    (blueprint.step step).group = blueprint.group := by
  cases step <;> rfl

theorem step_zone (blueprint : Blueprint) (step : Step) :
    (blueprint.step step).zone = blueprint.zone := by
  cases step <;> rfl

theorem after_group (blueprint : Blueprint) (steps : List Step) :
    (blueprint.after steps).group = blueprint.group := by
  induction steps generalizing blueprint with
  | nil => rfl
  | cons step rest hyp => rw [after_cons, hyp, step_group]

theorem after_zone (blueprint : Blueprint) (steps : List Step) :
    (blueprint.after steps).zone = blueprint.zone := by
  induction steps generalizing blueprint with
  | nil => rfl
  | cons step rest hyp => rw [after_cons, hyp, step_zone]

/-- Steps lead from blueprints that come about to ones that come about. -/
theorem Built.after {blueprint : Blueprint} (built : blueprint.Built) (steps : List Step) :
    (blueprint.after steps).Built := by
  induction steps generalizing blueprint with
  | nil => exact built
  | cons step rest hyp =>
      cases step with
      | declare definition purpose => exact hyp (built.declare definition purpose)
      | bind network subnet purpose => exact hyp (built.bind network subnet purpose)

/-- What is started comes about, whatever was there before. -/
theorem built_define (blueprint : Blueprint) (zone : String) : (blueprint.define zone).Built :=
  (Built.fresh blueprint.group).define zone

end Blueprint

/-! ### Entries -/

/-- What no step changes about a declaration. -/
def Declaration.heading (declaration : Declaration) : ResourceDefinition × Option ResourcePurpose :=
  (declaration.definition, declaration.purpose)

/-- A binding opens an entry where there is no network of its name, and no other entry changes its
heading. -/
theorem heading_bindSubnet (network : NetworkDefinition) (subnet : String) (purpose : SubnetPurpose)
    (declarations : List Declaration) :
    (bindSubnet network subnet purpose declarations).map Declaration.heading =
      declarations.map Declaration.heading ++
        if declarations.any (·.isNetwork network.name) then [] else [(network.toResource, none)] := by
  induction declarations with
  | nil => rfl
  | cons declaration rest hyp =>
      unfold bindSubnet
      by_cases here : declaration.isNetwork network.name = true
      · simp [here, Declaration.bind, Declaration.heading]
      · simp [here, hyp]

namespace Blueprint

theorem any_plan_isNetwork (blueprint : Blueprint) (name : String) :
    blueprint.plan.resources.any (·.isNetwork name) =
      blueprint.declarations.any (·.isNetwork name) :=
  List.any_map

/-- A step adds its heading if it opens an entry, and changes no other. -/
theorem headings_step (blueprint : Blueprint) (step : Step) :
    (blueprint.step step).declarations.map Declaration.heading =
      blueprint.declarations.map Declaration.heading ++
        if step.opens blueprint.plan then [step.heading] else [] := by
  cases step with
  | declare definition purpose =>
      simp [Blueprint.step, Blueprint.declare, Declaration.heading, Step.opens, Step.heading]
  | bind network subnet purpose =>
      have added := heading_bindSubnet network subnet purpose blueprint.declarations
      rw [← any_plan_isNetwork] at added
      simp only [Blueprint.step, Blueprint.bind, added, Step.opens, Step.heading]
      by_cases planned : blueprint.plan.resources.any (·.isNetwork network.name) = true <;>
        simp [planned]

/-- **The entries are those that the steps open**, in their order. -/
theorem headings_after (blueprint : Blueprint) (steps : List Step) :
    (blueprint.after steps).declarations.map Declaration.heading =
      blueprint.declarations.map Declaration.heading ++
        (blueprint.opening steps).map Step.heading := by
  induction steps generalizing blueprint with
  | nil => simp [opening]
  | cons step rest hyp =>
      rw [after_cons, hyp, headings_step, opening]
      split <;> simp

/-- More steps keep the entries that there are, with their definitions and purposes. -/
theorem prefix_headings (blueprint : Blueprint) (first rest : List Step) :
    (blueprint.after first).declarations.map Declaration.heading <+:
      (blueprint.after (first ++ rest)).declarations.map Declaration.heading := by
  rw [after_append, headings_after (blueprint.after first) rest]
  exact List.prefix_append _ _

end Blueprint

/-! ### Bindings -/

/-- The bindings of the first network with a name, and none where there is no such network. -/
def bindingsOf (name : String) (declarations : List Declaration) : List (SubnetPurpose × String) :=
  ((declarations.find? (·.isNetwork name)).map (·.bindings)).getD []

theorem Declaration.isNetwork_toResource (network : NetworkDefinition) (name : String)
    (bindings : List (SubnetPurpose × String)) :
    Declaration.isNetwork name { definition := network.toResource, bindings := bindings } =
      (network.name == name) := by
  simp [isNetwork, NetworkDefinition.toResource]

/-- An entry without bindings at the end changes the bindings of no network. -/
theorem bindingsOf_concat (name : String) (declarations : List Declaration) {declaration : Declaration}
    (unbound : declaration.bindings = []) :
    bindingsOf name (declarations ++ [declaration]) = bindingsOf name declarations := by
  unfold bindingsOf
  rw [List.find?_append]
  cases declarations.find? (·.isNetwork name) with
  | some first => rfl
  | none =>
      cases here : declaration.isNetwork name <;> simp [here, unbound]

/-- One declaration is that of networks of one name only. -/
theorem Declaration.eq_of_isNetwork {declaration : Declaration} {name other : String}
    (first : declaration.isNetwork name = true) (second : declaration.isNetwork other = true) :
    name = other := by
  simp only [isNetwork, Bool.and_eq_true, beq_iff_eq] at first second
  exact first.2.symm.trans second.2

/-- The first network with a name after a binding: the one that was there, with the binding if it is
meant, or a new one. -/
theorem find?_bindSubnet (name : String) (network : NetworkDefinition) (subnet : String)
    (purpose : SubnetPurpose) (declarations : List Declaration) :
    (bindSubnet network subnet purpose declarations).find? (·.isNetwork name) =
      if network.name = name then
        some (((declarations.find? (·.isNetwork name)).map (·.bind purpose subnet)).getD
          { definition := network.toResource, bindings := [(purpose, subnet)] })
      else declarations.find? (·.isNetwork name) := by
  induction declarations with
  | nil =>
      have same := Declaration.isNetwork_toResource network name [(purpose, subnet)]
      by_cases named : network.name = name <;> simp [bindSubnet, same, named]
  | cons declaration rest hyp =>
      unfold bindSubnet
      by_cases here : declaration.isNetwork network.name = true
      · rw [if_pos here]
        by_cases named : network.name = name
        · rw [named] at here
          have kept : (declaration.bind purpose subnet).isNetwork name = true := here
          rw [List.find?_cons_of_pos kept, List.find?_cons_of_pos here, if_pos named]
          rfl
        · -- the first entry is a network of another name, before and after
          have elsewhere : declaration.isNetwork name ≠ true := fun also =>
            named (Declaration.eq_of_isNetwork here also)
          have kept : (declaration.bind purpose subnet).isNetwork name ≠ true := elsewhere
          rw [List.find?_cons_of_neg kept, List.find?_cons_of_neg elsewhere, if_neg named]
      · rw [if_neg here]
        by_cases also : declaration.isNetwork name = true
        · have other : network.name ≠ name := fun named => here (named ▸ also)
          rw [List.find?_cons_of_pos also, List.find?_cons_of_pos also, if_neg other]
        · rw [List.find?_cons_of_neg also, List.find?_cons_of_neg also, hyp]

/-- A binding replaces the one for the same purpose of its network, and leaves other networks alone. -/
theorem bindingsOf_bindSubnet (name : String) (network : NetworkDefinition) (subnet : String)
    (purpose : SubnetPurpose) (declarations : List Declaration) :
    bindingsOf name (bindSubnet network subnet purpose declarations) =
      if network.name = name then
        (bindingsOf name declarations).filter (·.1 != purpose) ++ [(purpose, subnet)]
      else bindingsOf name declarations := by
  unfold bindingsOf
  rw [find?_bindSubnet]
  split
  next => cases declarations.find? (·.isNetwork name) <;> rfl
  next => rfl

namespace Blueprint

theorem standing_concat_declare (name : String) (steps : List Step) (definition : ResourceDefinition)
    (purpose : Option ResourcePurpose) :
    standing name (steps ++ [.declare definition purpose]) = standing name steps := by
  induction steps with
  | nil => rfl
  | cons step rest hyp => cases step <;> simp [standing, hyp, Step.binds]

/-- The last binding stands, and those for its purpose stand no more. -/
theorem standing_concat_bind (name : String) (steps : List Step) (network : NetworkDefinition)
    (subnet : String) (purpose : SubnetPurpose) :
    standing name (steps ++ [.bind network subnet purpose]) =
      if network.name = name then
        (standing name steps).filter (·.1 != purpose) ++ [(purpose, subnet)]
      else standing name steps := by
  induction steps with
  | nil => by_cases named : network.name = name <;> simp [standing, named]
  | cons step rest hyp =>
      cases step with
      | declare definition role => simpa only [List.cons_append, standing] using hyp
      | bind other place role =>
          have last : (Step.bind network subnet purpose).binds name role =
              (network.name == name && purpose == role) := rfl
          simp only [List.cons_append, standing, hyp, List.any_append, List.any_cons, List.any_nil, last]
          generalize rest.any (·.binds name role) = again
          by_cases named : network.name = name
          · by_cases stood : other.name = name ∧ again = false
            · by_cases same : purpose = role
              · simp [named, same, stood]
              · simp [named, same, stood, Ne.symm same]
            · have fallen : ¬(other.name = name ∧ again = false ∧ ¬purpose = role) :=
                fun stands => stood ⟨stands.1, stands.2.1⟩
              simp [named, stood, fallen]
          · simp [named]

/-- **The bindings of a network are those that stand.** -/
theorem bindingsOf_after (blueprint : Blueprint) (zone : String) (name : String) (steps : List Step) :
    bindingsOf name ((blueprint.define zone).after steps).declarations = standing name steps := by
  induction steps using List.reverseRecOn with
  | nil => rfl
  | append_singleton steps step hyp =>
      rw [after_concat]
      cases step with
      | declare definition purpose =>
          rw [standing_concat_declare, ← hyp]
          exact bindingsOf_concat name _ rfl
      | bind network subnet purpose =>
          rw [standing_concat_bind, ← hyp]
          exact bindingsOf_bindSubnet name network subnet purpose _

/-- The first network with a name has the bindings that stand. -/
theorem bindings_of_first (blueprint : Blueprint) (zone : String) (steps : List Step) {name : String}
    {declaration : Declaration}
    (first : ((blueprint.define zone).after steps).declarations.find? (·.isNetwork name) =
      some declaration) : declaration.bindings = standing name steps := by
  rw [← bindingsOf_after blueprint zone name steps, bindingsOf, first]
  rfl

end Blueprint

/-! ### One entry for each network -/

/-- Behind the first entry of a network no other one of its name has bindings. -/
def BoundAtFirst (declarations : List Declaration) : Prop :=
  declarations.Pairwise fun earlier later =>
    earlier.isNetwork later.definition.name = true → later.bindings = []

theorem BoundAtFirst.concat {declarations : List Declaration} (bound : BoundAtFirst declarations)
    {declaration : Declaration} (unbound : declaration.bindings = []) :
    BoundAtFirst (declarations ++ [declaration]) :=
  List.pairwise_append.mpr ⟨bound, List.pairwise_singleton _ _, fun _ _ later member _ => by
    rw [List.mem_singleton.mp member, unbound]⟩

/-- Every entry after a binding was there before, or it has the name of the bound network. -/
theorem mem_bindSubnet {network : NetworkDefinition} {subnet : String} {purpose : SubnetPurpose}
    {declarations : List Declaration} {declaration : Declaration}
    (member : declaration ∈ bindSubnet network subnet purpose declarations) :
    declaration ∈ declarations ∨ declaration.definition.name = network.name := by
  induction declarations with
  | nil =>
      obtain rfl := List.mem_singleton.mp member
      exact .inr rfl
  | cons first rest hyp =>
      unfold bindSubnet at member
      split at member
      next here =>
        rcases List.mem_cons.mp member with rfl | later
        · simp only [Declaration.isNetwork, Bool.and_eq_true, beq_iff_eq] at here
          exact .inr here.2
        · exact .inl (List.mem_cons_of_mem _ later)
      next =>
        rcases List.mem_cons.mp member with rfl | later
        · exact .inl List.mem_cons_self
        · exact (hyp later).imp_left (List.mem_cons_of_mem _)

/-- A binding goes to the first entry of its network. -/
theorem BoundAtFirst.bindSubnet {declarations : List Declaration} (bound : BoundAtFirst declarations)
    (network : NetworkDefinition) (subnet : String) (purpose : SubnetPurpose) :
    BoundAtFirst (bindSubnet network subnet purpose declarations) := by
  induction declarations with
  | nil => exact List.pairwise_singleton _ _
  | cons first rest hyp =>
      obtain ⟨alone, others⟩ := List.pairwise_cons.mp bound
      unfold Provision.bindSubnet
      split
      next here => exact List.pairwise_cons.mpr ⟨alone, others⟩
      next elsewhere =>
        refine List.pairwise_cons.mpr ⟨fun later member also => ?_, hyp others⟩
        rcases mem_bindSubnet member with old | named
        · exact alone later old also
        · exact absurd (named ▸ also) elsewhere

namespace Blueprint

/-- **No entry but the first one of a network has bindings.** -/
theorem boundAtFirst_after (blueprint : Blueprint) (zone : String) (steps : List Step) :
    BoundAtFirst ((blueprint.define zone).after steps).declarations := by
  induction steps using List.reverseRecOn with
  | nil => exact List.Pairwise.nil
  | append_singleton steps step hyp =>
      rw [after_concat]
      cases step with
      | declare definition purpose => exact hyp.concat rfl
      | bind network subnet purpose => exact hyp.bindSubnet network subnet purpose

/-- A purpose stands for a network exactly when some step binds it. -/
theorem mem_standing_iff (name : String) (purpose : SubnetPurpose) (steps : List Step) :
    purpose ∈ (standing name steps).map (·.1) ↔ ∃ step ∈ steps, step.binds name purpose = true := by
  induction steps with
  | nil => simp [standing]
  | cons step rest hyp =>
      rw [List.exists_mem_cons_iff, ← hyp]
      cases step with
      | declare definition role => simp [standing, Step.binds]
      | bind network subnet role =>
          have here : (Step.bind network subnet role).binds name purpose =
              (network.name == name && role == purpose) := rfl
          rw [standing, here]
          split
          next stands => simp [stands.1, @eq_comm _ purpose role]
          next replaced =>
            refine ⟨.inr, fun either => either.elim (fun same => ?_) id⟩
            -- the step binds the purpose but does not stand, so that a later one binds it
            simp only [Bool.and_eq_true, beq_iff_eq] at same
            obtain ⟨rfl, rfl⟩ := same
            simpa [List.any_eq_true, hyp] using replaced

/-! ### Blueprints side by side -/

/-- The blueprints after one of them is taken further: it stays, and the new one comes last. -/
def extend (drafts : List Blueprint) (move : Nat × Step) : List Blueprint :=
  drafts ++ (drafts[move.1]?.map (·.step move.2)).toList

/-- All blueprints after several moves, each of which takes one of those that are there further. -/
def drawn (start : Blueprint) (moves : List (Nat × Step)) : List Blueprint :=
  moves.foldl extend [start]

theorem drawn_concat (start : Blueprint) (moves : List (Nat × Step)) (move : Nat × Step) :
    start.drawn (moves ++ [move]) = extend (start.drawn moves) move := by
  simp [drawn]

/-- Blueprints that are there stay as they are. -/
theorem getElem?_drawn_append (start : Blueprint) {moves : List (Nat × Step)} {index : Nat}
    {draft : Blueprint} (there : (start.drawn moves)[index]? = some draft) (more : List (Nat × Step)) :
    (start.drawn (moves ++ more))[index]? = some draft := by
  induction more using List.reverseRecOn with
  | nil => rwa [List.append_nil]
  | append_singleton more move hyp =>
      have within := (List.getElem?_eq_some_iff.mp hyp).1
      rw [← List.append_assoc, drawn_concat, extend, List.getElem?_append_left within, hyp]

/-- Each blueprint is what some of the steps lead to, in their order. -/
theorem exists_steps_of_mem_drawn (start : Blueprint) {moves : List (Nat × Step)} {draft : Blueprint}
    (member : draft ∈ start.drawn moves) :
    ∃ steps, steps.Sublist (moves.map (·.2)) ∧ draft = start.after steps := by
  induction moves using List.reverseRecOn generalizing draft with
  | nil => exact ⟨[], List.nil_sublist _, List.mem_singleton.mp member⟩
  | append_singleton moves move hyp =>
      rw [List.map_append]
      rw [drawn_concat, extend, List.mem_append, Option.mem_toList, Option.map_eq_some_iff] at member
      rcases member with old | ⟨base, there, rfl⟩
      · obtain ⟨steps, within, same⟩ := hyp old
        exact ⟨steps, within.trans (List.sublist_append_left _ _), same⟩
      · obtain ⟨steps, within, rfl⟩ := hyp (List.mem_of_getElem? there)
        exact ⟨steps ++ [move.2], within.append (List.Sublist.refl _), (after_concat ..).symm⟩

/-! ### Plans -/

theorem find?_plan_isNetwork (blueprint : Blueprint) (name : String) :
    blueprint.plan.resources.find? (·.isNetwork name) =
      (blueprint.declarations.find? (·.isNetwork name)).map (·.plan blueprint.zone) :=
  List.find?_map

/-- The first network of a name in a plan has the bindings that stand. -/
theorem bindings_eq_standing (blueprint : Blueprint) (zone : String) (steps : List Step)
    {name : String} {planned : PlannedResource}
    (first : ((blueprint.define zone).after steps).plan.resources.find? (·.isNetwork name) =
      some planned) : planned.bindings = standing name steps := by
  rw [find?_plan_isNetwork, Option.map_eq_some_iff] at first
  obtain ⟨declaration, found, rfl⟩ := first
  exact bindings_of_first blueprint zone steps found

end Blueprint

open Blueprint in
/-- **A plan says what was declared, and nothing else.**

Behind the start of a landing zone, its entries are one for each step that declares a resource and one
for each step that binds a subnet of a network that was not planned before, in the order of the steps,
and no further step changes their definitions and purposes. Only virtual networks have bindings, and of
those with one name only the first: one binding for each purpose that was bound for this name, which is
the last one, in the order in which the last ones were made. Blueprints on the way can be taken further
at any time; each of them keeps its plan, whose entries and bindings are those of its own steps alone. -/
theorem plans_say_what_was_declared (base : Blueprint) (zone : String) :
    let start := base.define zone
    (∀ steps : List Step,
      let blueprint := start.after steps
      let plan := blueprint.plan
      (plan.zone = zone ∧ plan.group = base.group.name ∧
        plan.resources = blueprint.declarations.map (·.plan zone)) ∧
      blueprint.declarations.map Declaration.heading = (start.opening steps).map Step.heading ∧
      (∀ more, blueprint.declarations.map Declaration.heading <+:
        (start.after (steps ++ more)).declarations.map Declaration.heading) ∧
      (∀ planned ∈ plan.resources, planned.bindings ≠ [] → planned.kind = .virtualNetwork) ∧
      plan.resources.Pairwise (fun earlier later =>
        earlier.isNetwork later.name = true → later.bindings = []) ∧
      ∀ name planned, plan.resources.find? (·.isNetwork name) = some planned →
        planned.bindings = standing name steps ∧ (planned.bindings.map (·.1)).Nodup ∧
        ∀ purpose, purpose ∈ planned.bindings.map (·.1) ↔
          ∃ step ∈ steps, step.binds name purpose = true) ∧
    ∀ (moves more : List (Nat × Step)) (index : Nat) (draft : Blueprint),
      (start.drawn moves)[index]? = some draft →
      ∃ steps later, steps.Sublist (moves.map (·.2)) ∧ draft = start.after steps ∧
        (start.drawn (moves ++ more))[index]? = some later ∧ later.plan = draft.plan ∧
        later.declarations.map Declaration.heading = (start.opening steps).map Step.heading ∧
        ∀ name planned, later.plan.resources.find? (·.isNetwork name) = some planned →
          planned.bindings = standing name steps := by
  intro start
  refine ⟨?entries, ?drafts⟩
  case drafts =>
    intro moves more index draft there
    obtain ⟨steps, within, rfl⟩ := exists_steps_of_mem_drawn start (List.mem_of_getElem? there)
    have kept : (start.drawn (moves ++ more))[index]? = some (start.after steps) :=
      getElem?_drawn_append start there more
    exact ⟨steps, _, within, rfl, kept, rfl, headings_after start steps, fun name planned first =>
      bindings_eq_standing base zone steps first⟩
  intro steps blueprint plan
  have proper := ((built_define base zone).after steps).proper
  have owner : blueprint.zone = zone := after_zone start steps
  have home : blueprint.group = base.group := after_group start steps
  refine ⟨⟨owner, congrArg (·.name) home, ?_⟩, headings_after start steps,
    prefix_headings start steps, ?_, ?_, ?_⟩
  · rw [← owner]
    rfl
  · intro planned member bound
    obtain ⟨declaration, inside, rfl⟩ := List.mem_map.mp member
    exact (proper declaration inside).network bound
  · exact List.pairwise_map.mpr (boundAtFirst_after base zone steps)
  · intro name planned first
    have stands := bindings_eq_standing base zone steps first
    obtain ⟨declaration, inside, rfl⟩ := List.mem_map.mp (List.mem_of_find?_eq_some first)
    refine ⟨stands, (proper declaration inside).once, fun purpose => ?_⟩
    rw [stands]
    exact mem_standing_iff name purpose steps

/-! ### A network that is declared more than once -/

/-- An account and a network of one name. The network is declared as a resource, three subnets of it
are bound, two of them to one purpose, and in between it is declared again. -/
def crossing : List Blueprint.Step :=
  let network : NetworkDefinition := { name := "net", region := "eastus", addresses := "10.0.0.0/16" }
  [.declare { name := "net", kind := .storageAccount, region := "eastus" } (some .shared),
    .declare network.toResource none,
    .bind network "front" .postgresql,
    .bind network "back" .workspaceBatch,
    .declare network.toResource (some .monitoring),
    .bind network "middle" .postgresql]

/-- Three steps, of which the first two begin anew and the third one goes on with the account. -/
def branching : List (Nat × Blueprint.Step) :=
  [(0, crossing[0]), (0, crossing[1]), (1, crossing[3])]

/-- The bindings come to the first of the two networks. Where a network is bound to go with the account,
the account alone stays planned as it was. -/
theorem crossing_plan_says_what_was_declared :
    let start := ({ group := ⟨"rg", "eastus", "sub"⟩ } : Blueprint).define "lz"
    let plan := (start.after crossing).plan
    plan.resources.map (·.purpose) = [some .shared, none, some .monitoring] ∧
    plan.resources.map (·.bindings) =
      [[], [(.workspaceBatch, "back"), (.postgresql, "middle")], []] ∧
    (∃ planned, plan.resources.find? (·.isNetwork "net") = some planned ∧
      planned.bindings = Blueprint.standing "net" crossing ∧ (planned.bindings.map (·.1)).Nodup) ∧
    (∀ planned ∈ plan.resources, planned.bindings ≠ [] → planned.kind = .virtualNetwork) ∧
    (start.drawn branching).map (·.declarations.length) = [0, 1, 1, 2] ∧
    (start.drawn (branching.take 2))[1]? = some (start.step crossing[0]) ∧
    ∃ steps later, steps.Sublist [crossing[0], crossing[1]] ∧
      start.step crossing[0] = start.after steps ∧
      (start.drawn branching)[1]? = some later ∧ later.plan = (start.step crossing[0]).plan ∧
      later.declarations.map Declaration.heading =
        (start.opening steps).map Blueprint.Step.heading := by
  intro start plan
  obtain ⟨meaning, drafts⟩ :=
    plans_say_what_was_declared { group := ⟨"rg", "eastus", "sub"⟩ } "lz"
  obtain ⟨-, -, -, networks, -, bindings⟩ := meaning crossing
  have first : plan.resources.find? (·.isNetwork "net") = some plan.resources[1] := rfl
  obtain ⟨stands, once, -⟩ := bindings "net" plan.resources[1] first
  have there : (start.drawn (branching.take 2))[1]? = some (start.step crossing[0]) := rfl
  obtain ⟨steps, later, within, same, kept, plain, headings, -⟩ :=
    drafts (branching.take 2) (branching.drop 2) 1 _ there
  exact ⟨rfl, rfl, ⟨_, first, stands, once⟩, networks, rfl, there, steps, later, within, same, kept,
    plain, headings⟩

end Provision
