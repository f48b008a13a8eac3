/-
**Deployments into memory, as a ledger.**

A provider in memory only ever adds records at the end. What a declaration leads to is therefore a
function of the records before it, and a declaration that was realised once is realised in the same
way ever after:

* `Scene.verdict` is what a declaration leads to, `Scene.grown` are the records after it
  (`Declaration.realise_eq`);
* `Scene.verdict_stable` and `Scene.grown_stable`: nothing that is added later
  changes the verdict, and a second attempt adds nothing;
* `Scene.verdicts` and `Scene.laid` are the same for several declarations in order, up to the end or
  to the first failure (`Declaration.realiseAll_of_done`, `Declaration.realiseAll_of_refused`).
-/

import Provision.Proofs.Deployment
import Provision.Proofs.Tags
import Provision.Provider.Memory

namespace Provision

/-- Where a deployment takes place: for which landing zone of which group, and which names cannot be
created meanwhile. -/
structure Scene where
  group : ResourceGroup
  zone : String
  failing : List String

namespace Scene

variable (scene : Scene)

/-- The record that a declaration is given. -/
def record (declaration : Declaration) : Memory.Record :=
  .ofDefinition scene.group declaration.definition (declaration.tags scene.zone)

/-- The first record that has the group, the kind and the name of a declaration. -/
def holder? (records : List Memory.Record) (declaration : Declaration) : Option Memory.Record :=
  records.find?
    (Memory.Record.isAt scene.group.name declaration.definition.kind declaration.definition.name)

/-- Whether the name of a declaration cannot be created. -/
def bars (declaration : Declaration) : Bool := scene.failing.contains declaration.definition.name

/-- What the provider answers when a declaration is to be created. -/
def answer (records : List Memory.Record) (declaration : Declaration) : Answer DeployedResource :=
  if scene.bars declaration then .error (Memory.failure declaration.definition.name)
  else if (scene.holder? records declaration).isSome then
    .error (.alreadyExists declaration.definition.name)
  else .ok (scene.record declaration).resource

/-- The records after a declaration was to be created. -/
def grown (records : List Memory.Record) (declaration : Declaration) : List Memory.Record :=
  if scene.bars declaration || (scene.holder? records declaration).isSome then records
  else records ++ [scene.record declaration]

/-- What a declaration leads to. -/
def verdict (records : List Memory.Record) (declaration : Declaration) :
    Except ZoneError DeployedResource :=
  if scene.bars declaration then
    .error (declaration.refused (Memory.failure declaration.definition.name))
  else
    match scene.holder? records declaration with
    | some record =>
      declaration.settle scene.zone declaration.definition.name (.ok (some record.resource))
    | none => .ok (scene.record declaration).resource

/-- The records after several declarations. -/
def laid (declarations : List Declaration) (records : List Memory.Record) : List Memory.Record :=
  declarations.foldl scene.grown records

/-- What several declarations lead to, one after the other. -/
def verdicts : List Memory.Record → List Declaration → List (Except ZoneError DeployedResource)
  | _, [] => []
  | records, declaration :: rest =>
    scene.verdict records declaration :: verdicts (scene.grown records declaration) rest

/-! ### One declaration -/

theorem record_isAt (declaration : Declaration) :
    (scene.record declaration).isAt scene.group.name declaration.definition.kind
      declaration.definition.name = true := by
  simp [record, Memory.Record.ofDefinition, Memory.Record.isAt]

variable {scene}
variable {records later : List Memory.Record} {declaration : Declaration}

theorem holder?_isAt {record : Memory.Record}
    (holds : scene.holder? records declaration = some record) :
    record ∈ records ∧ record.isAt scene.group.name declaration.definition.kind
      declaration.definition.name = true :=
  ⟨List.mem_of_find?_eq_some holds, List.find?_some holds⟩

/-- The first record of a name stays the first one. -/
theorem holder?_stable {record : Memory.Record} (grows : records <+: later)
    (holds : scene.holder? records declaration = some record) :
    scene.holder? later declaration = some record :=
  grows.find?_eq_some holds

theorem holder?_append_record (vacant : scene.holder? records declaration = none) :
    scene.holder? (records ++ [scene.record declaration]) declaration =
      some (scene.record declaration) := by
  unfold holder? at vacant ⊢
  rw [List.find?_append, vacant, Option.none_or, List.find?_cons_of_pos (scene.record_isAt _)]

theorem grown_of_bars (barred : scene.bars declaration = true) :
    scene.grown records declaration = records := by
  simp [grown, barred]

theorem grown_of_holder? {record : Memory.Record}
    (holds : scene.holder? records declaration = some record) :
    scene.grown records declaration = records := by
  simp [grown, holds]

theorem grown_of_vacant (free : scene.bars declaration = false)
    (vacant : scene.holder? records declaration = none) :
    scene.grown records declaration = records ++ [scene.record declaration] := by
  simp [grown, free, vacant]

theorem answer_of_bars (barred : scene.bars declaration = true) :
    scene.answer records declaration = .error (Memory.failure declaration.definition.name) := by
  simp [answer, barred]

theorem answer_of_holder? {record : Memory.Record} (free : scene.bars declaration = false)
    (holds : scene.holder? records declaration = some record) :
    scene.answer records declaration = .error (.alreadyExists declaration.definition.name) := by
  simp [answer, free, holds]

theorem answer_of_vacant (free : scene.bars declaration = false)
    (vacant : scene.holder? records declaration = none) :
    scene.answer records declaration = .ok (scene.record declaration).resource := by
  simp [answer, free, vacant]

theorem verdict_of_bars (barred : scene.bars declaration = true) :
    scene.verdict records declaration =
      .error (declaration.refused (Memory.failure declaration.definition.name)) := by
  simp [verdict, barred]

theorem verdict_of_holder? {record : Memory.Record} (free : scene.bars declaration = false)
    (holds : scene.holder? records declaration = some record) :
    scene.verdict records declaration =
      declaration.settle scene.zone declaration.definition.name (.ok (some record.resource)) := by
  simp [verdict, free, holds]

theorem verdict_of_vacant (free : scene.bars declaration = false)
    (vacant : scene.holder? records declaration = none) :
    scene.verdict records declaration = .ok (scene.record declaration).resource := by
  simp [verdict, free, vacant]

theorem prefix_grown (scene : Scene) (records : List Memory.Record) (declaration : Declaration) :
    records <+: scene.grown records declaration := by
  unfold grown
  split
  · exact List.prefix_refl _
  · exact List.prefix_append _ _

/-- After a declaration that is not barred, some record has its name. -/
theorem exists_holder?_grown (records : List Memory.Record)
    (free : scene.bars declaration = false) :
    ∃ record, scene.holder? (scene.grown records declaration) declaration = some record := by
  cases holds : scene.holder? records declaration with
  | some record => exact ⟨record, by rw [grown_of_holder? holds, holds]⟩
  | none => exact ⟨_, by rw [grown_of_vacant free holds, holder?_append_record holds]⟩

/-- The resource that a declaration is given is one that it settles for. -/
theorem settle_record (scene : Scene) (declaration : Declaration) (taken : String) :
    declaration.settle scene.zone taken (.ok (some (scene.record declaration).resource)) =
      .ok (scene.record declaration).resource :=
  (Declaration.settle_eq_ok_iff ..).mpr ⟨rfl, Tags.Agree.refl _⟩

/-- Directly after a declaration, a second attempt has the same verdict. -/
theorem verdict_grown (scene : Scene) (records : List Memory.Record) (declaration : Declaration) :
    scene.verdict (scene.grown records declaration) declaration =
      scene.verdict records declaration := by
  cases free : scene.bars declaration with
  | true => rw [verdict_of_bars free, verdict_of_bars free]
  | false =>
      cases holds : scene.holder? records declaration with
      | some record => rw [grown_of_holder? holds]
      | none =>
          rw [grown_of_vacant free holds, verdict_of_vacant free holds,
            verdict_of_holder? free (holder?_append_record holds), settle_record]

/-- **The verdict is final.** Whatever was added after a declaration, the declaration leads to what
it led to at first. -/
theorem verdict_stable (grows : scene.grown records declaration <+: later) :
    scene.verdict later declaration = scene.verdict records declaration := by
  cases free : scene.bars declaration with
  | true => rw [verdict_of_bars free, verdict_of_bars free]
  | false =>
      obtain ⟨record, holds⟩ := exists_holder?_grown records free
      rw [verdict_of_holder? free (holder?_stable grows holds), ← verdict_of_holder? free holds,
        verdict_grown]

/-- **A second attempt adds nothing**, whatever was added in between. -/
theorem grown_stable (grows : scene.grown records declaration <+: later) :
    scene.grown later declaration = later := by
  cases free : scene.bars declaration with
  | true => exact grown_of_bars free
  | false =>
      obtain ⟨record, holds⟩ := exists_holder?_grown records free
      exact grown_of_holder? (holder?_stable grows holds)

/-- A declaration that cannot be realised adds nothing. -/
theorem grown_of_verdict_error {error : ZoneError}
    (refused : scene.verdict records declaration = .error error) :
    scene.grown records declaration = records := by
  cases free : scene.bars declaration with
  | true => exact grown_of_bars free
  | false =>
      cases holds : scene.holder? records declaration with
      | some record => exact grown_of_holder? holds
      | none =>
          rw [verdict_of_vacant free holds] at refused
          cases refused

/-! ### Several declarations -/

variable {first rest : List Declaration}

@[simp]
theorem laid_nil (scene : Scene) (records : List Memory.Record) : scene.laid [] records = records :=
  rfl

@[simp]
theorem laid_cons (scene : Scene) (declaration : Declaration) (rest : List Declaration)
    (records : List Memory.Record) :
    scene.laid (declaration :: rest) records = scene.laid rest (scene.grown records declaration) :=
  rfl

theorem laid_append (scene : Scene) (first rest : List Declaration) (records : List Memory.Record) :
    scene.laid (first ++ rest) records = scene.laid rest (scene.laid first records) :=
  List.foldl_append

theorem laid_concat (scene : Scene) (first : List Declaration) (declaration : Declaration)
    (records : List Memory.Record) :
    scene.laid (first ++ [declaration]) records =
      scene.grown (scene.laid first records) declaration := by
  rw [laid_append, laid_cons, laid_nil]

theorem prefix_laid (scene : Scene) (declarations : List Declaration)
    (records : List Memory.Record) : records <+: scene.laid declarations records := by
  induction declarations generalizing records with
  | nil => exact List.prefix_refl _
  | cons declaration rest hyp => exact (prefix_grown scene records declaration).trans (hyp _)

/-- More declarations leave at least the records that fewer of them leave. -/
theorem laid_prefix_laid (scene : Scene) (within : first <+: rest) (records : List Memory.Record) :
    scene.laid first records <+: scene.laid rest records := by
  obtain ⟨others, rfl⟩ := within
  rw [laid_append]
  exact prefix_laid _ _ _

theorem verdicts_append (scene : Scene) (first rest : List Declaration)
    (records : List Memory.Record) :
    scene.verdicts records (first ++ rest) =
      scene.verdicts records first ++ scene.verdicts (scene.laid first records) rest := by
  induction first generalizing records with
  | nil => rfl
  | cons declaration others hyp => simp [verdicts, hyp]

theorem verdicts_concat (scene : Scene) (first : List Declaration) (declaration : Declaration)
    (records : List Memory.Record) :
    scene.verdicts records (first ++ [declaration]) =
      scene.verdicts records first ++ [scene.verdict (scene.laid first records) declaration] := by
  rw [verdicts_append]
  rfl

/-- Declarations can all be realised, or there is a first one that cannot. -/
theorem realised_or_refused (scene : Scene) (declarations : List Declaration)
    (records : List Memory.Record) :
    (∃ made : List DeployedResource, scene.verdicts records declarations = made.map .ok) ∨
      ∃ first declaration rest error, declarations = first ++ declaration :: rest ∧
        (∃ made : List DeployedResource, scene.verdicts records first = made.map .ok) ∧
        scene.verdict (scene.laid first records) declaration = .error error := by
  induction declarations generalizing records with
  | nil => exact .inl ⟨[], rfl⟩
  | cons declaration rest hyp =>
      cases verdict : scene.verdict records declaration with
      | error error => exact .inr ⟨[], declaration, rest, error, rfl, ⟨[], rfl⟩, verdict⟩
      | ok resource =>
          rcases hyp (scene.grown records declaration) with ⟨made, all⟩ |
            ⟨first, failed, others, error, split, ⟨made, all⟩, refused⟩
          · exact .inl ⟨resource :: made, by simp [verdicts, verdict, all]⟩
          · exact .inr ⟨declaration :: first, failed, others, error, by simp [split],
              ⟨resource :: made, by simp [verdicts, verdict, all]⟩, refused⟩

end Scene

/-! ## The provider in memory -/

/-- The scene of a deployment into memory as it is. -/
def Memory.scene (memory : Memory) (group : ResourceGroup) (zone : String) : Scene :=
  ⟨group, zone, memory.failing⟩

/-- The memory with other records, after some more attempts. -/
def Memory.after (memory : Memory) (records : List Memory.Record) (attempts : Nat) : Memory :=
  { memory with records := records, attempts := memory.attempts + attempts }

@[simp]
theorem Memory.after_records (memory : Memory) (records : List Memory.Record) (attempts : Nat) :
    (memory.after records attempts).records = records := rfl

@[simp]
theorem Memory.scene_after (memory : Memory) (records : List Memory.Record) (attempts : Nat)
    (group : ResourceGroup) (zone : String) :
    (memory.after records attempts).scene group zone = memory.scene group zone := rfl

theorem Memory.after_after (memory : Memory) (records more : List Memory.Record)
    (attempts others : Nat) :
    (memory.after records attempts).after more others = memory.after more (attempts + others) := by
  simp [Memory.after, Nat.add_assoc]

variable (memory : Memory) (group : ResourceGroup) (zone : String)

/-- One attempt to create the resource of a declaration. -/
theorem Memory.provider_create (declaration : Declaration) :
    Memory.provider.create group declaration.definition (declaration.tags zone) memory =
      ((memory.scene group zone).answer memory.records declaration,
        memory.after ((memory.scene group zone).grown memory.records declaration) 1) := by
  show Memory.create group declaration.definition (declaration.tags zone) memory = _
  have look : memory.record? group.name declaration.definition.kind declaration.definition.name =
      (memory.scene group zone).holder? memory.records declaration := rfl
  have fails : memory.failing.contains declaration.definition.name =
      (memory.scene group zone).bars declaration := rfl
  unfold Memory.create
  rw [look, fails]
  cases free : (memory.scene group zone).bars declaration with
  | true =>
      rw [Scene.answer_of_bars free, Scene.grown_of_bars free]
      rfl
  | false =>
      cases holds : (memory.scene group zone).holder? memory.records declaration with
      | some record =>
          rw [Scene.answer_of_holder? free holds, Scene.grown_of_holder? holds]
          rfl
      | none =>
          rw [Scene.answer_of_vacant free holds, Scene.grown_of_vacant free holds]
          rfl

/-- The look-up that follows when a name is taken. -/
theorem Memory.provider_find (declaration : Declaration) :
    Memory.provider.find group declaration.definition.kind declaration.definition.name memory =
      (.ok (((memory.scene group zone).holder? memory.records declaration).map (·.resource)),
        memory) := rfl

namespace Declaration

/-- **Realising a declaration in memory.** -/
theorem realise_eq (declaration : Declaration) :
    declaration.realise Memory.provider group zone memory =
      ((memory.scene group zone).verdict memory.records declaration,
        memory.after ((memory.scene group zone).grown memory.records declaration) 1) := by
  rw [realise_apply, Memory.provider_create]
  cases free : (memory.scene group zone).bars declaration with
  | true =>
      rw [Scene.answer_of_bars free, Scene.verdict_of_bars free]
      rfl
  | false =>
      cases holds : (memory.scene group zone).holder? memory.records declaration with
      | some record =>
          rw [Scene.answer_of_holder? free holds, Scene.verdict_of_holder? free holds,
            Scene.grown_of_holder? holds]
          simp only [Memory.provider_find _ group zone, Memory.scene_after, Memory.after_records,
            holds]
          rfl
      | none =>
          rw [Scene.answer_of_vacant free holds, Scene.verdict_of_vacant free holds]

theorem realiseAll_cons (declaration : Declaration) (rest : List Declaration) :
    Declaration.realiseAll Memory.provider group zone (declaration :: rest) memory =
      match (memory.scene group zone).verdict memory.records declaration with
      | .ok resource =>
        let further := Declaration.realiseAll Memory.provider group zone rest
          (memory.after ((memory.scene group zone).grown memory.records declaration) 1)
        (further.1.after resource, further.2)
      | .error error => ({ failure? := some error },
          memory.after ((memory.scene group zone).grown memory.records declaration) 1) := by
  rw [realiseAll_apply, realise_eq]
  cases (memory.scene group zone).verdict memory.records declaration <;> rfl

/-- Declarations that can all be realised are realised to the end. -/
theorem realiseAll_of_done (declarations : List Declaration) (made : List DeployedResource)
    (done : (memory.scene group zone).verdicts memory.records declarations = made.map .ok) :
    Declaration.realiseAll Memory.provider group zone declarations memory =
      ({ made := made },
        memory.after ((memory.scene group zone).laid declarations memory.records)
          declarations.length) := by
  induction declarations generalizing memory made with
  | nil =>
      cases made with
      | nil => rfl
      | cons resource others => cases done
  | cons declaration rest hyp =>
      cases made with
      | nil => cases done
      | cons resource others =>
          simp only [Scene.verdicts, List.map_cons, List.cons.injEq] at done
          have further := hyp
            (memory.after ((memory.scene group zone).grown memory.records declaration) 1) others done.2
          rw [Memory.after_after, Nat.add_comm] at further
          rw [realiseAll_cons, done.1]
          simp only [further]
          rfl

/-- Declarations are realised up to the first that cannot be. -/
theorem realiseAll_of_refused (first : List Declaration) (declaration : Declaration)
    (rest : List Declaration) (made : List DeployedResource) (error : ZoneError)
    (done : (memory.scene group zone).verdicts memory.records first = made.map .ok)
    (refused : (memory.scene group zone).verdict
      ((memory.scene group zone).laid first memory.records) declaration = .error error) :
    Declaration.realiseAll Memory.provider group zone (first ++ declaration :: rest) memory =
      ({ made := made, failure? := some error },
        memory.after ((memory.scene group zone).laid first memory.records)
          (first.length + 1)) := by
  induction first generalizing memory made with
  | nil =>
      cases made with
      | nil =>
          rw [List.nil_append, realiseAll_cons]
          simp only [Scene.laid_nil] at refused ⊢
          rw [refused, Scene.grown_of_verdict_error refused]
          rfl
      | cons resource others => cases done
  | cons earlier others hyp =>
      cases made with
      | nil => cases done
      | cons resource further =>
          simp only [Scene.verdicts, List.map_cons, List.cons.injEq] at done
          have later := hyp
            (memory.after ((memory.scene group zone).grown memory.records earlier) 1) further done.2
            refused
          rw [Memory.after_after, Nat.add_comm] at later
          rw [List.cons_append, realiseAll_cons, done.1]
          simp only [later]
          rfl

end Declaration

end Provision
