/-
**What stands for a declaration.**

A record is identified by its group, its kind and its name, and a resource stands for a declaration
when it is that of the record so identified and its tags agree:

* `Memory.Record.key` identifies a record; no declaration gives a key to a second record
  (`Scene.grown_nodup`);
* `Declaration.Stands` is what it is to stand for a declaration; it outlasts whatever is added
  (`Declaration.Stands.grows`);
* `Scene.stands_of_verdicts`: what declarations lead to stands for them.
-/

import Mathlib.Data.List.Forall2
import Provision.Proofs.Ledger

namespace Provision

namespace Memory.Record

/-- What identifies a record: its group, its kind and its name. -/
def key (record : Record) : String × ResourceKind × String :=
  (record.group, record.kind, record.name)

theorem isAt_iff (record : Record) (group : String) (kind : ResourceKind) (name : String) :
    record.isAt group kind name = true ↔ record.key = (group, kind, name) := by
  simp [isAt, key, and_assoc]

end Memory.Record

/-- The key of the record that a declaration is given in a group. -/
def Declaration.key (group : ResourceGroup) (declaration : Declaration) :
    String × ResourceKind × String :=
  (group.name, declaration.definition.kind, declaration.definition.name)

/-- A resource stands for a declaration of a landing zone: it is that of a record with the declared
key, and its tags agree with the declared ones. -/
def Declaration.Stands (group : ResourceGroup) (zone : String) (records : List Memory.Record)
    (declaration : Declaration) (resource : DeployedResource) : Prop :=
  (∃ record ∈ records, record.resource = resource ∧ record.key = declaration.key group) ∧
    Tags.Agree (declaration.tags zone) resource.tags

theorem Declaration.Stands.grows {group : ResourceGroup} {zone : String}
    {records later : List Memory.Record} {declaration : Declaration} {resource : DeployedResource}
    (stands : declaration.Stands group zone records resource) (more : records <+: later) :
    declaration.Stands group zone later resource := by
  obtain ⟨⟨record, member, same, key⟩, agree⟩ := stands
  exact ⟨⟨record, more.subset member, same, key⟩, agree⟩

/-- What stands for a declaration belongs to the landing zone. -/
theorem Declaration.Stands.owner? {group : ResourceGroup} {zone : String}
    {records : List Memory.Record} {declaration : Declaration} {resource : DeployedResource}
    (stands : declaration.Stands group zone records resource) :
    resource.tags.owner? = some zone := by
  rw [← stands.2.owner?, Declaration.owner?_tags]

namespace Scene

variable {scene : Scene} {records : List Memory.Record} {declaration : Declaration}

@[simp]
theorem record_key (scene : Scene) (declaration : Declaration) :
    (scene.record declaration).key = declaration.key scene.group := rfl

theorem holder?_key {record : Memory.Record}
    (holds : scene.holder? records declaration = some record) :
    record ∈ records ∧ record.key = declaration.key scene.group := by
  obtain ⟨member, isAt⟩ := holder?_isAt holds
  exact ⟨member, (record.isAt_iff ..).mp isAt⟩

theorem key_notMem_of_vacant (vacant : scene.holder? records declaration = none) :
    declaration.key scene.group ∉ records.map Memory.Record.key := by
  intro taken
  obtain ⟨record, member, same⟩ := List.mem_map.mp taken
  have missing := List.find?_eq_none.mp vacant record member
  exact missing ((record.isAt_iff ..).mpr same)

/-- No declaration gives a key to a second record. -/
theorem grown_nodup (distinct : (records.map Memory.Record.key).Nodup) :
    ((scene.grown records declaration).map Memory.Record.key).Nodup := by
  unfold grown
  split
  · exact distinct
  · rename_i free
    simp only [Bool.or_eq_true, not_or, Option.isSome_iff_ne_none, ne_eq, Decidable.not_not] at free
    rw [List.map_append, List.nodup_append]
    refine ⟨distinct, by simp, ?_⟩
    intro old oldMember new newMember same
    rw [List.map_singleton, List.mem_singleton, record_key] at newMember
    subst newMember
    exact key_notMem_of_vacant free.2 (same ▸ oldMember)

theorem stands_record (free : scene.bars declaration = false)
    (vacant : scene.holder? records declaration = none) :
    declaration.Stands scene.group scene.zone (scene.grown records declaration)
      (scene.record declaration).resource := by
  rw [grown_of_vacant free vacant]
  exact ⟨⟨_, List.mem_append_right _ (List.mem_singleton_self _), rfl, rfl⟩, Tags.Agree.refl _⟩

/-- What a declaration settles for stands for it. -/
theorem stands_of_settle {record : Memory.Record} {taken : String} {resource : DeployedResource}
    (holds : scene.holder? records declaration = some record)
    (settled : declaration.settle scene.zone taken (.ok (some record.resource)) = .ok resource) :
    declaration.Stands scene.group scene.zone records resource := by
  obtain ⟨rfl, agree⟩ := (Declaration.settle_eq_ok_iff ..).mp settled
  obtain ⟨member, key⟩ := holder?_key holds
  exact ⟨⟨record, member, rfl, key⟩, agree⟩

/-- What a declaration leads to stands for it. -/
theorem stands_of_verdict {resource : DeployedResource}
    (verdict : scene.verdict records declaration = .ok resource) :
    declaration.Stands scene.group scene.zone (scene.grown records declaration) resource := by
  cases free : scene.bars declaration with
  | true =>
      rw [verdict_of_bars free] at verdict
      cases verdict
  | false =>
      cases holds : scene.holder? records declaration with
      | some record =>
          rw [verdict_of_holder? free holds] at verdict
          rw [grown_of_holder? holds]
          exact stands_of_settle holds verdict
      | none =>
          rw [verdict_of_vacant free holds] at verdict
          obtain rfl := Except.ok.inj verdict
          exact stands_record free holds

/-- **What declarations lead to stands for them**, item by item. -/
theorem stands_of_verdicts {declarations : List Declaration} {made : List DeployedResource}
    (realised : scene.verdicts records declarations = made.map .ok) :
    List.Forall₂ (Declaration.Stands scene.group scene.zone (scene.laid declarations records))
      declarations made := by
  induction declarations generalizing records made with
  | nil =>
      cases made with
      | nil => exact .nil
      | cons resource others => cases realised
  | cons declaration rest hyp =>
      cases made with
      | nil => cases realised
      | cons resource others =>
          simp only [verdicts, List.map_cons, List.cons.injEq] at realised
          have stands := stands_of_verdict realised.1
          exact .cons (stands.grows (prefix_laid _ _ _)) (hyp realised.2)

/-- Declarations give no key to a second record. -/
theorem laid_nodup (distinct : (records.map Memory.Record.key).Nodup)
    (declarations : List Declaration) :
    ((scene.laid declarations records).map Memory.Record.key).Nodup := by
  induction declarations generalizing records with
  | nil => exact distinct
  | cons declaration rest hyp => exact hyp (grown_nodup distinct)

/-- Every record after some declarations was there before, or is that of one of them. -/
theorem mem_laid {declarations : List Declaration} {record : Memory.Record}
    (member : record ∈ scene.laid declarations records) :
    record ∈ records ∨ ∃ declaration ∈ declarations, record = scene.record declaration := by
  induction declarations generalizing records with
  | nil => exact .inl member
  | cons declaration rest hyp =>
      rcases hyp member with near | ⟨later, inside, same⟩
      · unfold grown at near
        split at near
        · exact .inl near
        · rcases List.mem_append.mp near with old | new
          · exact .inl old
          · exact .inr ⟨declaration, List.mem_cons_self, List.mem_singleton.mp new⟩
      · exact .inr ⟨later, List.mem_cons_of_mem _ inside, same⟩

end Scene

end Provision
