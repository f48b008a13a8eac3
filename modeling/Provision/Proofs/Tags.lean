/-
**Laws of tags.**

What is written into tags is what is read from them. Two sets of tags agree when they give the same
values to all managed keys; that is what a landing zone asks of a resource before it takes it for its
own:

* `Declaration.owner?_tags`, `Declaration.purpose?_tags`, `Declaration.tags_getElem?_word` read the
  tags of a declaration back;
* `Tags.Agree` is agreement, `Declaration.drift_eq_nil_iff` says that it is what is checked;
* `Declaration.settle_eq_ok_iff` says which resources a declaration settles for.
-/

import Provision.Deployment.Basic

namespace Provision

namespace Tags

/-- Two sets of tags give the same values to all keys that a deployment decides. -/
def Agree (first second : Tags) : Prop := ∀ key ∈ managedKeys, first[key]? = second[key]?

theorem Agree.refl (tags : Tags) : Agree tags tags := fun _ _ => rfl

theorem Agree.symm {first second : Tags} (agree : Agree first second) : Agree second first :=
  fun key managed => (agree key managed).symm

theorem ownerKey_mem_managedKeys : ownerKey ∈ managedKeys := by
  simp [managedKeys]

theorem purposeKey_mem_managedKeys : purposeKey ∈ managedKeys := by
  simp [managedKeys]

theorem word_mem_managedKeys (purpose : SubnetPurpose) : purpose.word ∈ managedKeys := by
  cases purpose <;> decide

theorem ownerKey_ne_purposeKey : ownerKey ≠ purposeKey := by
  decide

theorem word_ne_ownerKey (purpose : SubnetPurpose) : purpose.word ≠ ownerKey := by
  cases purpose <;> decide

theorem word_ne_purposeKey (purpose : SubnetPurpose) : purpose.word ≠ purposeKey := by
  cases purpose <;> decide

theorem Agree.owner? {first second : Tags} (agree : Agree first second) :
    first.owner? = second.owner? := agree ownerKey ownerKey_mem_managedKeys

theorem Agree.purpose? {first second : Tags} (agree : Agree first second) :
    first.purpose? = second.purpose? := by
  simp only [Tags.purpose?, agree purposeKey purposeKey_mem_managedKeys]

theorem Agree.word {first second : Tags} (agree : Agree first second) (purpose : SubnetPurpose) :
    first[purpose.word]? = second[purpose.word]? := agree purpose.word (word_mem_managedKeys purpose)

/-! ### Writing and reading -/

@[simp]
theorem owner?_owned (zone : String) : (owned zone).owner? = some zone := by
  simp [owned, owner?]

@[simp]
theorem owner?_withPurpose (tags : Tags) (purpose : ResourcePurpose) :
    (tags.withPurpose purpose).owner? = tags.owner? := by
  simp [withPurpose, owner?, Std.ExtTreeMap.getElem?_insert, ownerKey_ne_purposeKey.symm]

@[simp]
theorem owner?_withSubnet (tags : Tags) (purpose : SubnetPurpose) (subnet : String) :
    (tags.withSubnet purpose subnet).owner? = tags.owner? := by
  simp [withSubnet, owner?, Std.ExtTreeMap.getElem?_insert, word_ne_ownerKey]

@[simp]
theorem purpose?_owned (zone : String) : (owned zone).purpose? = none := by
  simp [owned, purpose?, ownerKey_ne_purposeKey]

@[simp]
theorem purpose?_withPurpose (tags : Tags) (purpose : ResourcePurpose) :
    (tags.withPurpose purpose).purpose? = some purpose := by
  simp [withPurpose, purpose?, ResourcePurpose.ofWord?_word]

@[simp]
theorem purpose?_withSubnet (tags : Tags) (purpose : SubnetPurpose) (subnet : String) :
    (tags.withSubnet purpose subnet).purpose? = tags.purpose? := by
  simp [withSubnet, purpose?, Std.ExtTreeMap.getElem?_insert, word_ne_purposeKey]

@[simp]
theorem owned_getElem?_word (zone : String) (purpose : SubnetPurpose) :
    (owned zone)[purpose.word]? = none := by
  simp [owned, (word_ne_ownerKey purpose).symm]

@[simp]
theorem withPurpose_getElem?_word (tags : Tags) (purpose : ResourcePurpose)
    (other : SubnetPurpose) : (tags.withPurpose purpose)[other.word]? = tags[other.word]? := by
  simp [withPurpose, Std.ExtTreeMap.getElem?_insert, (word_ne_purposeKey other).symm]

theorem withSubnet_getElem?_word (tags : Tags) (purpose other : SubnetPurpose) (subnet : String) :
    (tags.withSubnet purpose subnet)[other.word]? =
      if purpose = other then some subnet else tags[other.word]? := by
  by_cases same : purpose = other
  · simp [withSubnet, same]
  · have different : purpose.word ≠ other.word := fun equal =>
      same (SubnetPurpose.word_injective equal)
    simp [withSubnet, Std.ExtTreeMap.getElem?_insert, same, different]

end Tags

namespace Declaration

/-- The tags of a declaration before its subnets are written. -/
def purposed (zone : String) (declaration : Declaration) : Tags :=
  match declaration.purpose with
  | some purpose => (Tags.owned zone).withPurpose purpose
  | none => Tags.owned zone

/-- The tags with a subnet written for each of some bindings. -/
def bound (tags : Tags) (bindings : List (SubnetPurpose × String)) : Tags :=
  bindings.foldl (fun tags binding => tags.withSubnet binding.1 binding.2) tags

theorem tags_eq_bound (zone : String) (declaration : Declaration) :
    declaration.tags zone = bound (declaration.purposed zone) declaration.bindings := rfl

theorem owner?_bound (bindings : List (SubnetPurpose × String)) (tags : Tags) :
    (bound tags bindings).owner? = tags.owner? := by
  induction bindings generalizing tags with
  | nil => rfl
  | cons binding rest hyp => exact (hyp _).trans (Tags.owner?_withSubnet ..)

theorem purpose?_bound (bindings : List (SubnetPurpose × String)) (tags : Tags) :
    (bound tags bindings).purpose? = tags.purpose? := by
  induction bindings generalizing tags with
  | nil => rfl
  | cons binding rest hyp => exact (hyp _).trans (Tags.purpose?_withSubnet ..)

theorem bound_getElem?_of_notMem (purpose : SubnetPurpose)
    (bindings : List (SubnetPurpose × String)) (unbound : purpose ∉ bindings.map (·.1))
    (tags : Tags) : (bound tags bindings)[purpose.word]? = tags[purpose.word]? := by
  induction bindings generalizing tags with
  | nil => rfl
  | cons binding rest hyp =>
      simp only [List.map_cons, List.mem_cons, not_or] at unbound
      have later := hyp unbound.2 (tags.withSubnet binding.1 binding.2)
      rw [Tags.withSubnet_getElem?_word, if_neg (Ne.symm unbound.1)] at later
      exact later

theorem bound_getElem?_of_mem (purpose : SubnetPurpose) (subnet : String)
    (bindings : List (SubnetPurpose × String)) (once : (bindings.map (·.1)).Nodup)
    (member : (purpose, subnet) ∈ bindings) (tags : Tags) :
    (bound tags bindings)[purpose.word]? = some subnet := by
  induction bindings generalizing tags with
  | nil => cases member
  | cons binding rest hyp =>
      simp only [List.map_cons, List.nodup_cons] at once
      rcases List.mem_cons.mp member with rfl | later
      · have first := bound_getElem?_of_notMem purpose rest once.1 (tags.withSubnet purpose subnet)
        rw [Tags.withSubnet_getElem?_word, if_pos rfl] at first
        exact first
      · exact hyp once.2 later _

/-- The owner of what is declared is the landing zone. -/
@[simp]
theorem owner?_tags (zone : String) (declaration : Declaration) :
    (declaration.tags zone).owner? = some zone := by
  rw [tags_eq_bound, owner?_bound]
  cases purpose : declaration.purpose <;> simp [purposed, purpose]

/-- The purpose that is read back is the declared one. -/
@[simp]
theorem purpose?_tags (zone : String) (declaration : Declaration) :
    (declaration.tags zone).purpose? = declaration.purpose := by
  rw [tags_eq_bound, purpose?_bound]
  cases purpose : declaration.purpose <;> simp [purposed, purpose]

theorem purposed_getElem?_word (zone : String) (declaration : Declaration)
    (purpose : SubnetPurpose) : (declaration.purposed zone)[purpose.word]? = none := by
  cases whole : declaration.purpose <;> simp [purposed, whole]

/-- A tag for a subnet was there before, or was written for a binding. -/
theorem mem_of_bound_getElem? {purpose : SubnetPurpose} {subnet : String}
    (bindings : List (SubnetPurpose × String)) (tags : Tags)
    (read : (bound tags bindings)[purpose.word]? = some subnet) :
    tags[purpose.word]? = some subnet ∨ (purpose, subnet) ∈ bindings := by
  induction bindings generalizing tags with
  | nil => exact .inl read
  | cons binding rest hyp =>
      rcases hyp _ read with written | later
      · rw [Tags.withSubnet_getElem?_word] at written
        split at written
        · rename_i same
          obtain rfl := Option.some.inj written
          exact .inr (List.mem_cons.mpr (.inl (by rw [← same])))
        · exact .inl written
      · exact .inr (List.mem_cons_of_mem _ later)

/-- A tag for a subnet names one that is bound to the purpose. -/
theorem mem_bindings_of_tags_getElem? {zone : String} {declaration : Declaration}
    {purpose : SubnetPurpose} {subnet : String}
    (read : (declaration.tags zone)[purpose.word]? = some subnet) :
    (purpose, subnet) ∈ declaration.bindings := by
  rw [tags_eq_bound] at read
  rcases mem_of_bound_getElem? _ _ read with before | member
  · rw [purposed_getElem?_word] at before
    cases before
  · exact member

/-- **The subnets that are read back are the bound ones.** -/
theorem tags_getElem?_word_eq_some_iff (zone : String) (declaration : Declaration)
    (once : (declaration.bindings.map (·.1)).Nodup) (purpose : SubnetPurpose) (subnet : String) :
    (declaration.tags zone)[purpose.word]? = some subnet ↔
      (purpose, subnet) ∈ declaration.bindings :=
  ⟨mem_bindings_of_tags_getElem?, fun member => bound_getElem?_of_mem purpose subnet _ once member _⟩

/-! ### Settling for a resource that exists -/

/-- No key is reported exactly when the tags agree. -/
theorem drift_eq_nil_iff (expected existing : Tags) :
    drift expected existing = [] ↔ Tags.Agree expected existing := by
  simp only [drift, List.filter_eq_nil_iff, bne_iff_ne, ne_eq, Decidable.not_not, Tags.Agree]
  exact ⟨fun same key managed => (same key managed).symm,
    fun same key managed => (same key managed).symm⟩

/-- **A declaration settles for a resource exactly when its tags agree with the declared ones.** That
the owner is the landing zone is part of that. -/
theorem settle_eq_ok_iff (zone taken : String) (declaration : Declaration)
    (existing resource : DeployedResource) :
    declaration.settle zone taken (.ok (some existing)) = .ok resource ↔
      existing = resource ∧ Tags.Agree (declaration.tags zone) existing.tags := by
  rw [← drift_eq_nil_iff]
  constructor
  · intro settled
    simp only [settle] at settled
    split at settled
    · split at settled
      · rename_i clean
        exact ⟨Except.ok.inj settled, clean⟩
      · cases settled
    · cases settled
  · rintro ⟨rfl, clean⟩
    have agree := (drift_eq_nil_iff _ _).mp clean
    have owner : existing.tags.owner? = some zone := by
      rw [← agree.owner?, owner?_tags]
    simp [settle, owner, clean]

theorem settle_ne_ok_of_none (zone taken : String) (declaration : Declaration)
    (resource : DeployedResource) : declaration.settle zone taken (.ok none) ≠ .ok resource := by
  simp [settle]

end Declaration

end Provision
