/-
**Documents there and back.**

A value is read back from its document:

* `Document.Faithful` says so of a value; texts, words, lists and tags are faithful;
* `Document.RoundTrips` says so of a record however its fields are arranged, and
  `Document.read_of_arranges` reads one;
* `Document.roundTrips_storeState`: so is every state of a store whose times can be written;
* `Document.ofBytes?_toBytes` reads a value back from the contents of a file.
-/

import Provision.Proofs.Instant.Texts
import Provision.Proofs.Json.Arrangements
import Provision.Proofs.Json.Texts
import Provision.Store.State

namespace Provision

namespace Json

/-- What is read from all members of a list, in order. -/
theorem mapM_eq_some {α β : Type} (read? : α → Option β) (items : List α) (values : List β)
    (each : items.map read? = values.map some) : items.mapM read? = some values := by
  induction items generalizing values with
  | nil =>
      cases values with
      | nil => rfl
      | cons value others => cases each
  | cons item rest hyp =>
      cases values with
      | nil => cases each
      | cons value others =>
          simp only [List.map_cons, List.cons.injEq] at each
          rw [List.mapM_cons, each.1, hyp others each.2]
          rfl

end Json

namespace Document

/-- A value that is read back from its document. -/
def Faithful {α : Type} [Document α] (value : α) : Prop :=
  decode? (Json.tree (encode value)) = some value

/-- **A faithful value is read back from the contents of a file.** -/
theorem ofBytes?_toBytes {α : Type} [Document α] {value : α} (faithful : Faithful value) :
    ofBytes? (toBytes value) = some value := by
  rw [ofBytes?, toBytes, Json.ofBytes?_encode, Option.bind_some, faithful]

/-! ### Parts -/

theorem faithful_string (text : String) : Faithful text := by
  show Json.bodyText? _ = _
  exact Json.bodyText?_spellText text

/-- A word is read back as what it stands for. -/
theorem word?_spelled {α : Type} {ofWord? : String → Option α} {word : String} {value : α}
    (known : ofWord? word = some value) :
    (Json.tree (.string word)).word? ofWord? = some value := by
  show (Json.bodyText? _).bind _ = _
  rw [Json.bodyText?_spellText, Option.bind_some, known]

theorem faithful_kind (kind : ResourceKind) : Faithful kind := word?_spelled kind.ofWord?_word

theorem faithful_instant {instant : Instant} (nameable : instant.Nameable) : Faithful instant := by
  show (Json.bodyText? _).bind _ = _
  rw [Json.bodyText?_spellText, Option.bind_some, Instant.ofText?_text nameable]

theorem faithful_uint32 (number : UInt32) : Faithful number := by
  have fits : number.toNat < 4294967296 := number.toNat_lt
  have whole : (Json.Number.integer number.toNat).numeral.integer? = some (number.toNat : Int) := by
    have digits : Json.digitsValue (Nat.toDigits 10 number.toNat) = number.toNat :=
      Decimal.foldl_toDigits number.toNat
    have positive : ¬(number.toNat : Int) < 0 := by omega
    simp [Json.Number.numeral, Json.Numeral.integer?, digits, positive]
  have read : (Json.tree (encode number)).integer? 0 4294967295 = some (number.toNat : Int) := by
    have spelled : Json.tree (encode number) =
        .number (Json.Number.integer number.toNat).numeral := rfl
    rw [spelled, Json.Tree.integer?, whole, Option.filter_some, if_pos]
    simp only [decide_eq_true_eq]
    omega
  show ((Json.tree (encode number)).integer? 0 4294967295).map _ = _
  rw [read, Option.map_some, Int.toNat_natCast, UInt32.ofNat_toNat]

theorem faithful_list {α : Type} [Document α] {items : List α}
    (each : ∀ item ∈ items, Faithful item) : Faithful items := by
  show (Json.trees (items.map encode)).mapM decode? = some items
  refine Json.mapM_eq_some _ _ _ ?_
  rw [Json.trees_eq_map, List.map_map, List.map_map]
  exact List.map_congr_left fun item member => each item member

/-- The members of an object are read back, each with its key. -/
theorem map?_object {κ α : Type} [Document α] {key? : String → Option κ} (word : κ → String)
    {members : List (κ × α)} (known : ∀ member ∈ members, key? (word member.1) = some member.1)
    (each : ∀ member ∈ members, Faithful member.2) :
    (Json.tree (.object (members.map fun member => (word member.1, encode member.2)))).map? key? decode? =
      some members := by
  show (Json.memberTrees (members.map fun member => (word member.1, encode member.2))).mapM _ = _
  refine Json.mapM_eq_some _ _ _ ?_
  rw [Json.memberTrees_eq_map, List.map_map, List.map_map]
  refine List.map_congr_left fun member inside => ?_
  simp only [Function.comp_apply, Json.bodyText?_spellText, Option.bind_eq_bind, Option.bind_some,
    known member inside,
    show decode? (Json.tree (encode member.2)) = some member.2 from each member inside]
  rfl

/-- Tags that are written one by one into an empty set are the same again, in whatever order. -/
theorem foldl_insert_of_perm {tags : Tags} {members : List (String × String)}
    (order : members.Perm tags.toList) :
    members.foldl (fun tags member => tags.insert member.1 member.2) (∅ : Tags) = tags := by
  have distinct : members.Pairwise fun first second => ¬compare first.1 second.1 = .eq :=
    (order.pairwise_iff fun apart same => apart (Std.OrientedCmp.eq_symm same)).mpr
      Std.ExtTreeMap.distinct_keys_toList
  have whole : Std.ExtTreeMap.ofList members compare = tags := by
    refine Std.ExtTreeMap.ext_getElem? fun key => ?_
    cases read : tags[key]? with
    | some value =>
        have member := Std.ExtTreeMap.mem_toList_iff_getElem?_eq_some.mpr read
        exact Std.ExtTreeMap.getElem?_ofList_of_mem Std.ReflCmp.compare_self distinct
          (order.mem_iff.mpr member)
    | none =>
        refine Std.ExtTreeMap.getElem?_ofList_of_contains_eq_false ?_
        rw [(order.map Prod.fst).contains_eq, Std.ExtTreeMap.map_fst_toList_eq_keys,
          List.contains_eq_mem, decide_eq_false_iff_not, Std.ExtTreeMap.mem_keys]
        intro member
        rw [Std.ExtTreeMap.mem_iff_isSome_getElem?, read] at member
        cases member
  rw [← Std.ExtTreeMap.ofList_eq_foldl]
  exact whole

/-- **Tags are read from their members in any order.** -/
theorem decode?_of_perm {tags : Tags} {members : List (String × String)}
    (order : members.Perm tags.toList) :
    decode? (Json.tree (.object (members.map fun member => (member.1, .string member.2)))) =
      some tags := by
  have read : (Json.tree (.object (members.map fun member => (member.1, .string member.2)))).map? some
      Json.Tree.text? = some members :=
    map?_object id (fun _ _ => rfl) fun member _ => faithful_string member.2
  show Option.map _ _ = _
  rw [read, Option.map_some, foldl_insert_of_perm order]

theorem faithful_tags (tags : Tags) : Faithful tags := decode?_of_perm (.refl _)

/-! ### Records -/

/-- A field of a record with a value. -/
def field {α : Type} [Document α] (name : String) (value : α) : Json.Field where
  name := name
  document := encode value
  reads := fun tree => decode? tree = some value

section Records

variable {α β : Type} [Document α] {name : String} {value : α} {omitted : List String}
  {found : Json.Fields}

theorem required?_of_found (held : (field name value).Found omitted found) (present : name ∉ omitted) :
    found.required? name decode? = some value := by
  rcases held with ⟨item, looked, read⟩ | ⟨left, -⟩
  · rw [Json.Fields.required?, show found.found.lookup name = some item from looked]
    exact read
  · exact absurd left present

/-- Where no field is left out each of them has its value. -/
theorem required?_eq (held : (field name value).Found [] found) :
    found.required? name decode? = some value := required?_of_found held List.not_mem_nil

theorem optional?_eq {value : Option α} (held : (field name value).Found [] found) :
    found.optional? name decode? = some value := by
  rcases held with ⟨item, looked, read⟩ | ⟨left, -⟩
  · rw [Json.Fields.optional?, show found.found.lookup name = some item from looked]
    exact read
  · cases left

theorem defaulted?_of_found {standard : α} (held : (field name value).Found omitted found)
    (same : name ∈ omitted → value = standard) :
    found.defaulted? name standard decode? = some value := by
  rcases held with ⟨item, looked, read⟩ | ⟨left, looked⟩
  · rw [Json.Fields.defaulted?, show found.found.lookup name = some item from looked]
    exact read
  · rw [Json.Fields.defaulted?, show found.found.lookup name = none from looked, same left]

/-- **A record is read from any arrangement of its fields**, once it is read from them. -/
theorem read_of_arranges {fields : List Json.Field} {tree : Json.Tree} {read? : Json.Fields → Option β}
    {record : β} (arranges : Json.Arranges fields omitted tree)
    (distinct : (fields.map (·.name)).Nodup)
    (read : ∀ found, (∀ field ∈ fields, field.Found omitted found) → read? found = some record) :
    (Json.Fields.ofTree? (fields.map (·.name)) tree).bind read? = some record := by
  obtain ⟨found, same, held⟩ := arranges.exists_fields distinct
  rw [same]
  exact read found held

end Records

/-- A record that is written as the object of its fields, up to those that are left out, and read back
from any arrangement of them. -/
structure RoundTrips {α : Type} [Document α] (fields : List Json.Field) (omitted : List String)
    (value : α) : Prop where
  document : encode value = .object (Json.members fields omitted)
  /-- The document of each field is read as its value. -/
  parts : ∀ field ∈ fields, field.reads (Json.tree field.document)
  arranged : ∀ tree, Json.Arranges fields omitted tree → decode? tree = some value

namespace RoundTrips

variable {α : Type} [Document α] {fields : List Json.Field} {omitted : List String} {value : α}

/-- **A record is read back from the array of its fields.** -/
theorem array (trips : RoundTrips fields omitted value) :
    decode? (Json.tree (.array (fields.map (·.document)))) = some value :=
  trips.arranged _ (Json.arranges_array trips.parts)

/-- **A record is read back from the object of its fields**, in any order and among others. -/
theorem object (trips : RoundTrips fields omitted value) {written others : List (String × Json)}
    (order : written.Perm (Json.members fields omitted ++ others))
    (unknown : ∀ other ∈ others, other.1 ∉ fields.map (·.name)) :
    decode? (Json.tree (.object written)) = some value :=
  trips.arranged _ (Json.arranges_object trips.parts order unknown)

theorem faithful (trips : RoundTrips fields omitted value) : Faithful value := by
  unfold Faithful
  rw [trips.document]
  exact trips.object (.of_eq (List.append_nil _).symm) fun _ => nofun

end RoundTrips

end Document

/-- The fields of a deployed resource, in their order. -/
def DeployedResource.fields (resource : DeployedResource) : List Json.Field :=
  [Document.field "resource_id" resource.id, Document.field "resource_type" resource.type,
    Document.field "region" resource.region, Document.field "tags" resource.tags]

namespace Document

theorem roundTrips_deployedResource (resource : DeployedResource) :
    RoundTrips resource.fields [] resource where
  document := rfl
  parts := by
    simp only [DeployedResource.fields, List.forall_mem_cons]
    exact ⟨faithful_string _, faithful_string _, faithful_string _, faithful_tags _, nofun⟩
  arranged := fun tree arranges => by
    refine read_of_arranges arranges (by simp [DeployedResource.fields, field]) fun found held => ?_
    simp only [DeployedResource.fields, List.forall_mem_cons] at held
    obtain ⟨id, type, region, tags, -⟩ := held
    simp only [required?_eq id, required?_eq type, required?_eq region, required?_eq tags,
      Option.bind_eq_bind, Option.bind_some]
    rfl

end Document

/-- The fields of a stored resource, in their order. -/
def StoredResource.fields (stored : StoredResource) : List Json.Field :=
  [Document.field "resource_group" stored.group, Document.field "resource_type" stored.kind,
    Document.field "name" stored.name, Document.field "resource" stored.resource,
    Document.field "subnets" stored.subnets, Document.field "created_at" stored.createdAt]

/-- An empty list of subnets is left out. -/
def StoredResource.omitted (stored : StoredResource) : List String :=
  if stored.subnets.isEmpty then ["subnets"] else []

namespace Document

theorem roundTrips_storedResource {stored : StoredResource} (nameable : stored.createdAt.Nameable) :
    RoundTrips stored.fields stored.omitted stored where
  document := by
    obtain ⟨group, kind, name, resource, subnets, createdAt⟩ := stored
    cases subnets <;> rfl
  parts := by
    have subnets : Faithful stored.subnets := faithful_list fun subnet _ => faithful_string subnet
    simp only [StoredResource.fields, List.forall_mem_cons]
    exact ⟨faithful_string _, faithful_kind _, faithful_string _,
      (roundTrips_deployedResource _).faithful, subnets, faithful_instant nameable, nofun⟩
  arranged := fun tree arranges => by
    refine read_of_arranges arranges (by simp [StoredResource.fields, field]) fun found held => ?_
    simp only [StoredResource.fields, List.forall_mem_cons] at held
    obtain ⟨group, kind, name, resource, subnets, created, -⟩ := held
    have present (other : String) (apart : other ≠ "subnets") : other ∉ stored.omitted := by
      unfold StoredResource.omitted
      split <;> simp [apart]
    have empty : "subnets" ∈ stored.omitted → stored.subnets = [] := by
      unfold StoredResource.omitted
      split
      next none => exact fun _ => List.isEmpty_iff.mp none
      next => exact nofun
    simp only [required?_of_found group (present _ (by decide)),
      required?_of_found kind (present _ (by decide)), required?_of_found name (present _ (by decide)),
      required?_of_found resource (present _ (by decide)), defaulted?_of_found subnets empty,
      required?_of_found created (present _ (by decide)), Option.bind_eq_bind, Option.bind_some]
    rfl

end Document

/-- A state of a store whose times can be written. -/
structure StoreState.Nameable (state : StoreState) : Prop where
  updatedAt : state.updatedAt.Nameable
  createdAt : ∀ stored ∈ state.resources, stored.createdAt.Nameable

/-- The fields of a state, in their order. -/
def StoreState.fields (state : StoreState) : List Json.Field :=
  [Document.field "version" state.version, Document.field "updated_at" state.updatedAt,
    Document.field "resources" state.resources]

namespace Document

/-- **A state of a store is read back**, however it is arranged. -/
theorem roundTrips_storeState {state : StoreState} (nameable : state.Nameable) :
    RoundTrips state.fields [] state where
  document := rfl
  parts := by
    have resources : Faithful state.resources := faithful_list fun stored member =>
      (roundTrips_storedResource (nameable.createdAt stored member)).faithful
    simp only [StoreState.fields, List.forall_mem_cons]
    exact ⟨faithful_uint32 _, faithful_instant nameable.updatedAt, resources, nofun⟩
  arranged := fun tree arranges => by
    refine read_of_arranges arranges (by simp [StoreState.fields, field]) fun found held => ?_
    simp only [StoreState.fields, List.forall_mem_cons] at held
    obtain ⟨version, updated, resources, -⟩ := held
    simp only [required?_eq version, required?_eq updated, required?_eq resources,
      Option.bind_eq_bind, Option.bind_some]
    rfl

theorem faithful_storeState {state : StoreState} (nameable : state.Nameable) : Faithful state :=
  (roundTrips_storeState nameable).faithful

end Document

end Provision
