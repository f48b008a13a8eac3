/-
**Fields in any order.**

The fields of a record may stand in an array in the order of their declaration, or in an object in any
order and among others:

* `Json.Field` is a field with the document of its value, and `Arranges` says that a document gives some
  fields;
* `Fields.select?_of_texts` selects the members of an object by their names;
* **`Arranges.exists_fields`**: whatever the arrangement, each field is found;
* `arranges_array` and `arranges_object`: the array of the fields is an arrangement, and so is the object
  of them in any order.
-/

import Mathlib.Data.List.Forall2
import Provision.Json.Fields
import Provision.Proofs.Json.Strings

namespace Provision.Json

theorem trees_eq_map (items : List Json) : trees items = items.map tree := by
  induction items with
  | nil => rfl
  | cons item rest hyp => rw [trees, hyp, List.map_cons]

theorem memberTrees_eq_map (members : List (String × Json)) :
    memberTrees members =
      members.map fun member => ((spellText member.1).map some, tree member.2) := by
  induction members with
  | nil => rfl
  | cons member rest hyp => rw [memberTrees, hyp, List.map_cons]

/-! ### Arrangements -/

/-- A field of a record, with the document of its value. -/
structure Field where
  name : String
  document : Json
  /-- Which documents are read as its value. -/
  reads : Tree → Prop

/-- A member of an object that gives a field. -/
def Field.Names (field : Field) (member : String × Tree) : Prop :=
  member.1 = field.name ∧ field.reads member.2

/-- A document that gives fields: all of them in an array, in their order, or those that are not left out
in an object, in any order and among others that have other names. -/
inductive Arranges (fields : List Field) (omitted : List String) : Tree → Prop
  | array {items : List Tree} (reads : List.Forall₂ Field.reads fields items) :
      Arranges fields omitted (.array items)
  | object {members : List (Source × Tree)} {labelled items others : List (String × Tree)}
      (texts : members.map (fun member => (bodyText? member.1, member.2)) =
        labelled.map fun member => (some member.1, member.2))
      (order : labelled.Perm (items ++ others))
      (reads : List.Forall₂ Field.Names (fields.filter (·.name ∉ omitted)) items)
      (unknown : ∀ other ∈ others, other.1 ∉ fields.map (·.name)) :
      Arranges fields omitted (.object members)

/-- What has been found of a field: a document that is read as its value, or nothing if it may be left
out. -/
def Field.Found (field : Field) (omitted : List String) (found : Fields) : Prop :=
  (∃ item, found.found.lookup field.name = some item ∧ field.reads item) ∨
    field.name ∈ omitted ∧ found.found.lookup field.name = none

namespace Fields

theorem lookup_eq_none_of_notMem {α : Type} {name : String} {fields : List (String × α)}
    (missing : name ∉ fields.map (·.1)) : fields.lookup name = none := by
  rw [List.lookup_eq_none_iff]
  intro field member
  rw [bne_iff_ne]
  rintro rfl
  exact missing (List.mem_map_of_mem member)

theorem lookup_of_mem {α : Type} {name : String} {value : α} {fields : List (String × α)}
    (distinct : (fields.map (·.1)).Nodup) (member : (name, value) ∈ fields) :
    fields.lookup name = some value := by
  induction fields with
  | nil => cases member
  | cons field rest hyp =>
      rw [List.map_cons, List.nodup_cons] at distinct
      rcases List.mem_cons.mp member with rfl | inside
      · rw [List.lookup_cons_self]
      · have apart : name ≠ field.1 := by
          rintro rfl
          exact distinct.1 (List.mem_map.mpr ⟨_, inside, rfl⟩)
        rw [List.lookup_cons, beq_eq_false_iff_ne.mpr apart]
        exact hyp distinct.2 inside

/-- **The members with known names are selected**, as long as none of these is repeated. -/
theorem select?_of_texts (names : List String) {members : List (Source × Tree)}
    {labelled : List (String × Tree)}
    (texts : members.map (fun member => (bodyText? member.1, member.2)) =
      labelled.map fun member => (some member.1, member.2))
    (distinct : ((labelled.filter (·.1 ∈ names)).map (·.1)).Nodup) :
    select? names members = some (labelled.filter (·.1 ∈ names)) := by
  induction labelled generalizing members with
  | nil =>
      obtain rfl := List.map_eq_nil_iff.mp texts
      rfl
  | cons first rest hyp =>
      obtain ⟨name, item⟩ := first
      obtain ⟨⟨key, _⟩, others, rfl, same, further⟩ := List.map_eq_cons_iff.mp texts
      obtain ⟨spelled, rfl⟩ : bodyText? key = some name ∧ _ = item := Prod.mk.inj same
      by_cases known : name ∈ names
      · rw [List.filter_cons_of_pos (by simpa using known)] at distinct ⊢
        rw [List.map_cons, List.nodup_cons] at distinct
        have fresh := lookup_eq_none_of_notMem distinct.1
        simp only [select?, spelled, hyp further distinct.2, Option.bind_eq_bind, Option.bind_some,
          if_pos known, fresh]
        rfl
      · rw [List.filter_cons_of_neg (by simpa using known)] at distinct ⊢
        simp only [select?, spelled, hyp further distinct, Option.bind_eq_bind, Option.bind_some,
          if_neg known]
        rfl

end Fields

variable {fields : List Field} {omitted : List String} {document : Tree}

/-- The fields that an array gives are found by their places. -/
theorem found_of_array {items : List Tree} (reads : List.Forall₂ Field.reads fields items)
    (distinct : (fields.map (·.name)).Nodup) : ∀ field ∈ fields,
      ∃ item, ((fields.map (·.name)).zip items).lookup field.name = some item ∧ field.reads item := by
  induction reads with
  | nil => exact fun _ => nofun
  | @cons first item rest others own reads hyp =>
      rw [List.map_cons, List.nodup_cons] at distinct
      rw [List.map_cons, List.zip_cons_cons]
      intro field member
      rcases List.mem_cons.mp member with rfl | inside
      · exact ⟨item, List.lookup_cons_self, own⟩
      · have apart : field.name ≠ first.name := fun same =>
          distinct.1 (same ▸ List.mem_map_of_mem inside)
        rw [List.lookup_cons, beq_eq_false_iff_ne.mpr apart]
        exact hyp distinct.2 field inside

theorem names_eq {items : List (String × Tree)} (reads : List.Forall₂ Field.Names fields items) :
    items.map (·.1) = fields.map (·.name) := by
  induction reads with
  | nil => rfl
  | cons own reads hyp => rw [List.map_cons, List.map_cons, own.1, hyp]

theorem exists_item {items : List (String × Tree)} (reads : List.Forall₂ Field.Names fields items) :
    ∀ field ∈ fields, ∃ item, (field.name, item) ∈ items ∧ field.reads item := by
  induction reads with
  | nil => exact fun _ => nofun
  | @cons first item rest others own reads hyp =>
      intro field member
      rcases List.mem_cons.mp member with rfl | inside
      · exact ⟨item.2, own.1 ▸ List.mem_cons_self, own.2⟩
      · obtain ⟨other, among, read⟩ := hyp field inside
        exact ⟨other, List.mem_cons_of_mem _ among, read⟩

/-- The fields that an object gives are found by their names. -/
theorem found_of_object {labelled items others : List (String × Tree)}
    (order : labelled.Perm (items ++ others))
    (reads : List.Forall₂ Field.Names (fields.filter (·.name ∉ omitted)) items)
    (unknown : ∀ other ∈ others, other.1 ∉ fields.map (·.name))
    (distinct : (fields.map (·.name)).Nodup) :
    ((labelled.filter (·.1 ∈ fields.map (·.name))).map (·.1)).Nodup ∧
      ∀ field ∈ fields,
        field.Found omitted ⟨false, labelled.filter (·.1 ∈ fields.map (·.name))⟩ := by
  have names := names_eq reads
  have selected : (labelled.filter (·.1 ∈ fields.map (·.name))).Perm items := by
    have known : items.filter (·.1 ∈ fields.map (·.name)) = items := by
      refine List.filter_eq_self.mpr fun item member => decide_eq_true ?_
      have inside : item.1 ∈ items.map (·.1) := List.mem_map_of_mem member
      rw [names] at inside
      exact (List.filter_sublist.map _).subset inside
    have foreign : others.filter (·.1 ∈ fields.map (·.name)) = [] :=
      List.filter_eq_nil_iff.mpr fun other member => by simpa using unknown other member
    have whole := order.filter fun member => decide (member.1 ∈ fields.map (·.name))
    rw [List.filter_append, known, foreign, List.append_nil] at whole
    exact whole
  have once : (items.map (·.1)).Nodup := names ▸ distinct.sublist (List.filter_sublist.map _)
  have once' := (selected.map (·.1)).nodup_iff.mpr once
  refine ⟨once', fun field member => ?_⟩
  by_cases left : field.name ∈ omitted
  · refine .inr ⟨left, Fields.lookup_eq_none_of_notMem fun inside => ?_⟩
    have inside := (selected.map (·.1)).subset inside
    rw [names] at inside
    obtain ⟨other, kept, same⟩ := List.mem_map.mp inside
    have kept := (List.mem_filter.mp kept).2
    simp [same, left] at kept
  · obtain ⟨item, among, read⟩ := exists_item reads field
      (List.mem_filter.mpr ⟨member, by simpa using left⟩)
    exact .inl ⟨item, Fields.lookup_of_mem once' (selected.symm.subset among), read⟩

/-- **Whatever the arrangement, each field is found.** -/
theorem Arranges.exists_fields (arranges : Arranges fields omitted document)
    (distinct : (fields.map (·.name)).Nodup) :
    ∃ found, Fields.ofTree? (fields.map (·.name)) document = some found ∧
      ∀ field ∈ fields, field.Found omitted found := by
  cases arranges with
  | @array items reads =>
      have short : items.length ≤ (fields.map (·.name)).length :=
        Nat.le_of_eq (reads.length_eq.symm.trans (List.length_map _).symm)
      refine ⟨⟨true, (fields.map (·.name)).zip items⟩, ?_, fun field member =>
        .inl (found_of_array reads distinct field member)⟩
      rw [Fields.ofTree?, if_pos short]
  | @object members labelled items others texts order reads unknown =>
      obtain ⟨once, found⟩ := found_of_object order reads unknown distinct
      refine ⟨_, ?_, found⟩
      rw [Fields.ofTree?, Fields.select?_of_texts _ texts once]
      rfl

/-- The members of the object of some fields, without those that are left out. -/
def members (fields : List Field) (omitted : List String) : List (String × Json) :=
  (fields.filter (·.name ∉ omitted)).map fun field => (field.name, field.document)

/-- **The array of the fields** is an arrangement. -/
theorem arranges_array (parts : ∀ field ∈ fields, field.reads (tree field.document)) :
    Arranges fields omitted (tree (.array (fields.map (·.document)))) := by
  show Arranges _ _ (.array (trees _))
  rw [trees_eq_map, List.map_map]
  refine .array ?_
  rw [List.forall₂_map_right_iff, List.forall₂_same]
  exact parts

/-- **The object of the fields** is an arrangement, in whatever order and with whatever others. -/
theorem arranges_object (parts : ∀ field ∈ fields, field.reads (tree field.document))
    {written others : List (String × Json)} (order : written.Perm (members fields omitted ++ others))
    (unknown : ∀ other ∈ others, other.1 ∉ fields.map (·.name)) :
    Arranges fields omitted (tree (.object written)) := by
  have texts : (memberTrees written).map (fun member => (bodyText? member.1, member.2)) =
      (written.map fun member => (member.1, tree member.2)).map fun member =>
        (some member.1, member.2) := by
    rw [memberTrees_eq_map, List.map_map, List.map_map]
    refine List.map_congr_left fun member _ => ?_
    simp only [Function.comp_apply, bodyText?_spellText]
  have reads : List.Forall₂ Field.Names (fields.filter (·.name ∉ omitted))
      ((members fields omitted).map fun member => (member.1, tree member.2)) := by
    rw [members, List.map_map, List.forall₂_map_right_iff, List.forall₂_same]
    exact fun field member => ⟨rfl, parts field (List.mem_of_mem_filter member)⟩
  have order := order.map fun member => (member.1, tree member.2)
  rw [List.map_append] at order
  refine .object texts order reads fun other member => ?_
  obtain ⟨source, inside, rfl⟩ := List.mem_map.mp member
  exact unknown source inside

end Provision.Json
