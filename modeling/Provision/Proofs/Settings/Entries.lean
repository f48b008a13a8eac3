/-
**Which entries of a document count.**

Settings are read from the first entry of a node, whether it is an argument or a property:

* `Kdl.Inserted` — a property is put into a document, in some place of some node;
* `Settings.essence_eq` — behind another entry, or in a node that settings are not read from, it is
  outside of what counts;
* `Kdl.keyless` makes arguments of all properties, which changes nothing (`Settings.ofDocument_keyless`);
* **`properties_count_as_arguments`** puts this together, and `leading_property_is_read` shows a property
  that counts.
-/

import Provision.Proofs.Settings.Grammar

namespace Provision

namespace Kdl

/-- A property with a new key is put into a document. `path` are the names of the nodes down to the one it
is put into, and `before` are the entries in front of it there. -/
inductive Inserted (key : String) (value : Value) :
    List String → List Entry → List Node → List Node → Prop
  | entry (front : List Node) (name : String) (before after : List Entry) (children rest : List Node)
      (fresh : ∀ entry ∈ before ++ after, entry.key? ≠ some key) :
      Inserted key value [name] before (front ++ .mk name (before ++ after) children :: rest)
        (front ++ .mk name (before ++ ⟨some key, value⟩ :: after) children :: rest)
  | child (front : List Node) (name : String) (entries : List Entry) (rest : List Node)
      {path : List String} {before : List Entry} {children edited : List Node}
      (inner : Inserted key value path before children edited) :
      Inserted key value (name :: path) before (front ++ .mk name entries children :: rest)
        (front ++ .mk name entries edited :: rest)

mutual

/-- A node with arguments in place of properties. -/
def Node.keyless : Node → Node
  | .mk name entries children =>
    .mk name (entries.map fun entry => { value := entry.value }) (keyless children)

/-- Nodes with arguments in place of properties. -/
def keyless : List Node → List Node
  | [] => []
  | node :: rest => node.keyless :: keyless rest

end

theorem keyless_eq_map (nodes : List Node) : keyless nodes = nodes.map Node.keyless := by
  induction nodes with
  | nil => rfl
  | cons node rest hyp => rw [keyless, List.map_cons, hyp]

end Kdl

namespace Settings

/-! ### Properties that do not count -/

/-- The nodes that settings are read from, by the names on the way to them. -/
def sources : List (List String) :=
  [["resource-group"], ["resource-group", "region"], ["resource-group", "subscription"], ["state-dir"]]

section

variable {key : String} {value : Kdl.Value} {path : List String} {before : List Kdl.Entry}
  {nodes edited : List Kdl.Node}

/-- A list of which some elements are looked at in some way shows a change of one element only if that
element is looked at and looks different. -/
theorem map_filter_congr {keep : Kdl.Node → Bool} {view : Kdl.Node → Kdl.Node} {node touched : Kdl.Node}
    (front rest : List Kdl.Node) (kept : keep touched = keep node)
    (seen : keep node = true → view touched = view node) :
    ((front ++ touched :: rest).filter keep).map view =
      ((front ++ node :: rest).filter keep).map view := by
  rw [List.filter_append, List.filter_append, List.filter_cons, List.filter_cons, kept]
  split
  · rename_i looked
    rw [List.map_append, List.map_append, List.map_cons, List.map_cons, seen looked]
  · rfl

/-- What is put in behind an entry is not the first one. -/
theorem take_one_append {before : List Kdl.Entry} (entries : List Kdl.Entry) (behind : before ≠ []) :
    (before ++ entries).take 1 = before.take 1 :=
  List.take_append_of_le_length (List.length_pos_iff.mpr behind)

theorem particulars_eq (inserted : Kdl.Inserted key value path before nodes edited)
    (elsewhere : before ≠ [] ∨ "resource-group" :: path ∉ sources) :
    particulars edited = particulars nodes := by
  cases inserted with
  | entry front name _ after children rest fresh =>
      refine map_filter_congr front rest rfl fun looked => ?_
      have source : ["resource-group", name] ∈ sources := by
        rcases of_decide_eq_true looked with rfl | rfl <;> decide
      have behind : before ≠ [] := elsewhere.resolve_right fun none => none source
      exact congrArg (Kdl.Node.mk name · []) ((take_one_append _ behind).trans
        (take_one_append _ behind).symm)
  | child front name entries rest inner => exact map_filter_congr front rest rfl fun _ => rfl

/-- **Behind another entry, or in a node that settings are not read from, a property does not count.** -/
theorem essence_eq (inserted : Kdl.Inserted key value path before nodes edited)
    (elsewhere : before ≠ [] ∨ path ∉ sources) : essence edited = essence nodes := by
  cases inserted with
  | entry front name _ after children rest fresh =>
      refine map_filter_congr front rest rfl fun looked => ?_
      have source : [name] ∈ sources := by
        rcases of_decide_eq_true looked with rfl | rfl <;> decide
      have behind : before ≠ [] := elsewhere.resolve_right fun none => none source
      exact congrArg (Kdl.Node.mk name · _) ((take_one_append _ behind).trans
        (take_one_append _ behind).symm)
  | child front name entries rest inner =>
      refine map_filter_congr front rest rfl fun _ => congrArg (Kdl.Node.mk name _) ?_
      by_cases heads : name = "resource-group"
      · subst heads
        exact (if_pos rfl).trans ((particulars_eq inner elsewhere).trans (if_pos rfl).symm)
      · exact (if_neg heads).trans (if_neg heads).symm

end

/-! ### Properties and arguments -/

section

variable (node : Kdl.Node) (nodes : List Kdl.Node)

theorem name_keyless : node.keyless.name = node.name := by
  cases node
  rfl

theorem firstString?_keyless : node.keyless.firstString? = node.firstString? := by
  obtain ⟨name, entries, children⟩ := node
  cases entries <;> rfl

theorem lastString?_keyless (name : String) :
    lastString? name (Kdl.keyless nodes) = lastString? name nodes := by
  have named : ((fun node => node.name == name) ∘ Kdl.Node.keyless) = fun node => node.name == name :=
    funext fun node => congrArg (· == name) (name_keyless node)
  rw [lastString?, lastString?, Kdl.keyless_eq_map, List.filter_map, named, List.getLast?_map,
    Option.bind_map]
  exact congrArg _ (funext firstString?_keyless)

theorem groupOf_keyless : groupOf node.keyless = groupOf node := by
  have children : node.keyless.children = Kdl.keyless node.children := by
    cases node
    rfl
  rw [groupOf, groupOf, firstString?_keyless, children, lastString?_keyless, lastString?_keyless]

/-- **Whether an entry is an argument or a property makes no difference.** -/
theorem ofDocument_keyless : ofDocument (Kdl.keyless nodes) = ofDocument nodes := by
  have same : ∀ (draft : Draft) node, draft.add (Kdl.Node.keyless node) = draft.add node := by
    intro draft node
    rw [Draft.add, Draft.add, name_keyless, firstString?_keyless, groupOf_keyless]
  rw [ofDocument, ofDocument, Kdl.keyless_eq_map, Draft.addAll_map _ _ same]

end

end Settings

open Settings in
/-- **A property counts as an argument would.** Put into a document behind another entry, or into a node
that settings are not read from, it changes nothing; and with arguments in place of all properties the
settings are the same. -/
theorem properties_count_as_arguments {text other : String} {document edited : Kdl.Document}
    {key : String} {value : Kdl.Value} {path : List String} {before : List Kdl.Entry}
    (parsed : Kdl.read? text = some document) (reread : Kdl.read? other = some edited)
    (inserted : Kdl.Inserted key value path before document edited) :
    (before ≠ [] ∨ path ∉ sources → ofText other = ofText text) ∧
    ∀ plain, Kdl.read? plain = some (Kdl.keyless edited) → ofText other = ofText plain := by
  constructor
  · intro elsewhere
    rw [ofText_of_read reread, ofText_of_read parsed, ← ofDocument_essence edited,
      essence_eq inserted elsewhere, ofDocument_essence]
  · intro plain keyless
    rw [ofText_of_read reread, ofText_of_read keyless, ofDocument_keyless]

/-- The text of a node for a group with the given entries. -/
def groupText (entries : String) : String :=
  "resource-group " ++ entries ++ " \x7b\n    region \"eastus\"\n    subscription \"sub\"\n\x7d\n"

/-- A node for a group with the given entries. -/
def groupWith (entries : List Kdl.Entry) : Kdl.Document :=
  [.mk "resource-group" entries
    [.mk "region" [⟨none, .string "eastus"⟩] [], .mk "subscription" [⟨none, .string "sub"⟩] []]]

open Settings in
/-- Behind the name of a group a property changes nothing, no more than an argument would. -/
theorem trailing_property_is_passed_over :
    let named := groupWith [⟨none, .string "rg"⟩]
    let noted := groupWith [⟨none, .string "rg"⟩, ⟨some "note", .string "x"⟩]
    (Kdl.read? (groupText "rg") = some named ∧ Kdl.read? (groupText "rg note=x") = some noted ∧
      Kdl.Inserted "note" (.string "x") ["resource-group"] [⟨none, .string "rg"⟩] named noted ∧
      ofText (groupText "rg note=x") = ofText (groupText "rg")) ∧
    Kdl.read? (groupText "rg x") = some (Kdl.keyless noted) ∧
      ofText (groupText "rg note=x") = ofText (groupText "rg x") := by
  have parsed : Kdl.read? (groupText "rg") = some (groupWith [⟨none, .string "rg"⟩]) := by
    decide +kernel
  have reread : Kdl.read? (groupText "rg note=x") =
      some (groupWith [⟨none, .string "rg"⟩, ⟨some "note", .string "x"⟩]) := by decide +kernel
  have keyless : Kdl.read? (groupText "rg x") =
      some (Kdl.keyless (groupWith [⟨none, .string "rg"⟩, ⟨some "note", .string "x"⟩])) := by
    decide +kernel
  have inserted : Kdl.Inserted "note" (.string "x") ["resource-group"] [⟨none, .string "rg"⟩]
      (groupWith [⟨none, .string "rg"⟩])
      (groupWith [⟨none, .string "rg"⟩, ⟨some "note", .string "x"⟩]) :=
    .entry [] "resource-group" [⟨none, .string "rg"⟩] [] _ [] (by decide)
  have law := properties_count_as_arguments parsed reread inserted
  exact ⟨⟨parsed, reread, inserted, law.1 (.inl (List.cons_ne_nil _ _))⟩, keyless,
    law.2 _ keyless⟩

open Settings in
/-- **A property in front of the name of a group is taken for the name.** -/
theorem leading_property_is_read :
    let named := groupWith [⟨none, .string "rg"⟩]
    let noted := groupWith [⟨some "note", .string "x"⟩, ⟨none, .string "rg"⟩]
    Kdl.read? (groupText "\"rg\"") = some named ∧
      Kdl.read? (groupText "note=\"x\" \"rg\"") = some noted ∧
      Kdl.Inserted "note" (.string "x") ["resource-group"] [] named noted ∧
      ofText (groupText "\"rg\"") = .ok ⟨⟨"rg", "eastus", "sub"⟩, ".landingzone", none⟩ ∧
      ofText (groupText "note=\"x\" \"rg\"") = .ok ⟨⟨"x", "eastus", "sub"⟩, ".landingzone", none⟩ ∧
      ofText (groupText "note=\"x\" \"rg\"") ≠ ofText (groupText "\"rg\"") := by
  have parsed : Kdl.read? (groupText "\"rg\"") = some (groupWith [⟨none, .string "rg"⟩]) := by
    decide +kernel
  have reread : Kdl.read? (groupText "note=\"x\" \"rg\"") =
      some (groupWith [⟨some "note", .string "x"⟩, ⟨none, .string "rg"⟩]) := by decide +kernel
  have inserted : Kdl.Inserted "note" (.string "x") ["resource-group"] []
      (groupWith [⟨none, .string "rg"⟩])
      (groupWith [⟨some "note", .string "x"⟩, ⟨none, .string "rg"⟩]) :=
    .entry [] "resource-group" [] [⟨none, .string "rg"⟩] _ [] (by decide)
  have first : ofText (groupText "\"rg\"") = .ok ⟨⟨"rg", "eastus", "sub"⟩, ".landingzone", none⟩ :=
    (ofText_eq_ok_iff parsed).mpr rfl
  have second : ofText (groupText "note=\"x\" \"rg\"") =
      .ok ⟨⟨"x", "eastus", "sub"⟩, ".landingzone", none⟩ := (ofText_eq_ok_iff reread).mpr rfl
  refine ⟨parsed, reread, inserted, first, second, fun same => ?_⟩
  rw [first, second] at same
  exact absurd (Except.ok.inj same) (by decide)

end Provision
