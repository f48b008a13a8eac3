/-
**Which documents hold settings.**

A document is read node by node, up to the first one that does not conform; of several nodes of one name
the last one counts, inside of a resource group as well as outside:

* `Settings.IsLast` and `Settings.LastSays` — the last node of a name, and what it says;
* `Settings.Describes` — the resource group that a node describes; `Settings.Offends` — what is wrong with
  a node; `Settings.Conforms` — nothing is (`conforms_iff`);
* `Settings.Draft.add_eq_error_iff`, `Settings.Draft.add_eq_ok` — what one node does to a draft, and
  `addAll_eq_error_iff`, `addAll_eq_ok` what all of them do;
* `Settings.ofDocument_eq_ok_iff`, `Settings.ofDocument_eq_error_iff` — the two ways in which reading ends;
* `Settings.essence` is the part of a document that is read (`Settings.ofDocument_essence`);
* **`conforming_documents_hold_settings`** puts this together.
-/

import Provision.Settings.Basic

namespace Provision

/-- The first entry of a node is a text, be it an argument or a property. -/
def Kdl.Node.Begins (node : Kdl.Node) (text : String) : Prop :=
  ∃ entry rest, node.entries = entry :: rest ∧ entry.value = .string text

theorem Kdl.Node.firstString?_eq_some_iff {node : Kdl.Node} {text : String} :
    node.firstString? = some text ↔ node.Begins text := by
  rw [firstString?, Option.bind_eq_some_iff]
  constructor
  · rintro ⟨entry, head, spelled⟩
    obtain ⟨rest, split⟩ := List.head?_eq_some_iff.mp head
    refine ⟨entry, rest, split, ?_⟩
    cases value : entry.value <;> rw [value] at spelled <;> cases spelled
    rfl
  · rintro ⟨entry, rest, split, value⟩
    exact ⟨entry, by rw [split, List.head?_cons], by rw [value, Kdl.Value.text?]⟩

namespace Settings

/-! ### The last node of a name -/

/-- A node is the last one of its name. -/
def IsLast (nodes : List Kdl.Node) (name : String) (node : Kdl.Node) : Prop :=
  ∃ before after, nodes = before ++ node :: after ∧ node.name = name ∧
    ∀ later ∈ after, later.name ≠ name

/-- The last node of a name says something; if there is none, something else holds. -/
def LastSays (nodes : List Kdl.Node) (name : String) (told : Kdl.Node → Prop) (otherwise : Prop) :
    Prop :=
  (∃ node, IsLast nodes name node ∧ told node) ∨ (∀ node ∈ nodes, node.name ≠ name) ∧ otherwise

section

variable {first node : Kdl.Node} {rest nodes : List Kdl.Node} {name : String}

theorem isLast_cons_iff : IsLast (first :: rest) name node ↔
    IsLast rest name node ∨ first = node ∧ first.name = name ∧ ∀ later ∈ rest, later.name ≠ name := by
  constructor
  · rintro ⟨before, after, split, named, none⟩
    cases before with
    | nil =>
        obtain ⟨rfl, rfl⟩ := List.cons.inj split
        exact .inr ⟨rfl, named, none⟩
    | cons earlier before => exact .inl ⟨before, after, (List.cons.inj split).2, named, none⟩
  · rintro (⟨before, after, rfl, named, none⟩ | ⟨rfl, named, none⟩)
    · exact ⟨first :: before, after, rfl, named, none⟩
    · exact ⟨[], rest, rfl, named, none⟩

theorem lastSays_nil_iff {told : Kdl.Node → Prop} {otherwise : Prop} :
    LastSays [] name told otherwise ↔ otherwise := by
  refine ⟨?_, fun holds => .inr ⟨List.forall_mem_nil _, holds⟩⟩
  rintro (⟨node, ⟨before, after, split, -⟩, -⟩ | ⟨-, holds⟩)
  · exact absurd split.symm (List.append_ne_nil_of_right_ne_nil before (List.cons_ne_nil node after))
  · exact holds

theorem isLast_iff :
    IsLast nodes name node ↔ (nodes.filter (·.name == name)).getLast? = some node := by
  rw [List.getLast?_eq_some_iff]
  constructor
  · rintro ⟨before, after, rfl, named, none⟩
    refine ⟨before.filter (·.name == name), ?_⟩
    have nothing : after.filter (·.name == name) = [] :=
      List.filter_eq_nil_iff.mpr fun later member same => none later member (eq_of_beq same)
    rw [List.filter_append, List.filter_cons, if_pos (beq_iff_eq.mpr named), nothing]
  · rintro ⟨others, kept⟩
    obtain ⟨front, back, rfl, -, ends⟩ := List.filter_eq_append_iff.mp kept
    obtain ⟨inner, after, rfl, -, named, nothing⟩ := List.filter_eq_cons_iff.mp ends
    refine ⟨front ++ inner, after, (List.append_assoc ..).symm, eq_of_beq named, ?_⟩
    intro later member same
    exact List.filter_eq_nil_iff.mp nothing later member (beq_iff_eq.mpr same)

theorem IsLast.mem (last : IsLast nodes name node) : node ∈ nodes ∧ node.name = name := by
  obtain ⟨before, after, rfl, named, -⟩ := last
  exact ⟨List.mem_append_right before List.mem_cons_self, named⟩

theorem exists_isLast (member : node ∈ nodes) (named : node.name = name) :
    ∃ last, IsLast nodes name last := by
  have kept : node ∈ nodes.filter (·.name == name) :=
    List.mem_filter.mpr ⟨member, beq_iff_eq.mpr named⟩
  exact ⟨_, isLast_iff.mpr (List.getLast?_eq_some_getLast (List.ne_nil_of_mem kept))⟩

/-- The first node of a list counts where no later one has the name. -/
theorem lastSays_cons_iff {told : Kdl.Node → Prop} {otherwise : Prop} :
    LastSays (first :: rest) name told otherwise ↔
      LastSays rest name told (if first.name = name then told first else otherwise) := by
  simp only [LastSays, isLast_cons_iff, List.forall_mem_cons]
  by_cases named : first.name = name <;> grind

/-- The last node of a name begins with a text. -/
def Says (nodes : List Kdl.Node) (name text : String) : Prop :=
  ∃ node, IsLast nodes name node ∧ node.Begins text

theorem lastString?_eq_some_iff {text : String} :
    lastString? name nodes = some text ↔ Says nodes name text := by
  rw [lastString?, Option.bind_eq_some_iff]
  exact exists_congr fun node => and_congr isLast_iff.symm Kdl.Node.firstString?_eq_some_iff

theorem lastString?_eq_none_iff : lastString? name nodes = none ↔ ∀ text, ¬ Says nodes name text := by
  rw [Option.eq_none_iff_forall_ne_some]
  exact forall_congr' fun text => not_congr lastString?_eq_some_iff

end

/-! ### What a node says -/

/-- A node describes a resource group: it begins with the name, which is not blank, and the last child of
either name begins with the region and with the subscription. -/
structure Describes (node : Kdl.Node) (group : ResourceGroup) : Prop where
  name : node.Begins group.name
  visible : Text.isBlank group.name = false
  region : Says node.children "region" group.region
  subscription : Says node.children "subscription" group.subscription

/-- What is wrong with a node. A name is asked for first, and then the region. -/
inductive Offends (node : Kdl.Node) : SettingsFault → Prop
  | unnamed (heads : node.name = "resource-group")
      (nameless : ∀ name, node.Begins name → Text.isBlank name = true) : Offends node .unnamedGroup
  | region (name : String) (heads : node.name = "resource-group") (named : node.Begins name)
      (visible : Text.isBlank name = false)
      (silent : ∀ region, ¬ Says node.children "region" region) : Offends node (.noRegion name)
  | subscription (name region : String) (heads : node.name = "resource-group")
      (named : node.Begins name) (visible : Text.isBlank name = false)
      (placed : Says node.children "region" region)
      (silent : ∀ subscription, ¬ Says node.children "subscription" subscription) :
      Offends node (.noSubscription name)
  | directory (heads : node.name = "state-dir") (silent : ∀ directory, ¬ node.Begins directory) :
      Offends node .noStateDirectory

/-- A node has all that its name asks for. -/
def Conforms (node : Kdl.Node) : Prop :=
  (node.name = "resource-group" → ∃ group, Describes node group) ∧
    (node.name = "state-dir" → ∃ directory, node.Begins directory)

section

variable {node : Kdl.Node} {nodes : List Kdl.Node} {draft after : Draft} {fault : SettingsFault}
  {group : ResourceGroup}

/-! ### Resource groups -/

theorem groupName?_eq_some_iff {name : String} :
    (node.firstString?.filter fun name => !Text.isBlank name) = some name ↔
      node.Begins name ∧ Text.isBlank name = false := by
  rw [Option.filter_eq_some_iff, Kdl.Node.firstString?_eq_some_iff, Bool.not_eq_true']

theorem groupName?_eq_none_iff :
    (node.firstString?.filter fun name => !Text.isBlank name) = none ↔
      ∀ name, node.Begins name → Text.isBlank name = true := by
  rw [Option.eq_none_iff_forall_ne_some]
  refine forall_congr' fun name => ?_
  rw [ne_eq, groupName?_eq_some_iff, not_and, Bool.not_eq_false]

theorem groupOf_eq_ok_iff : groupOf node = .ok group ↔ Describes node group := by
  constructor
  · intro read
    unfold groupOf at read
    split at read
    · cases read
    · rename_i name named
      obtain ⟨begins, visible⟩ := groupName?_eq_some_iff.mp named
      split at read
      · cases read
      · cases read
      · rename_i region subscription place owner
        cases read
        exact ⟨begins, visible, lastString?_eq_some_iff.mp place, lastString?_eq_some_iff.mp owner⟩
  · rintro ⟨begins, visible, place, owner⟩
    rw [groupOf, groupName?_eq_some_iff.mpr ⟨begins, visible⟩, lastString?_eq_some_iff.mpr place,
      lastString?_eq_some_iff.mpr owner]

theorem groupOf_eq_error_iff (heads : node.name = "resource-group") :
    groupOf node = .error fault ↔ Offends node fault := by
  constructor
  · intro read
    unfold groupOf at read
    split at read
    · rename_i nameless
      cases read
      exact .unnamed heads (groupName?_eq_none_iff.mp nameless)
    · rename_i name named
      obtain ⟨begins, visible⟩ := groupName?_eq_some_iff.mp named
      split at read
      · rename_i silent
        cases read
        exact .region name heads begins visible (lastString?_eq_none_iff.mp silent)
      · rename_i region place silent
        cases read
        exact .subscription name region heads begins visible (lastString?_eq_some_iff.mp place)
          (lastString?_eq_none_iff.mp silent)
      · cases read
  · intro offends
    cases offends with
    | unnamed heads nameless => rw [groupOf, groupName?_eq_none_iff.mpr nameless]
    | region name heads begins visible silent =>
        rw [groupOf, groupName?_eq_some_iff.mpr ⟨begins, visible⟩, lastString?_eq_none_iff.mpr silent]
    | subscription name region heads begins visible placed silent =>
        rw [groupOf, groupName?_eq_some_iff.mpr ⟨begins, visible⟩,
          lastString?_eq_some_iff.mpr placed, lastString?_eq_none_iff.mpr silent]
    | directory other silent => exact absurd (heads.symm.trans other) (by decide)

/-! ### One node -/

theorem Offends.heads (offends : Offends node fault) :
    node.name = "resource-group" ∨ node.name = "state-dir" := by
  cases offends with
  | unnamed heads => exact .inl heads
  | region _ heads => exact .inl heads
  | subscription _ _ heads => exact .inl heads
  | directory heads => exact .inr heads

theorem offends_directory_iff (heads : node.name = "state-dir") :
    Offends node fault ↔ node.firstString? = none ∧ fault = .noStateDirectory := by
  have silent : node.firstString? = none ↔ ∀ directory, ¬ node.Begins directory := by
    rw [Option.eq_none_iff_forall_ne_some]
    exact forall_congr' fun directory => not_congr Kdl.Node.firstString?_eq_some_iff
  constructor
  · intro offends
    cases offends with
    | directory _ none => exact ⟨silent.mpr none, rfl⟩
    | unnamed other => exact absurd (heads.symm.trans other) (by decide)
    | region _ other => exact absurd (heads.symm.trans other) (by decide)
    | subscription _ _ other => exact absurd (heads.symm.trans other) (by decide)
  · rintro ⟨none, rfl⟩
    exact .directory heads (silent.mp none)

theorem conforms_iff : Conforms node ↔ ∀ fault, ¬ Offends node fault := by
  constructor
  · rintro ⟨described, directed⟩ fault offends
    rcases offends.heads with heads | heads
    · obtain ⟨group, describes⟩ := described heads
      have failed := (groupOf_eq_error_iff heads).mpr offends
      rw [groupOf_eq_ok_iff.mpr describes] at failed
      cases failed
    · obtain ⟨directory, begins⟩ := directed heads
      have none := ((offends_directory_iff heads).mp offends).1
      rw [Kdl.Node.firstString?_eq_some_iff.mpr begins] at none
      cases none
  · intro sound
    constructor
    · intro heads
      cases read : groupOf node with
      | ok group => exact ⟨group, groupOf_eq_ok_iff.mp read⟩
      | error fault => exact absurd ((groupOf_eq_error_iff heads).mp read) (sound fault)
    · intro heads
      cases read : node.firstString? with
      | some directory => exact ⟨directory, Kdl.Node.firstString?_eq_some_iff.mp read⟩
      | none => exact absurd ((offends_directory_iff heads).mpr ⟨read, rfl⟩) (sound _)

theorem Draft.add_eq_error_iff : draft.add node = .error fault ↔ Offends node fault := by
  unfold Draft.add
  by_cases heads : node.name = "resource-group"
  · rw [if_pos heads, ← groupOf_eq_error_iff heads]
    cases groupOf node <;> simp
  · rw [if_neg heads]
    by_cases directs : node.name = "state-dir"
    · rw [if_pos directs, offends_directory_iff directs]
      cases node.firstString? <;> simp [eq_comm]
    · rw [if_neg directs]
      refine iff_of_false (fun failed => nomatch failed) fun offends => ?_
      exact offends.heads.elim heads directs

theorem Draft.conforms_of_add (added : draft.add node = .ok after) : Conforms node := by
  refine conforms_iff.mpr fun fault offends => ?_
  rw [Draft.add_eq_error_iff.mpr offends] at added
  cases added

/-- What a node adds: a group or a directory if it is a node for one, and otherwise nothing. -/
theorem Draft.add_eq_ok (added : draft.add node = .ok after) :
    (∀ group, after.group? = some group ↔
      if node.name = "resource-group" then Describes node group else draft.group? = some group) ∧
    ∀ directory, directory = after.stateDirectory ↔
      if node.name = "state-dir" then node.Begins directory else directory = draft.stateDirectory := by
  unfold Draft.add at added
  by_cases heads : node.name = "resource-group"
  · have other : node.name ≠ "state-dir" := by rw [heads]; decide
    rw [if_pos heads] at added
    simp only [if_pos heads, if_neg other, ← groupOf_eq_ok_iff]
    cases read : groupOf node with
    | error fault => rw [read] at added; cases added
    | ok group =>
        rw [read] at added
        cases added
        exact ⟨fun other => by simp, fun directory => .rfl⟩
  · rw [if_neg heads] at added
    simp only [if_neg heads]
    by_cases directs : node.name = "state-dir"
    · rw [if_pos directs] at added
      simp only [if_pos directs, ← Kdl.Node.firstString?_eq_some_iff]
      cases read : node.firstString? with
      | none => rw [read] at added; cases added
      | some directory =>
          rw [read] at added
          cases added
          exact ⟨fun group => .rfl, fun other => by simp [eq_comm]⟩
    · rw [if_neg directs] at added
      cases added
      simp only [if_neg directs, implies_true, and_self]

/-! ### All nodes -/

theorem Draft.addAll_eq_error_iff : draft.addAll nodes = .error fault ↔
    ∃ before node after, nodes = before ++ node :: after ∧ (∀ earlier ∈ before, Conforms earlier) ∧
      Offends node fault := by
  induction nodes generalizing draft with
  | nil =>
      refine iff_of_false (fun failed => nomatch failed) ?_
      rintro ⟨before, node, after, split, -⟩
      exact List.append_ne_nil_of_right_ne_nil before (List.cons_ne_nil node after) split.symm
  | cons first rest hyp =>
      rw [Draft.addAll]
      cases added : draft.add first with
      | error found =>
          -- the first node is at fault, so the fault is at the front
          constructor
          · rintro ⟨rfl⟩
            exact ⟨[], first, rest, rfl, List.forall_mem_nil _, Draft.add_eq_error_iff.mp added⟩
          · rintro ⟨before, node, after, split, sound, offends⟩
            cases before with
            | nil =>
                obtain ⟨rfl, -⟩ := List.cons.inj split
                rw [← added, Draft.add_eq_error_iff.mpr offends]
            | cons earlier before =>
                obtain ⟨rfl, -⟩ := List.cons.inj split
                exact absurd (Draft.add_eq_error_iff.mp added)
                  (conforms_iff.mp (sound first List.mem_cons_self) found)
      | ok later =>
          -- the first node conforms, so any fault is among the others
          have conforms := Draft.conforms_of_add added
          refine hyp.trans ⟨?_, ?_⟩
          · rintro ⟨before, node, after, rfl, sound, offends⟩
            exact ⟨first :: before, node, after, rfl, List.forall_mem_cons.mpr ⟨conforms, sound⟩,
              offends⟩
          · rintro ⟨before, node, after, split, sound, offends⟩
            cases before with
            | nil =>
                obtain ⟨rfl, -⟩ := List.cons.inj split
                exact absurd offends (conforms_iff.mp conforms fault)
            | cons earlier before =>
                exact ⟨before, node, after, (List.cons.inj split).2,
                  (List.forall_mem_cons.mp sound).2, offends⟩

theorem Draft.addAll_eq_ok (added : draft.addAll nodes = .ok after) :
    (∀ node ∈ nodes, Conforms node) ∧
    (∀ group, after.group? = some group ↔
      LastSays nodes "resource-group" (Describes · group) (draft.group? = some group)) ∧
    ∀ directory, directory = after.stateDirectory ↔
      LastSays nodes "state-dir" (·.Begins directory) (directory = draft.stateDirectory) := by
  induction nodes generalizing draft with
  | nil =>
      cases added
      simp [lastSays_nil_iff]
  | cons first rest hyp =>
      rw [Draft.addAll] at added
      cases step : draft.add first with
      | error found => rw [step] at added; cases added
      | ok later =>
          rw [step] at added
          obtain ⟨sound, groups, directories⟩ := hyp added
          obtain ⟨group, directory⟩ := Draft.add_eq_ok step
          refine ⟨List.forall_mem_cons.mpr ⟨Draft.conforms_of_add step, sound⟩, fun described => ?_,
            fun directed => ?_⟩
          · rw [groups, lastSays_cons_iff, group]
          · rw [directories, lastSays_cons_iff, directory]

theorem Draft.not_conforms_of_addAll (added : draft.addAll nodes = .error fault) :
    ¬ ∀ node ∈ nodes, Conforms node := by
  obtain ⟨before, node, after, rfl, -, offends⟩ := Draft.addAll_eq_error_iff.mp added
  intro sound
  exact conforms_iff.mp (sound node (List.mem_append_right before List.mem_cons_self)) fault offends

/-! ### Documents -/

variable {document : List Kdl.Node} {settings : Settings}

/-- Without a fault, the nodes have a group just where there is a node for one. -/
theorem Draft.group?_eq_none_iff (added : Draft.addAll {} document = .ok draft) :
    draft.group? = none ↔ ∀ node ∈ document, node.name ≠ "resource-group" := by
  obtain ⟨sound, groups, -⟩ := Draft.addAll_eq_ok added
  rw [Option.eq_none_iff_forall_ne_some]
  constructor
  · intro without node member heads
    obtain ⟨last, isLast⟩ := exists_isLast member heads
    obtain ⟨within, named⟩ := isLast.mem
    obtain ⟨group, describes⟩ := (sound last within).1 named
    exact without group ((groups group).mpr (.inl ⟨last, isLast, describes⟩))
  · intro without group found
    rcases (groups group).mp found with ⟨last, isLast, -⟩ | ⟨-, initially⟩
    · exact without last isLast.mem.1 isLast.mem.2
    · cases initially

theorem ofDocument_eq_error_iff : ofDocument document = .error fault ↔
    (∃ before node after, document = before ++ node :: after ∧
      (∀ earlier ∈ before, Conforms earlier) ∧ Offends node fault) ∨
    (∀ node ∈ document, Conforms node) ∧ (∀ node ∈ document, node.name ≠ "resource-group") ∧
      fault = .noGroup := by
  rw [← Draft.addAll_eq_error_iff, ofDocument]
  cases added : Draft.addAll {} document with
  | error found =>
      simp only [Except.error.injEq]
      refine (or_iff_left ?_).symm
      rintro ⟨sound, -⟩
      exact Draft.not_conforms_of_addAll added sound
  | ok draft =>
      have sound := (Draft.addAll_eq_ok added).1
      have without := Draft.group?_eq_none_iff added
      simp only [← without]
      cases draft.group? with
      | none => simpa [eq_comm] using fun _ => sound
      | some group => simp

theorem ofDocument_eq_ok_iff : ofDocument document = .ok settings ↔
    (∀ node ∈ document, Conforms node) ∧
    (∃ node, IsLast document "resource-group" node ∧ Describes node settings.group) ∧
    LastSays document "state-dir" (·.Begins settings.stateDirectory)
      (settings.stateDirectory = ".landingzone") ∧
    settings.source? = none := by
  rw [ofDocument]
  cases added : Draft.addAll {} document with
  | error found =>
      have faulty := Draft.not_conforms_of_addAll added
      exact iff_of_false (fun read => nomatch read) fun holds => faulty holds.1
  | ok draft =>
      obtain ⟨sound, groups, directories⟩ := Draft.addAll_eq_ok added
      have described : draft.group? = some settings.group ↔
          ∃ node, IsLast document "resource-group" node ∧ Describes node settings.group := by
        refine (groups settings.group).trans (or_iff_left ?_)
        rintro ⟨-, ⟨⟩⟩
      have directed : settings.stateDirectory = draft.stateDirectory ↔
          LastSays document "state-dir" (·.Begins settings.stateDirectory)
            (settings.stateDirectory = ".landingzone") := directories settings.stateDirectory
      rw [← described, ← directed, and_iff_right sound]
      obtain ⟨group, directory, source⟩ := settings
      dsimp only
      cases draft.group? with
      | none => simp
      | some found => simp [eq_comm]

/-- Settings are read from a document with a node for a group in which every node conforms. -/
theorem exists_settings_iff : (∃ settings, ofDocument document = .ok settings) ↔
    (∃ node ∈ document, node.name = "resource-group") ∧ ∀ node ∈ document, Conforms node := by
  constructor
  · rintro ⟨settings, read⟩
    obtain ⟨sound, ⟨node, last, -⟩, -⟩ := ofDocument_eq_ok_iff.mp read
    exact ⟨⟨node, last.mem⟩, sound⟩
  · rintro ⟨⟨node, member, heads⟩, sound⟩
    cases read : ofDocument document with
    | ok settings => exact ⟨settings, rfl⟩
    | error fault =>
        rcases ofDocument_eq_error_iff.mp read with ⟨before, bad, after, rfl, -, offends⟩ | ⟨-, none, -⟩
        · exact absurd offends
            (conforms_iff.mp (sound bad (List.mem_append_right before List.mem_cons_self)) fault)
        · exact absurd heads (none node member)

end

/-! ### What counts in a document -/

/-- What counts of a node that only begins with a text. -/
def bare (node : Kdl.Node) : Kdl.Node := .mk node.name (node.entries.take 1) []

/-- What counts of the children of a resource group. -/
def particulars (children : List Kdl.Node) : List Kdl.Node :=
  (children.filter fun child => child.name = "region" ∨ child.name = "subscription").map bare

/-- What counts of a node at the top of a document. -/
def essential (node : Kdl.Node) : Kdl.Node :=
  .mk node.name (node.entries.take 1)
    (if node.name = "resource-group" then particulars node.children else [])

/-- What counts of a document: the nodes for the group and the directory, with their first entries and,
for the group, the children for its region and its subscription. -/
def essence (document : List Kdl.Node) : List Kdl.Node :=
  (document.filter fun node => node.name = "resource-group" ∨ node.name = "state-dir").map essential

section

variable (node : Kdl.Node) (nodes : List Kdl.Node) (draft : Draft)

theorem firstString?_take (children : List Kdl.Node) :
    (Kdl.Node.mk node.name (node.entries.take 1) children).firstString? = node.firstString? := by
  rw [Kdl.Node.firstString?, Kdl.Node.firstString?, Kdl.Node.entries, List.head?_take,
    if_neg Nat.one_ne_zero]

/-- Nodes of other names do not count, and of the others only what they begin with. -/
theorem lastString?_bare {name : String} {keep : Kdl.Node → Bool}
    (kept : ∀ node, node.name = name → keep node = true) :
    lastString? name ((nodes.filter keep).map bare) = lastString? name nodes := by
  have named : ((fun node => node.name == name) ∘ bare) = fun node => node.name == name := rfl
  have both : ∀ node ∈ nodes, ((node.name == name) && keep node) = (node.name == name) := by
    intro node _
    cases same : node.name == name with
    | false => rfl
    | true => rw [kept node (eq_of_beq same), Bool.and_self]
  rw [lastString?, lastString?, List.filter_map, List.filter_filter, named, List.filter_congr both,
    List.getLast?_map, Option.bind_map]
  exact congrArg _ (funext fun node => firstString?_take node [])

theorem groupOf_essential (heads : node.name = "resource-group") :
    groupOf (essential node) = groupOf node := by
  rw [essential, if_pos heads, groupOf, groupOf, firstString?_take, Kdl.Node.children, particulars,
    lastString?_bare _ (by simp +contextual), lastString?_bare _ (by simp +contextual)]

theorem Draft.add_essential : draft.add (essential node) = draft.add node := by
  have name : (essential node).name = node.name := rfl
  have first : (essential node).firstString? = node.firstString? := firstString?_take node _
  rw [Draft.add, Draft.add, name, first]
  by_cases heads : node.name = "resource-group"
  · rw [groupOf_essential node heads]
  · rw [if_neg heads, if_neg heads]

theorem Draft.addAll_map {view : Kdl.Node → Kdl.Node}
    (same : ∀ (draft : Draft) node, draft.add (view node) = draft.add node) :
    draft.addAll (nodes.map view) = draft.addAll nodes := by
  induction nodes generalizing draft with
  | nil => rfl
  | cons first rest hyp =>
      rw [List.map_cons, Draft.addAll, Draft.addAll, same]
      cases draft.add first with
      | error fault => rfl
      | ok after => exact hyp after

theorem Draft.addAll_filter {keep : Kdl.Node → Bool}
    (ignored : ∀ (draft : Draft) node, keep node = false → draft.add node = .ok draft) :
    draft.addAll (nodes.filter keep) = draft.addAll nodes := by
  induction nodes generalizing draft with
  | nil => rfl
  | cons first rest hyp =>
      rw [List.filter_cons, Draft.addAll]
      cases kept : keep first with
      | false =>
          rw [ignored draft first kept, if_neg Bool.false_ne_true]
          exact hyp draft
      | true =>
          rw [if_pos rfl, Draft.addAll]
          cases draft.add first with
          | error fault => rfl
          | ok after => exact hyp after

/-- **Nothing else in a document counts.** -/
theorem ofDocument_essence : ofDocument (essence nodes) = ofDocument nodes := by
  have ignored : ∀ (draft : Draft) (node : Kdl.Node),
      decide (node.name = "resource-group" ∨ node.name = "state-dir") = false →
        draft.add node = .ok draft := by
    intro draft node other
    rw [decide_eq_false_iff_not, not_or] at other
    rw [Draft.add, if_neg other.1, if_neg other.2]
  rw [ofDocument, ofDocument, essence, Draft.addAll_map _ _ fun draft node => draft.add_essential node,
    Draft.addAll_filter _ _ ignored]

end

theorem ofText_of_read {text : String} {document : Kdl.Document}
    (parsed : Kdl.read? text = some document) :
    ofText text = (ofDocument document).mapError .invalid := by
  rw [ofText, parsed]
  dsimp only
  cases ofDocument document <;> rfl

theorem ofText_eq_ok_iff {text : String} {document : Kdl.Document} {settings : Settings}
    (parsed : Kdl.read? text = some document) :
    ofText text = .ok settings ↔ ofDocument document = .ok settings := by
  rw [ofText, parsed]
  dsimp only
  cases ofDocument document <;> simp

theorem ofText_eq_error_iff {text : String} {document : Kdl.Document} {error : SettingsError}
    (parsed : Kdl.read? text = some document) :
    ofText text = .error error ↔ ∃ fault, ofDocument document = .error fault ∧ error = .invalid fault := by
  rw [ofText, parsed]
  dsimp only
  cases ofDocument document <;> simp [eq_comm]

end Settings

open Settings in
/-- **A document holds settings exactly if each node conforms and one is for a resource group.** The group
is that of the last such node, the directory that of the last node for one, and nothing else in the
document counts. Otherwise the error is that of the first node that does not conform; that there is no
group is an error only where all nodes do. -/
theorem conforming_documents_hold_settings {text : String} {document : Kdl.Document}
    (parsed : Kdl.read? text = some document) :
    ((∃ settings, ofText text = .ok settings) ↔
      (∃ node ∈ document, node.name = "resource-group") ∧ ∀ node ∈ document, Conforms node) ∧
    (∀ settings, ofText text = .ok settings ↔
      (∀ node ∈ document, Conforms node) ∧
      (∃ node, IsLast document "resource-group" node ∧ Describes node settings.group) ∧
      LastSays document "state-dir" (·.Begins settings.stateDirectory)
        (settings.stateDirectory = ".landingzone") ∧
      settings.source? = none) ∧
    (∀ error, ofText text = .error error ↔
      (∃ before node after fault, document = before ++ node :: after ∧
        (∀ earlier ∈ before, Conforms earlier) ∧ Offends node fault ∧ error = .invalid fault) ∨
      (∀ node ∈ document, Conforms node) ∧ (∀ node ∈ document, node.name ≠ "resource-group") ∧
        error = .invalid .noGroup) ∧
    ∀ other edited, Kdl.read? other = some edited → essence edited = essence document →
      ofText other = ofText text := by
  refine ⟨?_, fun settings => (ofText_eq_ok_iff parsed).trans ofDocument_eq_ok_iff, ?_, ?_⟩
  · rw [← exists_settings_iff]
    exact exists_congr fun settings => ofText_eq_ok_iff parsed
  · intro error
    rw [ofText_eq_error_iff parsed]
    constructor
    · rintro ⟨fault, failed, rfl⟩
      rcases ofDocument_eq_error_iff.mp failed with ⟨before, node, after, split, sound, offends⟩ | none
      · exact .inl ⟨before, node, after, fault, split, sound, offends, rfl⟩
      · exact .inr ⟨none.1, none.2.1, by rw [none.2.2]⟩
    · rintro (⟨before, node, after, fault, split, sound, offends, rfl⟩ | ⟨sound, none, rfl⟩)
      · exact ⟨fault, ofDocument_eq_error_iff.mpr (.inl ⟨before, node, after, split, sound, offends⟩),
          rfl⟩
      · exact ⟨.noGroup, ofDocument_eq_error_iff.mpr (.inr ⟨sound, none, rfl⟩), rfl⟩
  · intro other edited read same
    rw [ofText_of_read read, ofText_of_read parsed, ← ofDocument_essence edited, same,
      ofDocument_essence]

/-- A document with two nodes for a group, the second of which has two children for its region. -/
def revised : Kdl.Document :=
  [.mk "resource-group" [⟨none, .string "draft"⟩]
      [.mk "region" [⟨none, .string "west"⟩] [], .mk "subscription" [⟨none, .string "a"⟩] []],
    .mk "owner" [⟨none, .number "7"⟩] [],
    .mk "resource-group" [⟨none, .string "rg"⟩, ⟨none, .bool true⟩]
      [.mk "region" [⟨none, .null⟩] [], .mk "region" [⟨none, .string "east"⟩] [],
        .mk "subscription" [⟨none, .string "b"⟩] []]]

/-- The text of `revised`. -/
def revisedText : String :=
  "resource-group draft \x7b region west; subscription a; \x7d\n" ++ "owner 7\n" ++
    "resource-group rg #true \x7b region #null; region east; subscription b; \x7d\n"

/-- The text of `revised` without a node and an entry that do not count. -/
def shortenedText : String :=
  "resource-group draft \x7b region west; subscription a; \x7d\n" ++
    "resource-group rg \x7b region #null; region east; subscription b; \x7d\n"

open Settings in
/-- The second group counts, and of the children for its region the second. -/
theorem revised_document_holds_settings :
    let settings : Settings := ⟨⟨"rg", "east", "b"⟩, ".landingzone", none⟩
    (Kdl.read? revisedText = some revised ∧ ofText revisedText = .ok settings ∧
      (∀ node ∈ revised, Conforms node) ∧
      (∃ node, IsLast revised "resource-group" node ∧ Describes node settings.group) ∧
      LastSays revised "state-dir" (·.Begins settings.stateDirectory)
        (settings.stateDirectory = ".landingzone")) ∧
    ∃ edited, Kdl.read? shortenedText = some edited ∧ essence edited = essence revised ∧
      ofText shortenedText = ofText revisedText := by
  have parsed : Kdl.read? revisedText = some revised := by decide +kernel
  have shortened : Kdl.read? shortenedText = some (essence revised) := by decide +kernel
  have once : essence (essence revised) = essence revised := by decide +kernel
  obtain ⟨-, decided, -, unchanged⟩ := conforming_documents_hold_settings parsed
  have read : ofText revisedText = .ok ⟨⟨"rg", "east", "b"⟩, ".landingzone", none⟩ :=
    (ofText_eq_ok_iff parsed).mpr rfl
  obtain ⟨conform, group, directory, -⟩ := (decided _).mp read
  exact ⟨⟨parsed, read, conform, group, directory⟩, essence revised, shortened, once,
    unchanged shortenedText _ shortened once⟩

end Provision
