/-
**KDL documents.**

A KDL document is a list of nodes. A node has a name, entries in the order in which they stand, and
possibly children:

* `Kdl.Entry` is a value, with a key if it is a property;
* `Kdl.Node` is a node;
* `Kdl.Node.firstString?` is the text that a node is about.
-/

namespace Provision.Kdl

/-- A value. -/
inductive Value where
  | string (text : String)
  /-- A number as it is spelled. -/
  | number (spelling : String)
  | bool (value : Bool)
  | null
  deriving DecidableEq, Repr

/-- A value of a node, with a key if it is a property. -/
structure Entry where
  key? : Option String := none
  value : Value
  deriving DecidableEq, Repr

/-- A node. -/
inductive Node where
  | mk (name : String) (entries : List Entry) (children : List Node)
  deriving Repr

mutual

/-- Whether two nodes are equal. -/
def Node.decideEq : (node other : Node) → Decidable (node = other)
  | .mk name entries children, .mk otherName otherEntries otherChildren =>
    have := Node.decideEqAll children otherChildren
    decidable_of_iff (name = otherName ∧ entries = otherEntries ∧ children = otherChildren)
      (by rw [Node.mk.injEq])

/-- Whether nodes are equal, one after the other. -/
def Node.decideEqAll : (nodes others : List Node) → Decidable (nodes = others)
  | [], [] => .isTrue rfl
  | [], _ :: _ => .isFalse (nomatch ·)
  | _ :: _, [] => .isFalse (nomatch ·)
  | node :: rest, other :: others =>
    have := Node.decideEq node other
    have := Node.decideEqAll rest others
    decidable_of_iff (node = other ∧ rest = others) (by rw [List.cons.injEq])

end

instance : DecidableEq Node := Node.decideEq

/-- A document. -/
abbrev Document := List Node

/-- The text of a value that is one. -/
def Value.text? : Value → Option String
  | string text => some text
  | _ => none

namespace Node

/-- The name of a node. -/
def name : Node → String
  | mk name _ _ => name

/-- The arguments and properties of a node. -/
def entries : Node → List Entry
  | mk _ entries _ => entries

/-- The nodes inside a node. -/
def children : Node → List Node
  | mk _ _ children => children

/-- The text of the first entry of a node, be it an argument or a property. -/
def firstString? (node : Node) : Option String := node.entries.head?.bind (·.value.text?)

end Node

end Provision.Kdl
