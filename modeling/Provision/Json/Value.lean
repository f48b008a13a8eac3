/-
**JSON values.**

Settings of a resource that only the provider understands are passed through as JSON values:

* `Json` is a value; the members of an object stand in the order in which they are written;
* `Json.Number` keeps whole numbers apart from decimal ones;
* `Json.setMember` and `Json.member?` are how a single setting is written and read.
-/

namespace Provision

/-- A JSON number. -/
inductive Json.Number where
  /-- A whole number that fits into sixty-four bits, signed or unsigned. -/
  | integer (value : Int)
  /-- Any other number, the digits times ten to the exponent. -/
  | decimal (negative : Bool) (digits : Nat) (exponent : Int)
  deriving DecidableEq, Repr

/-- A JSON value. -/
inductive Json where
  | null
  | bool (value : Bool)
  | number (value : Json.Number)
  | string (text : String)
  | array (items : List Json)
  | object (members : List (String × Json))
  deriving Repr, Inhabited

namespace Json

/-- A whole number as a value. -/
def ofInt (value : Int) : Json := .number (.integer value)

/-- A count as a value. -/
def ofNat (value : Nat) : Json := ofInt value

/-- A list of texts as a value. -/
def ofStrings (texts : List String) : Json := .array (texts.map .string)

/-- The members with one of them set: it replaces the one with its key, else it goes in front of the
first greater key. -/
def insertMember (key : String) (value : Json) : List (String × Json) → List (String × Json)
  | [] => [(key, value)]
  | (other, old) :: rest =>
    if other = key then (key, value) :: rest
    else if key < other then (key, value) :: (other, old) :: rest
    else (other, old) :: insertMember key value rest

/-- The members in the order of their keys; of a repeated key the last value counts. -/
def sortMembers (members : List (String × Json)) : List (String × Json) :=
  members.foldl (fun sorted member => insertMember member.1 member.2 sorted) []

/-- An object with one member set; a value that is no object stays as it is. -/
def setMember (settings : Json) (key : String) (value : Json) : Json :=
  match settings with
  | object members => object (insertMember key value members)
  | other => other

/-- The value of a member of an object. -/
def member? (key : String) : Json → Option Json
  | object members => members.lookup key
  | _ => none

end Json

end Provision
