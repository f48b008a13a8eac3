/-
**Reading records.**

A record is written as an object of its fields. It may also be given as the array of its fields in
order, and an enumerated word as an object with that word as its only key:

* `Fields.ofTree?` finds the fields of a record: unknown ones are ignored, a repeated one is refused;
* `Fields.required?`, `Fields.optional?` and `Fields.defaulted?` read one of them;
* `Tree.list?`, `Tree.map?`, `Tree.word?` and their like read what a field holds.
-/

import Provision.Json.Reader

namespace Provision.Json

namespace Tree

/-- The items of an array, each read in the same way. -/
def list? {α : Type} (read? : Tree → Option α) : Tree → Option (List α)
  | array items => items.mapM read?
  | _ => none

/-- The pair that an array of two spells. -/
def pair? {α β : Type} (first? : Tree → Option α) (second? : Tree → Option β) :
    Tree → Option (α × β)
  | array [first, second] => do pure (← first? first, ← second? second)
  | _ => none

/-- A value, or `none` for `null`. -/
def nullable? {α : Type} (read? : Tree → Option α) : Tree → Option (Option α)
  | null => some none
  | other => (read? other).map some

/-- The keys and values of an object in which all members are read in the same way. -/
def map? {κ α : Type} (key? : String → Option κ) (read? : Tree → Option α) :
    Tree → Option (List (κ × α))
  | object members => members.mapM fun member => do
      let name ← bodyText? member.1
      pure (← key? name, ← read? member.2)
  | _ => none

/-- What a word stands for; the word may also be the only key of an object, with `null` as its
value. -/
def word? {α : Type} (ofWord? : String → Option α) : Tree → Option α
  | string body => (bodyText? body).bind ofWord?
  | object [(key, null)] => (bodyText? key).bind ofWord?
  | _ => none

end Tree

/-- The fields of a record that were found in a document. -/
structure Fields where
  /-- Whether the record was given as an array. -/
  positional : Bool
  found : List (String × Tree)

namespace Fields

/-- The members of an object whose keys are among the names of fields; a key that is no text or a
name that is repeated makes the object no record. -/
def select? (names : List String) : List (Source × Tree) → Option (List (String × Tree))
  | [] => some []
  | (key, item) :: rest => do
    let name ← bodyText? key
    let others ← select? names rest
    if name ∈ names then
      if (others.lookup name).isSome then none else pure ((name, item) :: others)
    else pure others

/-- The fields with given names, as far as a document has them. -/
def ofTree? (names : List String) : Tree → Option Fields
  | .array items => if items.length ≤ names.length then some ⟨true, names.zip items⟩ else none
  | .object members => (select? names members).map (⟨false, ·⟩)
  | _ => none

/-- A field that has to be there. -/
def required? {α : Type} (fields : Fields) (name : String) (read? : Tree → Option α) : Option α :=
  (fields.found.lookup name).bind read?

/-- A field that may be missing from an object. -/
def optional? {α : Type} (fields : Fields) (name : String) (read? : Tree → Option α) :
    Option (Option α) :=
  match fields.found.lookup name with
  | some item => item.nullable? read?
  | none => if fields.positional then none else some none

/-- A field that has a value of its own when it is missing. -/
def defaulted? {α : Type} (fields : Fields) (name : String) (standard : α)
    (read? : Tree → Option α) : Option α :=
  match fields.found.lookup name with
  | some item => read? item
  | none => some standard

end Fields

end Provision.Json
