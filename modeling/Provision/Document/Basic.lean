/-
**Documents.**

Values are kept and exchanged as JSON documents:

* `Document` says how the values of a type are written as documents and read back;
* `Document.ofText?` reads a text, `Document.ofBytes?` the contents of a file.
-/

import Provision.Instant.Reading
import Provision.Json.Fields
import Provision.Json.Layout

namespace Provision

/-- How values are written as documents and read back. -/
class Document (α : Type) where
  /-- The document of a value. -/
  encode : α → Json
  /-- The value that a document is of. -/
  decode? : Json.Tree → Option α

namespace Document

/-- The value whose document a text spells. -/
def ofText? {α : Type} [Document α] (text : String) : Option α := (Json.ofText? text).bind decode?

/-- The value whose document the contents of a file spell. -/
def ofBytes? {α : Type} [Document α] (bytes : Bytes) : Option α :=
  (Json.ofBytes? bytes).bind decode?

/-- The contents of a file that holds the document of a value. -/
def toBytes {α : Type} [Document α] (value : α) : Bytes :=
  Utf8.encode (Json.prettyAt 0 (encode value))

/-- A field of a record, left out when there is nothing to write. -/
def optionalField {α : Type} [Document α] (name : String) (items : List α) :
    List (String × Json) :=
  if items.isEmpty then [] else [(name, .array (items.map encode))]

instance : Document String where
  encode := .string
  decode? := Json.Tree.text?

instance : Document Json where
  encode := id
  decode? := Json.Tree.value? Json.Tree.maximumDepth

instance {α : Type} [Document α] : Document (List α) where
  encode := fun items => .array (items.map encode)
  decode? := Json.Tree.list? decode?

instance {α : Type} [Document α] : Document (Option α) where
  encode := fun value => (value.map encode).getD .null
  decode? := Json.Tree.nullable? decode?

instance {α β : Type} [Document α] [Document β] : Document (α × β) where
  encode := fun pair => .array [encode pair.1, encode pair.2]
  decode? := Json.Tree.pair? decode? decode?

instance : Document Instant where
  encode := fun instant => .string instant.text
  decode? := fun tree => tree.text?.bind Instant.ofText?

end Document

end Provision
