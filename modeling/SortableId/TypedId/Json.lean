import SortableId.Json.Document
import SortableId.Json.Reader
import SortableId.TypedId

/-!
# Typed identifiers as JSON

A typed identifier is written as a text without a checksum and read from any text that spells an
identifier of its kind.
-/

namespace SortableId.TypedId

variable {kind : Kind}

/-- The document of a typed identifier. -/
def toJson (typed : TypedId kind) : Json := .text (typed.encode false)

/-- Reads a typed identifier. -/
def reader (kind : Kind) : Json.Reader (TypedId kind) := do
  match parse kind (← Json.Reader.text) with
  | .ok typed => return typed
  | .error error => Json.Reader.refuse (.refused error.message)

/-- The typed identifier that a text holds. -/
def ofJson (kind : Kind) (text : String) : Except Json.Error (TypedId kind) :=
  (reader kind).run text

end SortableId.TypedId
