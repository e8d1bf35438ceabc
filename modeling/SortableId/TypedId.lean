import SortableId.Generator
import SortableId.Identifier.Parse

/-!
# Typed identifiers

An identifier whose kind is fixed by its type.
-/

namespace SortableId

/-- An identifier of the given kind. -/
structure TypedId (kind : Kind) where
  id : Identifier
  kind_eq : id.kind = kind
  deriving DecidableEq

namespace TypedId

variable {kind : Kind}

/-- The identifier as one of the given kind. -/
def ofIdentifier (kind : Kind) (id : Identifier) : Except IdError (TypedId kind) :=
  if kind_eq : id.kind = kind then .ok ⟨id, kind_eq⟩ else .error (.kindMismatch kind id.kind)

/-- Reads an identifier of the given kind. -/
def parse (kind : Kind) (input : String) : Except IdError (TypedId kind) := do
  ofIdentifier kind (← Identifier.parse input)

/-- A text is converted by reading it. -/
def ofString (kind : Kind) (text : String) : Except IdError (TypedId kind) := parse kind text

/-- Makes an identifier of the given kind. -/
def generate (kind : Kind) (generator : Generator) (options : Options) (reading : Reading) :
    Except IdError (TypedId kind) × Generator :=
  let (outcome, after) := generator.generateId { kind := kind.name, options, reading }
  (outcome.bind (ofIdentifier kind), after)

/-- The written form, with or without a checksum. -/
def encode (typed : TypedId kind) (withChecksum : Bool) : String := typed.id.encode withChecksum

/-- A typed identifier is shown without its checksum. -/
instance : ToString (TypedId kind) := ⟨fun typed => toString typed.id⟩

/-- Typed identifiers are ordered as identifiers. -/
instance : Ord (TypedId kind) := ⟨fun left right => compare left.id right.id⟩

@[simp] theorem ofIdentifier_id (typed : TypedId kind) :
    ofIdentifier kind typed.id = .ok typed := by
  simp [ofIdentifier, typed.kind_eq]

end TypedId

end SortableId
