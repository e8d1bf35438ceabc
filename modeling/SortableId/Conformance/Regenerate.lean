import SortableId.Conformance.Case

/-!
# Regenerating conformance cases

The text of every case that expects no error is replaced by what its values encode to, with a
checksum exactly where there was one.  The first case that cannot be encoded stops the work: the
cases before it are replaced already, the others stay as they were.
-/

namespace SortableId.Conformance

/-- A text that was replaced. -/
structure Update where
  description : String
  old : String
  new : String
  deriving DecidableEq

/-- The cases with their texts replaced, and the replacements in order or the error that stopped
them. -/
def regenerateCases : List Case → List Case × Except IdError (List Update)
  | [] => ([], .ok [])
  | item :: later =>
      if item.expectError then
        let (others, outcome) := regenerateCases later
        (item :: others, outcome)
      else
        match item.encode with
        | .error error => (item :: later, .error error)
        | .ok encoded =>
            let (others, outcome) := regenerateCases later
            if encoded = item.id then
              (item :: others, outcome)
            else
              ({ item with id := encoded } :: others,
                outcome.map (⟨item.description, item.id, encoded⟩ :: ·))

/-- The suite with its texts replaced, and the replacements or the error that stopped them. -/
def Suite.regenerate (suite : Suite) : Suite × Except IdError (List Update) :=
  let (cases, outcome) := regenerateCases suite.cases
  ({ cases }, outcome)

end SortableId.Conformance
