import SortableId.Json.Skip

/-!
# Records

A record type is described by its fields in order.  A value of the type is read from a JSON record,
whose members may come in any order and may hold others beside the fields, or from a JSON list that
gives the fields in order and may stop early.  Fields that are absent keep the value that the record
starts with, unless they are required.
-/

namespace SortableId.Json

/-- A field of a record type, and how its value is put into a record. -/
structure Field (Rec : Type) where
  name : String
  required : Bool := false
  read : Reader (Rec → Rec)

/-- The field with the given name whose value is read by a reader and put into the record. -/
def Field.of {Rec α : Type} (name : String) (reader : Reader α) (put : α → Rec → Rec) :
    Field Rec where
  name := name
  read := put <$> reader

/-- The same field, which may not be absent. -/
def Field.asRequired {Rec : Type} (field : Field Rec) : Field Rec :=
  { field with required := true }

/-- A record type: its name, the record without any field read, and the fields. -/
structure Shape (Rec : Type) where
  name : String
  initial : Rec
  fields : List (Field Rec)

namespace Shape

variable {Rec : Type}

/-- How an error names a record type. -/
def wanted (shape : Shape Rec) : String := "struct " ++ shape.name

/-- How an error names a record type whose list of fields is too short. -/
def wantedLength (shape : Shape Rec) : String :=
  let count := shape.fields.length
  shape.wanted ++ " with " ++ toString count ++ (if count = 1 then " element" else " elements")

/-- The field with the given name. -/
def field? (shape : Shape Rec) (name : String) : Option (Field Rec) :=
  shape.fields.find? fun field => field.name == name

/-- Checks that no required field is absent. -/
def checkPresent (shape : Shape Rec) (seen : List String) : Reader Unit :=
  match shape.fields.find? fun field => field.required && !seen.contains field.name with
  | some field => Reader.refuse (.missingField field.name)
  | none => return ()

/-- Reads the members from the next one on, of which the named ones have been seen. -/
def readMembers (shape : Shape Rec) (fuel : Nat) (first : Bool) (seen : List String)
    (value : Rec) : Reader Rec :=
  match fuel with
  | 0 => Reader.fail .malformed
  | fuel + 1 => do
      match ← Reader.moreMembers first with
      | none =>
          shape.checkPresent seen
          return value
      | some name =>
          match shape.field? name with
          | none =>
              Reader.colon
              Reader.skip
              shape.readMembers fuel false seen value
          | some field =>
              if seen.contains name then
                Reader.refuse (.duplicateField name)
              else
                Reader.colon
                let update ← field.read
                shape.readMembers fuel false (name :: seen) (update value)

/-- Takes the bracket that closes a list whose fields have all been read. -/
def endItems : Reader Unit := fun text =>
  match Reader.fromToken text with
  | [] => .error .truncated
  | ']' :: rest => .ok ((), rest)
  | _ => .error .malformed

/-- Reads the given fields, of which the first has the given index, from the items of a list. -/
def readItems (shape : Shape Rec) (index : Nat) (value : Rec) : List (Field Rec) → Reader Rec
  | [] => do
      endItems
      return value
  | field :: others => do
      if ← Reader.moreItems (index == 0) then
        let update ← field.read
        shape.readItems (index + 1) (update value) others
      else
        match (field :: others).findIdx? (·.required) with
        | some ahead => Reader.refuse (.wrongLength (index + ahead) shape.wantedLength)
        | none => return value

/-- Reads a record.  Every member takes at least one character, so the length of the text bounds
their number. -/
def read (shape : Shape Rec) : Reader Rec := do
  match ← Reader.head with
  | .record => fun text => shape.readMembers (text.length + 1) true [] shape.initial text
  | .list => shape.readItems 0 shape.initial shape.fields
  | found => Reader.refuse (.wrongType found shape.wanted)

end Shape

end SortableId.Json
