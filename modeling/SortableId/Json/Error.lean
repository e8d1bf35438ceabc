import SortableId.Decimal.Shortest
import SortableId.Text.Quoted

/-!
# Reading errors

Why a text does not give a value of the wanted type.  A text can fail to be JSON, it can end too
early, or it can be well-formed so far and still hold something else than was wanted.
-/

namespace SortableId.Json

/-- A number as it was read.  Whole numbers that fit a signed or unsigned word of 64 bits are kept;
all others, and minus zero, become binary floating-point numbers. -/
inductive Number where
  | integer (value : Int)
  | binary (negative : Bool) (magnitude : Binary64)
  deriving DecidableEq, Repr

/-- The first token of a value: all of a scalar, or the bracket that opens a list or a record. -/
inductive Head where
  | null
  | boolean (value : Bool)
  | number (value : Number)
  | text (value : String)
  | list
  | record
  deriving DecidableEq, Repr

/-- Floating-point numbers are shown with all places if the first digit has an exponent from `-5`
to `15`, and with an exponent otherwise. -/
def numberFormat : Decimal.Format := ⟨-5, 15⟩

namespace Head

/-- How an error names what was found. -/
def describe : Head → String
  | null => "null"
  | boolean true => "boolean `true`"
  | boolean false => "boolean `false`"
  | number (.integer value) => "integer `" ++ toString value ++ "`"
  | number (.binary negative magnitude) =>
      "floating point `" ++ (if negative then "-" else "") ++
        Decimal.text numberFormat magnitude ++ "`"
  | text value => "string " ++ Text.Quoted.text value
  | list => "sequence"
  | record => "map"

end Head

/-- Why well-formed JSON is not of the wanted type. -/
inductive Mismatch where
  /-- Something of another type was found. -/
  | wrongType (found : Head) (wanted : String)
  /-- The number is outside the range of the wanted type. -/
  | outOfRange (value : Int) (wanted : String)
  /-- A member occurs twice. -/
  | duplicateField (name : String)
  /-- A member that has no default is absent. -/
  | missingField (name : String)
  /-- A list that stands for a record ends before an item that has no default. -/
  | wrongLength (length : Nat) (wanted : String)
  /-- The value was refused for a reason of its own. -/
  | refused (reason : String)
  deriving DecidableEq, Repr

namespace Mismatch

/-- The wording of a mismatch. -/
def message : Mismatch → String
  | wrongType found wanted => "invalid type: " ++ found.describe ++ ", expected " ++ wanted
  | outOfRange value wanted =>
      "invalid value: " ++ (Head.number (.integer value)).describe ++ ", expected " ++ wanted
  | duplicateField name => "duplicate field `" ++ name ++ "`"
  | missingField name => "missing field `" ++ name ++ "`"
  | wrongLength length wanted =>
      "invalid length " ++ toString length ++ ", expected " ++ wanted
  | refused reason => reason

end Mismatch

/-- Why a text does not give a value of the wanted type. -/
inductive Error where
  /-- The text is not JSON, or something follows the value. -/
  | malformed
  /-- The text ends too early. -/
  | truncated
  /-- The text is JSON as far as it was read, but of another type. -/
  | mismatch (cause : Mismatch)
  deriving DecidableEq, Repr

end SortableId.Json
