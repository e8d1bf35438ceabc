import SortableId.Options
import SortableId.Text.Integer

/-!
# Settings from variables

Variables of the environment give the options that the command line does not state.  A variable
that holds no number in its range is an error, and the first such variable is reported.
-/

namespace SortableId.Program

/-- A variable that holds no number in its range. -/
structure SettingsError where
  requirement : String
  fault : Text.Integer.Fault
  deriving DecidableEq, Repr

namespace Settings

/-- The number that a variable holds, or zero if there is no such variable. -/
def number (width : Nat) (lookup : String → Option String) (name range : String) :
    Except SettingsError (BitVec width) :=
  match lookup name with
  | none => .ok 0
  | some text =>
      match Text.Integer.readWord width text with
      | .ok value => .ok value
      | .error fault => .error ⟨name ++ " must be an integer " ++ range ++ ".", fault⟩

/-- Whether a variable says yes: the digit one, or `true` in any case.  No character but the ASCII
letters becomes one of these letters in lowercase. -/
def saysYes (text : String) : Bool :=
  text == "1" || text.toList.map Char.toLower == ['t', 'r', 'u', 'e']

/-- The options that the variables give. -/
def read (lookup : String → Option String) : Except SettingsError Options := do
  let tenant ← number 16 lookup "ORDERLYID_TENANT" "in 0..=65535"
  let shard ← number 16 lookup "ORDERLYID_SHARD" "in 0..=65535"
  let checksum := (lookup "ORDERLYID_CHECKSUM").any saysYes
  let bucketSeconds ← number 32 lookup "ORDERLYID_BUCKET_SECONDS" "(seconds)"
  return { tenant, shard, checksum, bucketSeconds }

end Settings

end SortableId.Program
