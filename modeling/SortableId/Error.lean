import SortableId.Checksum.Basic
import SortableId.Kind
import SortableId.Text.Hex

/-!
# Errors

Every way in which making or reading an identifier can fail, with its wording and the classes that
it belongs to.
-/

namespace SortableId

/-- Why an identifier could not be made or read. -/
inductive IdError where
  /-- The text is blank. -/
  | empty
  /-- The name is no kind. -/
  | invalidKind (name : String)
  /-- The identifier is of another kind than the one asked for. -/
  | kindMismatch (expected actual : Kind)
  /-- No underscore stands between a kind and a payload. -/
  | missingSeparator
  /-- The payload has another length, in bytes, than 32. -/
  | payloadLength (bytes : Nat)
  /-- A character of the payload stands for no symbol; the position counts bytes of the payload. -/
  | invalidSymbol (position : Nat) (symbol : Char)
  /-- The checksum has another length, in bytes, than 4. -/
  | checksumLength (bytes : Nat)
  /-- The text carries another checksum than the one computed. -/
  | checksumMismatch (computed : Checksum) (given : String)
  /-- The entropy source gave nothing. -/
  | entropyFailure (reason : String)
  /-- The random field was given as a text that is not hexadecimal. -/
  | invalidRandomHex (fault : Text.Hex.Fault)
  deriving DecidableEq

namespace IdError

/-- The wording of an error. -/
def message : IdError → String
  | empty => "ID cannot be empty"
  | invalidKind name => "invalid ID prefix: '" ++ name ++ "'"
  | kindMismatch expected actual =>
      "ID prefix mismatch: expected '" ++ expected.name ++ "', got '" ++ actual.name ++ "'"
  | missingSeparator => "ID missing underscore separator"
  | payloadLength bytes => "payload must be 32 characters, got " ++ toString bytes
  | invalidSymbol position symbol =>
      "invalid base32 symbol " ++ Text.Quoted.char symbol ++ " at position " ++ toString position
  | checksumLength bytes => "checksum must be 4 characters, got " ++ toString bytes
  | checksumMismatch computed given =>
      "checksum mismatch: expected '" ++ computed.text ++ "', got '" ++ given ++ "'"
  | entropyFailure reason => "entropy source failure: " ++ reason
  | invalidRandomHex fault => "invalid ID format: random_hex: " ++ fault.message

/-- Whether the text was blank. -/
def isEmpty : IdError → Bool
  | empty => true
  | _ => false

/-- Whether the kind is at fault. -/
def isAboutKind : IdError → Bool
  | invalidKind _ | kindMismatch _ _ => true
  | _ => false

/-- Whether the caller passed what no call may pass. -/
def isPreconditionViolation : IdError → Bool
  | invalidKind _ => true
  | _ => false

/-- Whether the checksum is at fault. -/
def isAboutChecksum : IdError → Bool
  | checksumLength _ | checksumMismatch _ _ => true
  | _ => false

/-- Whether the error can come from reading a text. -/
def isAboutText : IdError → Bool
  | entropyFailure _ | invalidRandomHex _ => false
  | _ => true

end IdError

end SortableId
