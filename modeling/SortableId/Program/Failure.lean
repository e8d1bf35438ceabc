import SortableId.Error
import SortableId.Program.Output

/-!
# Failures of the identifier program

An error is printed with a hint where there is something to say beyond it.
-/

namespace SortableId.Program

/-- Why a command of the identifier program failed. -/
inductive Failure where
  /-- The library refused. -/
  | id (error : IdError)
  /-- An identifier that was just made does not read. -/
  | notReadBack (encoded : String) (error : IdError)
  /-- There is nothing to tamper with. -/
  | emptyInput
  /-- A changed identifier was accepted. -/
  | tamperAccepted (text : String)
  deriving DecidableEq

namespace Failure

/-- The wording of a failure. -/
def message : Failure → String
  | id error => error.message
  | notReadBack encoded error => "internal parse error for " ++ encoded ++ ": " ++ error.message
  | emptyInput => "No ID given."
  | tamperAccepted text => "Checksum accepted tampered ID " ++ text

/-- What a user can do about an error of the library. -/
def errorHint : IdError → Option String
  | .invalidKind _ => some
      "Prefixes are 2-31 characters: a lowercase letter, then lowercase letters or digits."
  | .checksumMismatch _ _ | .checksumLength _ => some
      "The ID was likely mistyped. Check the characters against the original."
  | .invalidSymbol _ _ => some "Payloads use digits and lowercase letters other than u."
  | .payloadLength _ => some "Payloads are exactly 32 characters."
  | _ => none

/-- What a user can do about a failure. -/
def hint : Failure → Option String
  | id error => errorHint error
  | notReadBack _ error => errorHint error
  | emptyInput => none
  | tamperAccepted _ => some "The input had no checksum. Generate it with --checksum first."

/-- The run that failed, after it had printed the given text. -/
def toOutput (failure : Failure) (printed : String) : Output where
  code := 1
  stdout := printed
  stderr :=
    "Error: " ++ failure.message ++ "\n" ++
      failure.hint.elim "" fun hint => "\nHint: " ++ hint ++ "\n"

end Failure

end SortableId.Program
