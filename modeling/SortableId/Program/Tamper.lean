import SortableId.Identifier.Parse
import SortableId.Program.Failure

/-!
# Tampering with identifiers on the command line

The last character of a text is replaced, to show that a checksum notices.
-/

namespace SortableId.Program

/-- The text without white space around it and with another last character: a zero, or a one in
the place of a zero.  A blank text has no last character. -/
def tamper (text : String) : Option String :=
  match (Text.Blank.trim text.toList).reverse with
  | [] => none
  | last :: before =>
      some (String.ofList (before.reverse ++ [if last = '0' then '1' else '0']))

/-- Tampers with a text and succeeds if the result is refused. -/
def runTamper (text : String) : Output :=
  match tamper text with
  | none => Failure.emptyInput.toOutput ""
  | some changed =>
      let printed := "Tampered: " ++ changed ++ "\n"
      match Identifier.parse changed with
      | .ok _ => (Failure.tamperAccepted changed).toOutput printed
      | .error error =>
          { stdout := printed ++ "Parse error (expected): " ++ error.message ++ "\n" }

end SortableId.Program
