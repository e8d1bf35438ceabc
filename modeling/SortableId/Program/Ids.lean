import SortableId.Program.Generate
import SortableId.Program.Inspect
import SortableId.Program.Settings
import SortableId.Program.Tamper

/-!
# The identifier program

The command line is read first, then the variables, and only then the command runs.
-/

namespace SortableId.Program.Ids

/-- The version as it is printed. -/
def versionLine : String := "orderlyid 0.1.0"

/-- How the program is used. -/
def usage : String := "orderlyid [--format FORMAT] [--log-json] COMMAND"

/-- Runs a command whose defaults are known. -/
def runCommand (invocation : Invocation) (defaults : Options) (readings : Nat → Reading) : Output :=
  match invocation.command with
  | .generate order => runGenerate invocation.format order defaults readings
  | .parse text => runParse invocation.format text
  | .tamper text => runTamper text
  | .version => .line versionLine

/-- Runs the program on the words of a command line, the variables of its environment and what its
generator will read. -/
def run (words : List String) (lookup : String → Option String) (readings : Nat → Reading) :
    Output :=
  match Invocation.ofWords words with
  | .error .help => .help usage
  | .error .version => .line versionLine
  | .error .misuse => .misuse usage
  | .ok invocation =>
      match Settings.read lookup with
      | .error error => .causedFailure error.requirement error.fault.message
      | .ok defaults => runCommand invocation defaults readings

/-- The number of readings that a run can use. -/
def readingsNeeded (words : List String) : Nat :=
  match Invocation.ofWords words with
  | .ok { command := .generate order, .. } => order.count
  | _ => 0

end SortableId.Program.Ids
