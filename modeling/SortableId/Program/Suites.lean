import SortableId.CommandLine
import SortableId.Conformance.Check
import SortableId.Conformance.Regenerate
import SortableId.Program.Output

/-!
# The conformance program

The cases of a file are checked, or their texts are regenerated and the file is written again.  The
program sees the file as a text or as the reason why there is none, and what it writes is part of
its result.
-/

namespace SortableId.Program.Suites

open CommandLine (Arguments Grammar Stop)
open Conformance (Case Outcome Report Suite Summary Update)

/-- What the program is asked to do with a file. -/
structure Request where
  path : String := "spec/test-vectors.json"
  verbose : Bool := false
  failFast : Bool := false
  regenerate : Bool := false
  deriving DecidableEq, Repr

/-- What the program takes. -/
def grammar : Grammar where
  parameters := [
    { long := "vectors", accepts := some fun path => !path.isEmpty },
    { long := "verbose", short := some 'v' },
    { long := "fail-fast" },
    { long := "regenerate" }]
  hasVersion := true

/-- The request that the words of a command line state. -/
def Request.ofWords (words : List String) : Except Stop Request := do
  let (arguments, _) ← grammar.parse words
  let plain : Request := {
    verbose := arguments.given "verbose"
    failFast := arguments.given "fail-fast"
    regenerate := arguments.given "regenerate" }
  return (arguments.value? "vectors").elim plain fun path => { plain with path }

/-- The lines that one report adds to both streams. -/
structure Lines where
  stdout : List String := []
  stderr : List String := []
  deriving DecidableEq

/-- The lines of an outcome: a failure is always printed, success only on request. -/
def outcomeLines (verbose : Bool) (label success : String) : Outcome → Lines
  | .fail failure => { stderr := ["✗ " ++ label ++ " " ++ failure.message] }
  | .pass => { stdout := if verbose then ["✓ " ++ label ++ " " ++ success ++ " ok"] else [] }
  | .expectedFailure error =>
      { stdout :=
          if verbose then
            ["✓ " ++ label ++ " " ++ success ++ " correctly failed: " ++ error.message]
          else [] }

/-- How the lines about a case name it. -/
def label (index : Nat) (item : Case) : String :=
  "[" ++ String.ofList ((Nat.toDigits 10 index).leftpad 2 '0') ++ "] " ++ item.description

/-- The lines of a report. -/
def reportLines (verbose : Bool) (label : String) (report : Report) : Lines :=
  let encode := report.encode.elim {} (outcomeLines verbose label "encode")
  let parse := outcomeLines verbose label "parse" report.parse
  { stdout := encode.stdout ++ parse.stdout, stderr := encode.stderr ++ parse.stderr }

/-- The reports of the cases that are checked: all, or those up to the first that fails. -/
def reports (failFast : Bool) : List Case → List Report
  | [] => []
  | item :: later =>
      if failFast && !item.check.isOk then [item.check]
      else item.check :: reports failFast later

/-- The summary as it is printed. -/
def summaryLines (summary : Summary) : List String :=
  [ "",
    "Encode: " ++ toString summary.encodeOk ++ " ok, " ++ toString summary.encodeFailed ++ " fail",
    "Parse:  " ++ toString summary.parseOk ++ " ok, " ++ toString summary.parseFailed ++ " fail" ]

/-- Lines as a text. -/
def unlines (lines : List String) : String := String.join (lines.map (· ++ "\n"))

/-- Checks the cases of a suite. -/
def runCheck (request : Request) (suite : Suite) : Output :=
  let reports := reports request.failFast suite.cases
  let lines := (suite.cases.zip reports).zipIdx.map fun ((item, report), index) =>
    reportLines request.verbose (label index item) report
  let summary := Summary.ofReports reports
  { code := if summary.isSuccess then 0 else 1
    stdout := unlines (lines.flatMap Lines.stdout ++ summaryLines summary)
    stderr := unlines (lines.flatMap Lines.stderr) }

/-- The lines about a replaced text. -/
def updateLines (update : Update) : List String :=
  ["updated " ++ update.description, "  old: " ++ update.old, "  new: " ++ update.new]

/-- The text of a suite as it is written to a file. -/
def fileText (suite : Suite) : String := suite.toJson.render .indented ++ "\n"

/-- Regenerates the cases of a suite.  The text to be written is returned if anything changed. -/
def runRegenerate (request : Request) (suite : Suite) : Output × Option String :=
  match suite.regenerate with
  | (_, .error error) => (.causedFailure "failed to encode vectors" error.message, none)
  | (_, .ok []) => (.line "No changes.", none)
  | (regenerated, .ok updates) =>
      let last :=
        "Wrote " ++ request.path ++ " (" ++ toString updates.length ++ " updated)"
      ({ stdout := unlines (updates.flatMap updateLines ++ [last]) },
        some (fileText regenerated))

/-- Why the text of a file is no suite. -/
def readingCause : Json.Error → String
  | .malformed => "the text is not JSON"
  | .truncated => "the text ends too early"
  | .mismatch cause => cause.message

/-- The suite that a file holds, or the run that failed for want of one. -/
def readSuite (path : String) (file : Except String String) : Except Output Suite :=
  match file with
  | .error reason => .error (.causedFailure ("failed to read " ++ path) reason)
  | .ok text =>
      match Suite.ofJson text with
      | .error error =>
          .error (.causedFailure ("invalid vectors JSON: " ++ path) (readingCause error))
      | .ok suite =>
          if suite.cases.isEmpty then
            .error { code := 1, stderr := "Error: no vectors found in " ++ path ++ "\n" }
          else
            .ok suite

/-- A regeneration whose text could not be written to the file.  The replaced texts are printed before
the file is written, and only the last line gives way to the error. -/
def unwritten (request : Request) (file : Except String String) (reason : String) : Output :=
  let updates :=
    match readSuite request.path file with
    | .error _ => []
    | .ok suite => suite.regenerate.2.toOption.getD []
  { Output.causedFailure ("failed to write " ++ request.path) reason with
    stdout := unlines (updates.flatMap updateLines) }

/-- Serves a request, given what its file holds.  The text to be written to the file, if any, is
part of the result. -/
def serve (request : Request) (file : Except String String) : Output × Option String :=
  match readSuite request.path file with
  | .error output => (output, none)
  | .ok suite =>
      if request.regenerate then runRegenerate request suite
      else (runCheck request suite, none)

/-- The version as it is printed. -/
def versionLine : String := "orderlyid-conformance 0.1.0"

/-- How the program is used. -/
def usage : String := "orderlyid-conformance [--vectors PATH] [--verbose] [--fail-fast] [--regenerate]"

/-- Runs the program on the words of a command line and the files that it may read. -/
def run (words : List String) (file : String → Except String String) : Output × Option String :=
  match Request.ofWords words with
  | .error .help => (.help usage, none)
  | .error .version => (.line versionLine, none)
  | .error .misuse => (.misuse usage, none)
  | .ok request => serve request (file request.path)

end SortableId.Program.Suites
