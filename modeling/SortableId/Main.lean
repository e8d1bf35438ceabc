import SortableId.Program.Ids
import SortableId.Program.Suites
import Std.Time.DateTime.Timestamp

/-!
# Command lines

This module runs both programs in the world: it reads the clock, the entropy source, the
environment and files, and prints what the pure programs leave behind.  An executable under the
name of the conformance program is that program, and under any other name it is the identifier
program.
-/

namespace SortableId.Program

/-- Eight bytes as a word, the most significant one first. -/
def entropyOfBytes (bytes : ByteArray) : BitVec 64 :=
  Chunks.join 64 (bytes.toList.map UInt8.toBitVec)

/-- Reads the clock and the entropy source. -/
def takeReading : IO Reading := do
  let now ← Std.Time.Timestamp.now
  let entropy ←
    try
      pure (Except.ok (entropyOfBytes (← IO.getRandomBytes 8)))
    catch failure =>
      pure (Except.error (toString failure))
  return { nowMs := BitVec.ofInt 64 now.toMillisecondsSinceUnixEpoch.val, entropy }

/-- Why a file could not be used, as it is printed. -/
def fileReason : IO.Error → String
  | .noFileOrDirectory _ _ _ => "No such file or directory (os error 2)"
  | .permissionDenied _ _ _ => "Permission denied (os error 13)"
  | .inappropriateType _ _ _ => "Is a directory (os error 21)"
  | failure => toString failure

/-- The text of a file, or the reason why there is none. -/
def readText (path : String) : IO (Except String String) := do
  try
    match String.fromUTF8? (← IO.FS.readBinFile path) with
    | some text => return .ok text
    | none => return .error "stream did not contain valid UTF-8"
  catch failure =>
    return .error (fileReason failure)

/-- Prints what a program leaves behind and passes its exit code on. -/
def printOutput (output : Output) : IO UInt32 := do
  IO.print output.stdout
  IO.eprint output.stderr
  return UInt32.ofNat output.code

/-- Runs the identifier program. -/
def runIds (words : List String) : IO UInt32 := do
  let names := [
    "ORDERLYID_TENANT", "ORDERLYID_SHARD", "ORDERLYID_CHECKSUM", "ORDERLYID_BUCKET_SECONDS"]
  let settings ← names.filterMapM fun name => do
    return (← IO.getEnv name).map (name, ·)
  let readings ← (List.range (Ids.readingsNeeded words)).toArray.mapM fun _ => takeReading
  printOutput <| Ids.run words (List.lookup · settings) fun index =>
    readings.getD index ⟨0, .error "no reading"⟩

/-- Runs the conformance program.  A text that it leaves behind is written to the file that was
read. -/
def runSuites (words : List String) : IO UInt32 := do
  match Suites.Request.ofWords words with
  | .error _ => printOutput (Suites.run words fun _ => .error "").1
  | .ok request =>
      let file ← readText request.path
      match Suites.run words fun _ => file with
      | (output, none) => printOutput output
      | (output, some text) =>
          try
            IO.FS.writeFile request.path text
            printOutput output
          catch failure =>
            printOutput (Suites.unwritten request file (fileReason failure))

end SortableId.Program

/-- Runs the program whose name the executable bears. -/
def main (words : List String) : IO UInt32 := do
  let path := toString (← IO.appPath)
  if path.endsWith "orderlyid-conformance" then
    SortableId.Program.runSuites words
  else
    SortableId.Program.runIds words
