import SortableId.Conformance.Case
import SortableId.Identifier.Parse

/-!
# Checking conformance cases

A case is checked in both directions: its values have to encode to its text, and its text has to
read as its values.  A case that expects an error is only read.  A summary counts the outcomes of
many reports.
-/

namespace SortableId.Conformance

/-- A part of an identifier that a case states. -/
inductive Part where
  | kind
  | time
  | flags
  | tenant
  | seq
  | shard
  | random
  deriving DecidableEq, Repr

/-- How a message names a part. -/
def Part.label : Part → String
  | kind => "prefix"
  | time => "time_ms"
  | flags => "flags"
  | tenant => "tenant"
  | seq => "seq"
  | shard => "shard"
  | random => "random60"

/-- Why a check failed. -/
inductive Failure where
  /-- The text was read although an error was expected. -/
  | notRefused (id : String)
  /-- The values encode to another text. -/
  | otherText (got want : String)
  /-- The values do not encode. -/
  | notEncoded (error : IdError)
  /-- The text does not read. -/
  | notRead (error : IdError)
  /-- The random field of the case is no hexadecimal text. -/
  | invalidRandom (error : IdError)
  /-- The text reads as other values; the first part that differs is named. -/
  | otherPart (part : Part) (got want : String)
  deriving DecidableEq

/-- The wording of a failure. -/
def Failure.message : Failure → String
  | notRefused id => "expected parse error, got none; id=" ++ id
  | otherText got want => "encode mismatch:\n  got:  " ++ got ++ "\n  want: " ++ want
  | notEncoded error => "encode error: " ++ error.message
  | notRead error => "parse error: " ++ error.message
  | invalidRandom error => "random_hex invalid: " ++ error.message
  | otherPart part got want =>
      part.label ++ " mismatch: got=" ++ got ++ " want=" ++ want

/-- The outcome of one check. -/
inductive Outcome where
  | pass
  | expectedFailure (error : IdError)
  | fail (failure : Failure)
  deriving DecidableEq

/-- Whether a check did not fail. -/
def Outcome.isOk : Outcome → Bool
  | fail _ => false
  | _ => true

/-- The outcomes of both checks; a case that expects an error is not encoded. -/
structure Report where
  encode : Option Outcome
  parse : Outcome
  deriving DecidableEq

/-- Whether no check of a case failed. -/
def Report.isOk (report : Report) : Bool :=
  report.parse.isOk && report.encode.all Outcome.isOk

/-- A part of an identifier beside what a case states about it. -/
structure Comparison where
  part : Part
  got : String
  want : String
  equal : Bool

/-- A number in hexadecimal, behind its mark. -/
def hexText (width value : Nat) : String := "0x" ++ Text.Hex.number width value

namespace Case

/-- The parts of an identifier beside what the case states, in the order of the layout.  The case
may state a sequence number that is too wide for its field. -/
def comparisons (item : Case) (id : Identifier) (random : BitVec 64) : List Comparison :=
  let number (part : Part) (got want : Nat) : Comparison :=
    ⟨part, toString got, toString want, got == want⟩
  [ ⟨.kind, id.kind.name, item.kind, id.kind.name == item.kind⟩,
    number .time id.unixMs item.unixMs.toNat,
    ⟨.flags, hexText 2 id.fields.flags.bits.toNat, hexText 2 item.flags.toNat,
      id.fields.flags.bits == item.flags⟩,
    number .tenant id.fields.tenant.toNat item.tenant.toNat,
    number .seq id.fields.seq.toNat (item.seq.setWidth 12).toNat,
    number .shard id.fields.shard.toNat item.shard.toNat,
    ⟨.random, hexText 0 id.fields.random.toNat, hexText 0 random.toNat,
      id.fields.random == random.setWidth 60⟩ ]

/-- Checks that the values of a case encode to its text. -/
def checkEncode (item : Case) : Outcome :=
  match item.encode with
  | .error error => .fail (.notEncoded error)
  | .ok got => if got = item.id then .pass else .fail (.otherText got item.id)

/-- Checks that the text of a case reads as its values. -/
def checkParse (item : Case) : Outcome :=
  match Identifier.parse item.id with
  | .error error => .fail (.notRead error)
  | .ok id =>
      match item.components with
      | .error error => .fail (.invalidRandom error)
      | .ok components =>
          match (item.comparisons id components.random).find? fun part => !part.equal with
          | some part => .fail (.otherPart part.part part.got part.want)
          | none => .pass

/-- Checks a case. -/
def check (item : Case) : Report :=
  if item.expectError then
    match Identifier.parse item.id with
    | .ok _ => { encode := none, parse := .fail (.notRefused item.id) }
    | .error error => { encode := none, parse := .expectedFailure error }
  else
    { encode := some item.checkEncode, parse := item.checkParse }

end Case

/-- How many checks of each direction passed and failed. -/
structure Summary where
  encodeOk : Nat := 0
  encodeFailed : Nat := 0
  parseOk : Nat := 0
  parseFailed : Nat := 0
  deriving DecidableEq, Repr

namespace Summary

/-- The summary after one more report. -/
def record (summary : Summary) (report : Report) : Summary where
  encodeOk := summary.encodeOk + (if report.encode.any Outcome.isOk then 1 else 0)
  encodeFailed := summary.encodeFailed + (if report.encode.any (!·.isOk) then 1 else 0)
  parseOk := summary.parseOk + (if report.parse.isOk then 1 else 0)
  parseFailed := summary.parseFailed + (if report.parse.isOk then 0 else 1)

/-- The summary of a list of reports. -/
def ofReports (reports : List Report) : Summary := reports.foldl record {}

/-- Whether no check failed. -/
def isSuccess (summary : Summary) : Bool := summary.encodeFailed + summary.parseFailed == 0

end Summary

end SortableId.Conformance
