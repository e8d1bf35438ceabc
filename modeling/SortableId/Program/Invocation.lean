import SortableId.CommandLine
import SortableId.Options
import SortableId.Text.Integer
import SortableId.Text.Utf8

/-!
# Invocations of the identifier program

The command line of the program that makes and inspects identifiers.  The output format may be
given before or behind the name of the command; the one behind it counts.
-/

namespace SortableId.Program

open CommandLine (Arguments Grammar Parameter Stop)

/-- How results are printed. -/
inductive Format where
  | table
  | json
  deriving DecidableEq, Repr

/-- Only one name means JSON, and every other one means a table. -/
def Format.ofName (name : String) : Format := if name = "json" then json else table

/-- What the command line says about new identifiers. -/
structure Order where
  kind : String
  tenant : Option (BitVec 16) := none
  shard : Option (BitVec 16) := none
  shardFrom : Option String := none
  checksum : Bool := false
  bucketSeconds : Option (BitVec 32) := none
  count : Nat := 1
  deriving DecidableEq, Repr

/-- What the program is asked to do. -/
inductive Command where
  | generate (order : Order)
  | parse (text : String)
  | tamper (text : String)
  | version
  deriving DecidableEq, Repr

/-- A command and the format of its results. -/
structure Invocation where
  format : Format
  command : Command
  deriving DecidableEq, Repr

namespace Order

/-- The options that an order asks for: what it leaves open is as in the defaults. -/
def options (order : Order) (defaults : Options) : Options where
  tenant := order.tenant.getD defaults.tenant
  shard :=
    match order.shardFrom with
    | some key => Options.shardOfBytes (Text.utf8 key.toList)
    | none => order.shard.getD defaults.shard
  checksum := order.checksum || defaults.checksum
  bucketSeconds := order.bucketSeconds.getD defaults.bucketSeconds

/-- A word as the value of an option: an integer, also one with a minus sign, in the range of the
word. -/
def word? (width : Nat) (text : String) : Option (BitVec width) :=
  match Text.Integer.read (BitVec.intMin 64).toNat (BitVec.intMax 64).toNat text with
  | .ok value =>
      let word := BitVec.ofInt width value
      if word.toNat = value then some word else none
  | .error _ => none

/-- The number of identifiers as the value of an option. -/
def count? (text : String) : Option Nat :=
  match Text.Integer.readWord 64 text with
  | .ok value => some value.toNat
  | .error _ => none

/-- What the command that makes identifiers takes of its own. -/
def parameters : List Parameter := [
  { long := "tenant", accepts := some fun text => (word? 16 text).isSome },
  { long := "shard", accepts := some fun text => (word? 16 text).isSome },
  { long := "shard-from", accepts := some fun _ => true },
  { long := "checksum" },
  { long := "bucket", accepts := some fun text => (word? 32 text).isSome },
  { long := "count", short := some 'n', accepts := some fun text => (count? text).isSome }]

/-- The order that the arguments of its command state. -/
def ofArguments (arguments : Arguments) : Except Stop Order :=
  match arguments.positionals with
  | [kind] =>
      if arguments.given "shard" && arguments.given "shard-from" then
        .error .misuse
      else
        .ok {
          kind
          tenant := (arguments.value? "tenant").bind (word? 16)
          shard := (arguments.value? "shard").bind (word? 16)
          shardFrom := arguments.value? "shard-from"
          checksum := arguments.given "checksum"
          bucketSeconds := (arguments.value? "bucket").bind (word? 32)
          count := ((arguments.value? "count").bind count?).getD 1 }
  | _ => .error .misuse

end Order

/-- The command of the given name with the given arguments. -/
def Command.ofArguments (name : String) (arguments : Arguments) : Except Stop Command :=
  match name, arguments.positionals with
  | "generate", _ => (Order.ofArguments arguments).map .generate
  | "parse", [text] => .ok (.parse text)
  | "tamper", [text] => .ok (.tamper text)
  | "version", [] => .ok .version
  | _, _ => .error .misuse

namespace Invocation

/-- What every command takes. -/
def sharedParameters : List Parameter := [
  { long := "format", accepts := some fun _ => true },
  { long := "log-json" }]

/-- The commands that do something. -/
def commandNames : List String := ["generate", "parse", "tamper", "version"]

/-- What stands before the name of a command. -/
def outerGrammar : Grammar where
  parameters := sharedParameters
  commands := "help" :: commandNames
  hasVersion := true

/-- What stands behind the name of a command. -/
def innerGrammar (name : String) : Grammar :=
  match name with
  | "generate" => { parameters := sharedParameters ++ Order.parameters, positionals := 1 }
  | "version" => { parameters := sharedParameters }
  | _ => { parameters := sharedParameters, positionals := 1 }

/-- Help on a command may be asked for by name. -/
def helpOn (words : List String) : Stop :=
  match words with
  | [] => .help
  | [name] => if outerGrammar.commands.contains name then .help else .misuse
  | _ => .misuse

/-- The invocation that the words of a command line state. -/
def ofWords (words : List String) : Except Stop Invocation := do
  let (outer, rest) ← outerGrammar.parse words
  match rest with
  | [] => .error .misuse
  | name :: words =>
      if name = "help" then
        .error (helpOn words)
      else
        let (inner, _) ← (innerGrammar name).parse words
        let command ← Command.ofArguments name inner
        let format := (inner.value? "format").or (outer.value? "format")
        return { format := format.elim .table Format.ofName, command }

end Invocation

end SortableId.Program
