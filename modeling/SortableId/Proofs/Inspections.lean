import SortableId.Proofs.Commands
import SortableId.Proofs.Hexadecimal
import SortableId.Proofs.NamedValues
import SortableId.Proofs.Records

/-!
# Printed inspections

The parts of an identifier are printed for readers that know nothing of identifiers: as a table of
names and values, or as a JSON record.  Either way the parts are found again, and stating them as
components makes the same identifier: the numbers are read from their digits, and the hexadecimal
fields from as many digits as their bytes have.
-/

namespace SortableId

namespace Program

open Json (Reader Shape)

/-! ## What a reader finds -/

/-- What a reader of a printed inspection finds: texts, and words in the place of numbers.  A table
has neither the version nor whether the time was rounded, which the flags say. -/
structure Findings where
  id : String := ""
  kind : String := ""
  unixMs : BitVec 64 := 0
  time : String := ""
  flags : String := ""
  version : Option (BitVec 8) := none
  bucketed : Option Bool := none
  tenant : BitVec 16 := 0
  seq : BitVec 16 := 0
  shard : BitVec 16 := 0
  random : String := ""
  deriving DecidableEq

namespace Findings

/-- The word whose decimal numeral is the value of that name. -/
def word? (width : Nat) (pairs : List (String × String)) (name : String) :
    Option (BitVec width) := do
  (Text.Integer.readWord width (← pairs.lookup name)).toOption

/-- What the names and values of a table say. -/
def ofPairs (pairs : List (String × String)) : Option Findings := do
  return {
    id := ← pairs.lookup "id"
    kind := ← pairs.lookup "prefix"
    unixMs := ← word? 64 pairs "time (ms)"
    time := ← pairs.lookup "time (iso)"
    flags := ← pairs.lookup "flags"
    tenant := ← word? 16 pairs "tenant"
    seq := ← word? 16 pairs "seq"
    shard := ← word? 16 pairs "shard"
    random := ← pairs.lookup "random60" }

/-- How findings are read from a record. -/
def shape : Shape Findings where
  name := "Findings"
  initial := {}
  fields := ([
    .of "id" Reader.text fun id findings => { findings with id },
    .of "prefix" Reader.text fun kind findings => { findings with kind },
    .of "time_ms" (Reader.word 64) fun unixMs findings => { findings with unixMs },
    .of "time" Reader.text fun time findings => { findings with time },
    .of "flags" Reader.text fun flags findings => { findings with flags },
    .of "version" (Reader.word 8) fun version findings => { findings with version := some version },
    .of "privacy_bucketed" Reader.boolean fun bucketed findings =>
      { findings with bucketed := some bucketed },
    .of "tenant" (Reader.word 16) fun tenant findings => { findings with tenant },
    .of "seq" (Reader.word 16) fun seq findings => { findings with seq },
    .of "shard" (Reader.word 16) fun shard findings => { findings with shard },
    .of "random60" Reader.text fun random findings => { findings with random }] :
      List (Json.Field Findings)).map Json.Field.asRequired

/-- What is found in a printed text of the given format. -/
def read (format : Format) (text : String) : Option Findings :=
  match format with
  | .table => ofPairs (Table.pairsOf text)
  | .json => (shape.read.run text).toOption

/-- The digits of a hexadecimal text, behind the mark. -/
def digits? (text : String) : Option String :=
  match text.toList with
  | '0' :: 'x' :: digits => some (String.ofList digits)
  | _ => none

theorem digits?_mark_append (digits : String) : digits? ("0x" ++ digits) = some digits := by
  have shape : ("0x" ++ digits).toList = '0' :: 'x' :: digits.toList := by
    rw [String.toList_append]
    rfl
  simp only [digits?, shape, String.ofList_toList]

/-- The flags that a hexadecimal text of one byte stands for. -/
def flags? (text : String) : Option Flags := do
  match Text.Hex.decode (← digits? text) with
  | .ok [byte] => some ⟨byte.toBitVec⟩
  | _ => none

/-- The findings, stated as components of an identifier. -/
def components (findings : Findings) : Option Components := do
  let stated : Components := {
    kind := findings.kind
    unixMs := findings.unixMs
    flags := ← flags? findings.flags
    tenant := findings.tenant
    seq := findings.seq
    shard := findings.shard }
  (stated.withRandomHex (← digits? findings.random)).toOption

end Findings

namespace Inspection

/-- What is to be found in the printed inspection. -/
def findings (format : Format) (inspection : Inspection) : Findings where
  id := inspection.text
  kind := inspection.id.kind.name
  unixMs := inspection.id.record.unixMs
  time := inspection.time
  flags := inspection.flags
  version :=
    match format with
    | .table => none
    | .json => some (inspection.id.fields.flags.version.setWidth 8)
  bucketed :=
    match format with
    | .table => none
    | .json => some inspection.id.fields.flags.bucketed
  tenant := inspection.id.fields.tenant
  seq := inspection.id.record.seq
  shard := inspection.id.fields.shard
  random := inspection.random

variable (inspection : Inspection)

theorem flags?_flags : Findings.flags? inspection.flags = some inspection.id.fields.flags := by
  have single : Chunks.split 8 1 inspection.id.fields.flags.bits =
      [inspection.id.fields.flags.bits] := by
    simp [Chunks.split]
  have decoded : Text.Hex.decode (Text.Hex.number 2 inspection.id.fields.flags.bits.toNat) =
      .ok [UInt8.ofBitVec inspection.id.fields.flags.bits] := by
    rw [← List.map_singleton, ← single]
    exact Text.Hex.decode_number Nat.one_pos inspection.id.fields.flags.bits
  simp only [Findings.flags?, flags, Findings.digits?_mark_append, decoded, Option.bind_eq_bind,
    Option.bind_some]

/-- Stated as components, the findings are those of the record. -/
theorem components_findings (format : Format) :
    (inspection.findings format).components = some inspection.id.record.components := by
  have widened : inspection.id.fields.random.toNat = inspection.id.record.random.toNat :=
    (BitVec.toNat_setWidth_of_le (by decide)).symm
  have same : (inspection.id.record.random.setWidth 60).setWidth 64 = inspection.id.record.random :=
    setWidth_setWidth_of_lt (Record.wellFormed_record inspection.id).random
  have random_digits : Findings.digits? inspection.random =
      some (Text.Hex.number 16 inspection.id.record.random.toNat) := by
    rw [random, Findings.digits?_mark_append, widened]
  simp only [Findings.components, findings, flags?_flags, random_digits, Option.bind_eq_bind,
    Option.bind_some, Components.withRandomHex_number, same]
  rfl

theorem reads_toJson :
    Findings.shape.read.Reads inspection.toJson (inspection.findings .json) := by
  have unixMs : (Reader.word 64).Reads (.number inspection.id.unixMs)
      inspection.id.record.unixMs := by
    rw [← inspection.id.toNat_unixMs_record]
    exact Reader.reads_word (by decide) _
  have version : (Reader.word 8).Reads (.number inspection.id.fields.flags.version.toNat)
      (inspection.id.fields.flags.version.setWidth 8) := by
    rw [← BitVec.toNat_setWidth_of_le (by decide : 2 ≤ 8)]
    exact Reader.reads_word (by decide) _
  have seq : (Reader.word 16).Reads (.number inspection.id.fields.seq.toNat)
      inspection.id.record.seq := by
    rw [← BitVec.toNat_setWidth_of_le (by decide : 12 ≤ 16)]
    exact Reader.reads_word (by decide) _
  have takes := (.cons ⟨_, rfl, (Reader.reads_text inspection.text).map _⟩ <|
    .cons ⟨_, rfl, (Reader.reads_text inspection.id.kind.name).map _⟩ <|
    .cons ⟨_, rfl, unixMs.map _⟩ <|
    .cons ⟨_, rfl, (Reader.reads_text inspection.time).map _⟩ <|
    .cons ⟨_, rfl, (Reader.reads_text inspection.flags).map _⟩ <|
    .cons ⟨_, rfl, version.map _⟩ <|
    .cons ⟨_, rfl, (Reader.reads_boolean inspection.id.fields.flags.bucketed).map _⟩ <|
    .cons ⟨_, rfl, (Reader.reads_word (by decide) inspection.id.fields.tenant).map _⟩ <|
    .cons ⟨_, rfl, seq.map _⟩ <|
    .cons ⟨_, rfl, (Reader.reads_word (by decide) inspection.id.fields.shard).map _⟩ <|
    .cons ⟨_, rfl, (Reader.reads_text inspection.random).map _⟩ .nil :
    List.Forall₂ Findings.shape.Takes [("id", .text inspection.text),
      ("prefix", .text inspection.id.kind.name), ("time_ms", .number inspection.id.unixMs),
      ("time", .text inspection.time), ("flags", .text inspection.flags),
      ("version", .number inspection.id.fields.flags.version.toNat),
      ("privacy_bucketed", .boolean inspection.id.fields.flags.bucketed),
      ("tenant", .number inspection.id.fields.tenant.toNat),
      ("seq", .number inspection.id.fields.seq.toNat),
      ("shard", .number inspection.id.fields.shard.toNat),
      ("random60", .text inspection.random)] _)
  refine Shape.reads_record takes (by simp) ?_
  intro field member _
  exact List.mem_map_of_mem member

/-- The names and values of the table. -/
def pairs : List (String × String) :=
  [("id", inspection.text), ("prefix", inspection.id.kind.name),
    ("time (ms)", toString inspection.id.record.unixMs.toNat), ("time (iso)", inspection.time),
    ("flags", inspection.flags), ("tenant", toString inspection.id.fields.tenant.toNat),
    ("seq", toString inspection.id.record.seq.toNat),
    ("shard", toString inspection.id.fields.shard.toNat), ("random60", inspection.random)]

theorem rows_eq : ({ header := ["Field", "Value"], rows := inspection.rows } : Table) =
    Table.ofPairs ("Field", "Value") inspection.pairs := by
  have seq : inspection.id.record.seq.toNat = inspection.id.fields.seq.toNat :=
    BitVec.toNat_setWidth_of_le (by decide)
  rw [Table.ofPairs, pairs, inspection.id.toNat_unixMs_record, seq]
  rfl

theorem ofPairs_pairs : Findings.ofPairs (("Field", "Value") :: inspection.pairs) =
    some (inspection.findings .table) := by
  let shown := ("Field", "Value") :: inspection.pairs
  have id : shown.lookup "id" = some inspection.text := rfl
  have kind : shown.lookup "prefix" = some inspection.id.kind.name := rfl
  have unixMs : shown.lookup "time (ms)" = some (toString inspection.id.record.unixMs.toNat) := rfl
  have time : shown.lookup "time (iso)" = some inspection.time := rfl
  have flags : shown.lookup "flags" = some inspection.flags := rfl
  have tenant : shown.lookup "tenant" = some (toString inspection.id.fields.tenant.toNat) := rfl
  have seq : shown.lookup "seq" = some (toString inspection.id.record.seq.toNat) := rfl
  have shard : shown.lookup "shard" = some (toString inspection.id.fields.shard.toNat) := rfl
  have random : shown.lookup "random60" = some inspection.random := rfl
  simp only [Findings.ofPairs, Findings.word?, shown, id, kind, unixMs, time, flags, tenant, seq,
    shard, random, Option.bind_eq_bind, Option.bind_some, Text.Integer.readWord_toString]
  rfl

theorem plain_hex {count : Nat} (positive : 0 < count) (word : BitVec (8 * count)) :
    Table.Plain ("0x" ++ Text.Hex.number (2 * count) word.toNat) := by
  rw [Text.Hex.number_toNat_eq_encode positive]
  apply Table.plain_of_alphanum
  · simp
  · intro c member
    rw [String.toList_append] at member
    have marks : ∀ c ∈ "0x".toList, c.isAlphanum = true := List.all_eq_true.mp (by decide)
    rcases List.mem_append.mp member with mark | digit
    · exact marks c mark
    · exact Text.Hex.isAlphanum_of_mem_encode digit

/-- The names of the parts in a table. -/
def names : List String :=
  ["Field", "id", "prefix", "time (ms)", "time (iso)", "flags", "tenant", "seq", "shard",
    "random60"]

theorem name_of_mem_names : ∀ name ∈ names, Table.Name name := by
  have ends : ∀ name ∈ names, ∃ notEmpty : name.toList ≠ [],
      Text.Blank.isBlank (name.toList.head notEmpty) = false ∧
      Text.Blank.isBlank (name.toList.getLast notEmpty) = false ∧ '\n' ∉ name.toList := by
    decide
  intro name member
  obtain ⟨notEmpty, head, last, oneLine⟩ := ends name member
  exact ⟨notEmpty, head, last, oneLine⟩

theorem readable_pairs (plainText : Table.Plain inspection.text) :
    ∀ pair ∈ ("Field", "Value") :: inspection.pairs, Table.Name pair.1 ∧ Table.Plain pair.2 := by
  have widened : inspection.id.record.random.toNat = inspection.id.fields.random.toNat :=
    BitVec.toNat_setWidth_of_le (by decide)
  have plainRandom : Table.Plain inspection.random := by
    rw [random, ← widened]
    exact plain_hex (by decide : 0 < 8) inspection.id.record.random
  have plainFlags : Table.Plain inspection.flags :=
    plain_hex Nat.one_pos inspection.id.fields.flags.bits
  have plainKind : Table.Plain inspection.id.kind.name := by
    apply Table.plain_of_alphanum
    · obtain ⟨first, rest, named, _⟩ := Kind.accepts_iff.mp inspection.id.kind.wellFormed
      rw [named]
      exact List.cons_ne_nil first rest
    · exact Kind.isAlphanum_of_accepts inspection.id.kind.wellFormed
  have plainHeader : Table.Plain "Value" :=
    Table.plain_of_alphanum (by decide) (List.all_eq_true.mp (by decide))
  have named : ∀ pair ∈ ("Field", "Value") :: inspection.pairs, Table.Name pair.1 := by
    intro pair member
    exact name_of_mem_names pair.1 (List.mem_map_of_mem member : _ ∈ List.map Prod.fst _)
  have plain : ∀ pair ∈ ("Field", "Value") :: inspection.pairs, Table.Plain pair.2 := by
    simp only [pairs, List.forall_mem_cons]
    exact ⟨plainHeader, plainText, plainKind, Table.plain_toString _, Table.plain_timestamp _,
      plainFlags, Table.plain_toString _, Table.plain_toString _, Table.plain_toString _,
      plainRandom, List.forall_mem_nil _⟩
  exact fun pair member => ⟨named pair member, plain pair member⟩

/-- What is printed in either format is found by its reader. -/
theorem read_render (plainText : Table.Plain inspection.text) (format : Format) :
    Findings.read format (inspection.render format ++ "\n") =
      some (inspection.findings format) := by
  cases format with
  | table =>
      have shown := Table.pairsOf_plain (inspection.readable_pairs plainText)
      rw [Findings.read, render, rows_eq, shown, ofPairs_pairs]
  | json =>
      have ending : Json.Blanks ['\n'] := Json.blanks_lineBreak .indented 0
      have found : Findings.shape.read.run (inspection.toJson.render .indented ++ "\n") =
          .ok (inspection.findings .json) := inspection.reads_toJson.run .indented ending
      rw [Findings.read, render, found]
      rfl

end Inspection

/-! ## The command -/

/-- The trimmed text of an identifier can be told from what surrounds it. -/
theorem plain_trim_of_parse {text : String} {id : Identifier}
    (read : Identifier.parse text = .ok id) :
    Table.Plain (String.ofList (Text.Blank.trim text.toList)) := by
  obtain ⟨spelling, wellFormed, trimmed, _⟩ := Spelling.exists_of_parse read
  rw [trimmed]
  refine ⟨?_, ?_, ?_⟩
  · rw [String.toList_ofList]
    exact spelling.chars_ne_nil
  · rw [String.toList_ofList]
    exact Spelling.isBlank_of_mem_chars wellFormed
  · rw [String.toList_ofList]
    intro bar
    rcases Spelling.isAlphanum_or_eq_of_mem_chars wellFormed bar with alphanum | equal | equal <;>
      contradiction

/-- The printed text of an identifier tells all of it: what a reader finds can be stated as
components that make the same identifier.  Beyond that it repeats the text that was read and, in
JSON, what the flags say. -/
structure Tells (printed : String) (format : Format) (text : String) (id : Identifier)
    (findings : Findings) (components : Components) : Prop where
  found : Findings.read format printed = some findings
  stated : findings.components = some components
  rebuilt : Identifier.ofComponents components = .ok id
  text : findings.id = String.ofList (Text.Blank.trim text.toList)
  version : format = .json → ∃ version, findings.version = some version ∧
    version.toNat = components.flags.bits.toNat / 64
  bucketed : format = .json → findings.bucketed = some (components.flags.bits.getLsbD 5)

theorem Inspection.tells {text : String} {id : Identifier} (read : Identifier.parse text = .ok id)
    (format : Format) :
    let inspection : Inspection := ⟨String.ofList (Text.Blank.trim text.toList), id⟩
    Tells (inspection.render format ++ "\n") format text id (inspection.findings format)
      id.record.components where
  found := read_render _ (plain_trim_of_parse read) format
  stated := components_findings _ format
  rebuilt := id.ofComponents_components_record
  text := rfl
  version := by
    rintro rfl
    have highest : ∀ bits : BitVec 8,
        ((Flags.mk bits).version.setWidth 8).toNat = bits.toNat / 64 := by decide
    exact ⟨_, rfl, highest id.fields.flags.bits⟩
  bucketed := by
    rintro rfl
    rfl

open Invocation (ofWords wordsFor)

/-- The command that prints the parts of a text succeeds in both formats if the text is accepted,
and the printed text tells the whole identifier.  On a text that is refused it fails and prints
nothing. -/
theorem prints_whole_identifier (text : String) :
    (∀ id, Identifier.parse text = .ok id →
      (∀ format, ofWords (wordsFor "parse" text format) = .ok ⟨format, .parse text⟩) ∧
      ∀ (words : List String) (format : Format) (lookup : String → Option String)
        (readings : Nat → Reading),
        ofWords words = .ok ⟨format, .parse text⟩ → ¬Settings.AnyMisset lookup →
          (Ids.run words lookup readings).code = 0 ∧
            ∃ findings components,
              Tells (Ids.run words lookup readings).stdout format text id findings components) ∧
    ∀ error, Identifier.parse text = .error error →
      ∀ (words : List String) (format : Format) (lookup : String → Option String)
        (readings : Nat → Reading),
        ofWords words = .ok ⟨format, .parse text⟩ → ¬Settings.AnyMisset lookup →
          (Ids.run words lookup readings).code = 1 ∧
            (Ids.run words lookup readings).stdout = "" := by
  constructor
  · intro id read
    have asked (format : Format) :
        ofWords (wordsFor "parse" text format) = .ok ⟨format, .parse text⟩ :=
      Invocation.ofWords_wordsFor (.inl ⟨rfl, rfl⟩) (unhyphenated_of_parse read) format
    refine ⟨asked, ?_⟩
    intro words format lookup readings stated wellSet
    obtain ⟨defaults, ran⟩ := Ids.exists_run_eq_runCommand stated wellSet readings
    have printed : Ids.run words lookup readings =
        .line (Inspection.render format ⟨String.ofList (Text.Blank.trim text.toList), id⟩) := by
      simp only [ran, Ids.runCommand, runParse, Inspection.ofText, read, Except.map]
    rw [printed]
    exact ⟨rfl, _, _, Inspection.tells read format⟩
  · intro error refused words format lookup readings stated wellSet
    obtain ⟨defaults, ran⟩ := Ids.exists_run_eq_runCommand stated wellSet readings
    have failed : Ids.run words lookup readings = (Failure.id error).toOutput "" := by
      simp only [ran, Ids.runCommand, runParse, Inspection.ofText, refused, Except.map]
    rw [failed]
    exact ⟨rfl, rfl⟩

/-- A text in mixed cases between white space is told in both formats.  A text whose payload is too
short is not. -/
theorem prints_whole_identifier_mixedCase :
    (∀ format, ∃ findings components,
      Tells (Ids.run (wordsFor "parse" "\u3000order_OoMYNGY59C0003000DFK59MG3E36J3rr-9XgG\n" format)
        (fun _ => none) fun _ => ⟨0, .ok 0⟩).stdout format
        "\u3000order_OoMYNGY59C0003000DFK59MG3E36J3rr-9XgG\n" Identifier.mixedCaseOrder findings
        components) ∧
      (Ids.run ["parse", "order_00"] (fun _ => none) fun _ => ⟨0, .ok 0⟩).stdout = "" := by
  have refused : Identifier.parse "order_00" = .error (.payloadLength 2) := by decide +kernel
  have asked : ofWords ["parse", "order_00"] = .ok ⟨.table, .parse "order_00"⟩ :=
    Invocation.ofWords_wordsFor (.inl ⟨rfl, rfl⟩) (by decide) .table
  obtain ⟨found, shown⟩ := (prints_whole_identifier _).1 _ Identifier.parse_mixedCaseOrder
  have silent := (prints_whole_identifier _).2 _ refused
  constructor
  · intro format
    exact (shown _ format _ _ (found format) Settings.not_anyMisset_unset).2
  · exact (silent _ _ _ _ asked Settings.not_anyMisset_unset).2

end Program

end SortableId
