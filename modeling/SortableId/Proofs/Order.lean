import SortableId.Identifier.Basic
import SortableId.Proofs.Characters

/-!
# The order of identifiers

Identifiers of one kind are ordered alike in every form: entry by entry, as fields, as the bytes of
the body, and as the bytes of the payload and of the written identifier with or without its
checksum.  The order of the bytes is the order of the characters of the alphabet, and both cut the
same word.
-/

namespace SortableId

section Lists

variable {α β : Type} [Ord α] [Ord β]

/-- Lists whose entries keep their order keep theirs. -/
theorem compare_map {image : α → β}
    (monotone : ∀ first second, compare (image first) (image second) = compare first second)
    (left right : List α) : compare (left.map image) (right.map image) = compare left right := by
  induction left generalizing right with
  | nil =>
      cases right with
      | nil => rfl
      | cons => rfl
  | cons first left ih =>
      cases right with
      | nil => rfl
      | cons second right =>
          rw [List.map_cons, List.map_cons, List.compare_cons_cons, List.compare_cons_cons,
            monotone, ih]

theorem compare_append_left [Std.ReflOrd α] (front left right : List α) :
    compare (front ++ left) (front ++ right) = compare left right := by
  induction front with
  | nil => rfl
  | cons first front ih =>
      rw [List.cons_append, List.cons_append, List.compare_cons_cons, Std.compare_self, ih]
      rfl

/-- What stands behind parts of one length matters only if the parts are equal. -/
theorem compare_append_of_length {left right : List α} (sameLength : left.length = right.length)
    (leftBack rightBack : List α) :
    compare (left ++ leftBack) (right ++ rightBack) =
      (compare left right).then (compare leftBack rightBack) := by
  induction left generalizing right with
  | nil =>
      cases right with
      | nil => rfl
      | cons => simp at sameLength
  | cons first left ih =>
      cases right with
      | nil => simp at sameLength
      | cons second right =>
          rw [List.cons_append, List.cons_append, List.compare_cons_cons, List.compare_cons_cons,
            ih (Nat.succ.inj sameLength), Ordering.then_assoc]

end Lists

namespace Text

/-- Texts ordered as their bytes. -/
def compareBytes (left right : String) : Ordering :=
  compare (utf8 left.toList) (utf8 right.toList)

theorem utf8_append (front back : List Char) : utf8 (front ++ back) = utf8 front ++ utf8 back :=
  List.flatMap_append

end Text

namespace Symbol

/-- The byte that a symbol is written as. -/
def toByte (symbol : Symbol) : UInt8 := symbol.toChar.val.toUInt8

/-- The characters of the alphabet are in the order of their values. -/
theorem compare_toByte (left right : Symbol) :
    compare left.toByte right.toByte = compare left right := by
  revert left right
  decide +kernel

theorem utf8_map_toChar (symbols : List Symbol) :
    Text.utf8 (symbols.map toChar) = symbols.map toByte := by
  have ascii : ∀ c ∈ symbols.map toChar, c.toNat < 128 := by
    intro c member
    obtain ⟨symbol, _, rfl⟩ := List.mem_map.mp member
    exact Text.toNat_lt_of_isAlphanum (isAlphanum_toChar symbol)
  rw [Text.utf8_of_ascii ascii, List.map_map]
  rfl

end Symbol

namespace Body

theorem compare_bytes (left right : Body) :
    compare left.bytes right.bytes = compare left right := by
  rw [bytes, bytes, compare_map]
  · exact Chunks.compare_split bits_eq_bytes left right
  · intro first second
    change compareOfLessAndEq (UInt8.ofBitVec first) (UInt8.ofBitVec second) =
      compareOfLessAndEq first second
    simp only [compareOfLessAndEq, UInt8.lt_iff_toBitVec_lt, ← UInt8.toBitVec_inj]

end Body

namespace Payload

theorem compare_utf8_encode (left right : Body) :
    compare (Text.utf8 (encode left)) (Text.utf8 (encode right)) = compare left right := by
  rw [encode, encode, Symbol.utf8_map_toChar, Symbol.utf8_map_toChar,
    compare_map Symbol.compare_toByte, Body.compare_symbols]

theorem length_utf8_encode (body : Body) : (Text.utf8 (encode body)).length = 32 := by
  rw [encode, Symbol.utf8_map_toChar, List.length_map, Body.length_symbols]
  rfl

end Payload

namespace Identifier

variable {left right : Identifier}

/-- Identifiers compared entry by entry, their instants counted from 1970. -/
def compareEntries (left right : Identifier) : Ordering :=
  (compare left.kind.name right.kind.name).then <|
    (compare left.unixMs right.unixMs).then <|
    (compare left.fields.flags right.fields.flags).then <|
    (compare left.fields.tenant right.fields.tenant).then <|
    (compare left.fields.seq right.fields.seq).then <|
    (compare left.fields.shard right.fields.shard).then <|
    compare left.fields.random right.fields.random

theorem compare_unixMs :
    compare left.unixMs right.unixMs = compare left.fields.time right.fields.time := by
  rw [compare_eq_compare_toNat]
  change compareOfLessAndEq (Time.epochMs + _) (Time.epochMs + _) = compareOfLessAndEq _ _
  simp only [compareOfLessAndEq, Nat.add_lt_add_iff_left, Nat.add_left_cancel_iff]

theorem compareEntries_eq_compare (left right : Identifier) :
    compareEntries left right = compare left right := by
  rw [compareEntries, compare_unixMs]
  rfl

theorem compare_eq_compare_fields (sameKind : left.kind = right.kind) :
    compare left right = compare left.fields right.fields := by
  change (compare left.kind.name right.kind.name).then _ = _
  rw [sameKind, Std.compare_self]
  rfl

theorem compare_body : compare left.body right.body = compare left.fields right.fields :=
  Fields.compare_pack left.fields right.fields

theorem utf8_baseChars (id : Identifier) :
    Text.utf8 id.baseChars = Text.utf8 (id.kind.name.toList ++ ['_']) ++ Text.utf8 id.payload := by
  rw [← Text.utf8_append, List.append_assoc]
  rfl

/-- Behind the common kind the payload decides. -/
theorem compare_utf8_baseChars (sameKind : left.kind = right.kind) :
    compare (Text.utf8 left.baseChars) (Text.utf8 right.baseChars) =
      compare left.fields right.fields := by
  rw [utf8_baseChars, utf8_baseChars, sameKind, compare_append_left, payload, payload,
    Payload.compare_utf8_encode, compare_body]

theorem length_utf8_baseChars (sameKind : left.kind = right.kind) :
    (Text.utf8 left.baseChars).length = (Text.utf8 right.baseChars).length := by
  rw [utf8_baseChars, utf8_baseChars, sameKind, List.length_append, List.length_append, payload,
    payload, Payload.length_utf8_encode, Payload.length_utf8_encode]

/-- The checksum is a function of kind and fields, so it never decides. -/
theorem compare_utf8_toChars (sameKind : left.kind = right.kind) (withChecksum : Bool) :
    compare (Text.utf8 (left.toChars withChecksum)) (Text.utf8 (right.toChars withChecksum)) =
      compare left.fields right.fields := by
  cases withChecksum with
  | false => exact compare_utf8_baseChars sameKind
  | true =>
      change compare (Text.utf8 (left.baseChars ++ _)) (Text.utf8 (right.baseChars ++ _)) = _
      rw [Text.utf8_append, Text.utf8_append,
        compare_append_of_length (length_utf8_baseChars sameKind),
        compare_utf8_baseChars sameKind]
      cases decided : compare left.fields right.fields with
      | lt => rfl
      | gt => rfl
      | eq =>
          have same : left = right := by
            cases left
            cases right
            cases sameKind
            cases Fields.eq_of_compare decided
            rfl
          rw [same]
          exact Std.compare_self

theorem compareBytes_encode (sameKind : left.kind = right.kind) (withChecksum : Bool) :
    Text.compareBytes (left.encode withChecksum) (right.encode withChecksum) =
      compare left right := by
  rw [Text.compareBytes, encode, encode, String.toList_ofList, String.toList_ofList,
    compare_utf8_toChars sameKind, compare_eq_compare_fields sameKind]

/-- Identifiers of one kind are in one order, whichever of their forms is looked at. -/
theorem order_of_forms (sameKind : left.kind = right.kind) :
    compareEntries left right = compare left right ∧
      compare left.fields right.fields = compare left right ∧
      Text.compareBytes (left.encode false) (right.encode false) = compare left right ∧
      Text.compareBytes (left.encode true) (right.encode true) = compare left right ∧
      Text.compareBytes (String.ofList left.payload) (String.ofList right.payload) =
        compare left right ∧
      compare left.body.bytes right.body.bytes = compare left right := by
  refine ⟨compareEntries_eq_compare left right, (compare_eq_compare_fields sameKind).symm,
    compareBytes_encode sameKind false, compareBytes_encode sameKind true, ?_, ?_⟩
  · rw [Text.compareBytes, String.toList_ofList, String.toList_ofList, payload, payload,
      Payload.compare_utf8_encode, compare_body, compare_eq_compare_fields sameKind]
  · rw [Body.compare_bytes, compare_body, compare_eq_compare_fields sameKind]

/-- A receipt whose sequence number and shard share a byte of the body. -/
def receiptOfShard (seq : BitVec 12) (shard : BitVec 16) : Identifier where
  kind := ⟨"receipt", by decide⟩
  fields := ⟨5, ⟨0x20⟩, 12, seq, shard, 7⟩

/-- The number decides, although the shards are in the other order. -/
theorem order_of_forms_receiptOfShard :
    (receiptOfShard 0x0f0 0xffff).kind = (receiptOfShard 0x0f1 0).kind ∧
      compareEntries (receiptOfShard 0x0f0 0xffff) (receiptOfShard 0x0f1 0) =
        compare (receiptOfShard 0x0f0 0xffff) (receiptOfShard 0x0f1 0) ∧
      compare (receiptOfShard 0x0f0 0xffff).fields (receiptOfShard 0x0f1 0).fields =
        compare (receiptOfShard 0x0f0 0xffff) (receiptOfShard 0x0f1 0) ∧
      Text.compareBytes ((receiptOfShard 0x0f0 0xffff).encode false)
          ((receiptOfShard 0x0f1 0).encode false) =
        compare (receiptOfShard 0x0f0 0xffff) (receiptOfShard 0x0f1 0) ∧
      Text.compareBytes ((receiptOfShard 0x0f0 0xffff).encode true)
          ((receiptOfShard 0x0f1 0).encode true) =
        compare (receiptOfShard 0x0f0 0xffff) (receiptOfShard 0x0f1 0) ∧
      Text.compareBytes (String.ofList (receiptOfShard 0x0f0 0xffff).payload)
          (String.ofList (receiptOfShard 0x0f1 0).payload) =
        compare (receiptOfShard 0x0f0 0xffff) (receiptOfShard 0x0f1 0) ∧
      compare (receiptOfShard 0x0f0 0xffff).body.bytes (receiptOfShard 0x0f1 0).body.bytes =
        compare (receiptOfShard 0x0f0 0xffff) (receiptOfShard 0x0f1 0) := by
  have sameKind : (receiptOfShard 0x0f0 0xffff).kind = (receiptOfShard 0x0f1 0).kind := rfl
  exact ⟨sameKind, order_of_forms sameKind⟩

end Identifier

end SortableId
