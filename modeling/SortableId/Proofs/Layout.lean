import SortableId.Fields
import SortableId.Proofs.Numerals

/-!
# The layout of a body

Fields are the digits of a numeral of mixed base: each field counts the places to its right.
Packing writes this number into a word of 160 bits and unpacking reads it back, so fields and
bodies determine each other, and both are ordered as the number.
-/

namespace SortableId

/-- A word in front of another one counts above all its bits. -/
theorem toNat_append_eq {high low : Nat} (front : BitVec high) (back : BitVec low) :
    (front ++ back).toNat = front.toNat * 2 ^ low + back.toNat := by
  rw [BitVec.toNat_append, Nat.shiftLeft_eq, Nat.mul_comm,
    ← Nat.two_pow_add_eq_or_of_lt back.isLt]

namespace Fields

/-- The number that fields stand for, each shifted to its place. -/
def number (fields : Fields) : Nat :=
  fields.time.toNat * 2 ^ 112 + fields.flags.bits.toNat * 2 ^ 104 +
    fields.tenant.toNat * 2 ^ 88 + fields.seq.toNat * 2 ^ 76 +
    fields.shard.toNat * 2 ^ 60 + fields.random.toNat

theorem toNat_pack (fields : Fields) : fields.pack.toNat = fields.number := by
  simp only [pack, number, toNat_append_eq]
  omega

theorem number_unpack (body : Body) : (unpack body).number = body.toNat := by
  have bound := body.isLt
  simp only [unpack, number, BitVec.extractLsb'_toNat, Nat.shiftRight_eq_div_pow]
  omega

theorem toNat_lt (fields : Fields) :
    fields.time.toNat < 2 ^ 48 ∧ fields.flags.bits.toNat < 2 ^ 8 ∧
      fields.tenant.toNat < 2 ^ 16 ∧ fields.seq.toNat < 2 ^ 12 ∧
      fields.shard.toNat < 2 ^ 16 ∧ fields.random.toNat < 2 ^ 60 :=
  ⟨fields.time.isLt, fields.flags.bits.isLt, fields.tenant.isLt, fields.seq.isLt,
    fields.shard.isLt, fields.random.isLt⟩

theorem number_inj {left right : Fields} : left.number = right.number ↔ left = right := by
  constructor
  · intro same
    have leftBounds := left.toNat_lt
    have rightBounds := right.toNat_lt
    cases left with
    | mk leftTime leftFlags leftTenant leftSeq leftShard leftRandom =>
      cases right with
      | mk rightTime rightFlags rightTenant rightSeq rightShard rightRandom =>
          cases leftFlags
          cases rightFlags
          simp only [number] at same
          simp only [mk.injEq, Flags.mk.injEq, ← BitVec.toNat_inj]
          omega
  · intro same
    rw [same]

/-- A packed body holds exactly the fields that were packed. -/
@[simp] theorem unpack_pack (fields : Fields) : unpack fields.pack = fields := by
  rw [← number_inj, number_unpack, toNat_pack]

/-- Every body is packed from the fields that it holds. -/
@[simp] theorem pack_unpack (body : Body) : (unpack body).pack = body := by
  apply BitVec.eq_of_toNat_eq
  rw [toNat_pack, number_unpack]

/-- The first field that differs decides, because the later ones fit into the places below. -/
theorem compare_eq_compare_number (left right : Fields) :
    compare left right = compare left.number right.number := by
  have leftBounds := left.toNat_lt
  have rightBounds := right.toNat_lt
  change (compare left.time right.time).then
    ((compare left.flags.bits right.flags.bits).then
    ((compare left.tenant right.tenant).then
    ((compare left.seq right.seq).then
    ((compare left.shard right.shard).then (compare left.random right.random))))) = _
  simp only [compare_eq_compare_toNat, number, Nat.add_assoc]
  rw [compare_mul_add (by omega) (by omega), compare_mul_add (by omega) (by omega),
    compare_mul_add (by omega) (by omega), compare_mul_add (by omega) (by omega),
    compare_mul_add (by omega) (by omega)]

theorem eq_of_compare {left right : Fields} (equal : compare left right = .eq) :
    left = right := by
  rw [compare_eq_compare_number] at equal
  exact number_inj.mp (Nat.compare_eq_eq.mp equal)

theorem compare_eq_lt_of_time {left right : Fields}
    (earlier : left.time.toNat < right.time.toNat) : compare left right = .lt := by
  change (compare left.time right.time).then _ = _
  rw [compare_eq_compare_toNat, Nat.compare_eq_lt.mpr earlier]
  rfl

theorem compare_eq_lt_of_seq {left right : Fields} (time : left.time = right.time)
    (flags : left.flags = right.flags) (tenant : left.tenant = right.tenant)
    (earlier : left.seq.toNat < right.seq.toNat) : compare left right = .lt := by
  change (compare left.time right.time).then
    ((compare left.flags.bits right.flags.bits).then
    ((compare left.tenant right.tenant).then ((compare left.seq right.seq).then _))) = _
  rw [time, flags, tenant, Std.compare_self, Std.compare_self, Std.compare_self,
    compare_eq_compare_toNat left.seq, Nat.compare_eq_lt.mpr earlier]
  rfl

theorem compare_pack (left right : Fields) :
    compare left.pack right.pack = compare left right := by
  rw [compare_eq_compare_toNat, toNat_pack, toNat_pack, compare_eq_compare_number]

end Fields

namespace Body

theorem bits_eq_symbols : 160 = 5 * symbolCount := rfl

theorem bits_eq_bytes : 160 = 8 * byteCount := rfl

@[simp] theorem length_symbols (body : Body) : body.symbols.length = symbolCount := by
  simp [symbols]

@[simp] theorem ofSymbols_symbols (body : Body) : ofSymbols body.symbols = body :=
  Chunks.join_split bits_eq_symbols body

/-- As many symbols as a body has are read back from the body that they spell. -/
theorem symbols_ofSymbols {symbols : List Symbol} (length_eq : symbols.length = symbolCount) :
    (ofSymbols symbols).symbols = symbols :=
  Chunks.split_join bits_eq_symbols length_eq

/-- The symbols of a body write its number. -/
theorem number_symbols (body : Body) : Chunks.number body.symbols = body.toNat := by
  rw [symbols, Chunks.number_split]
  exact Nat.mod_eq_of_lt body.isLt

theorem compare_symbols (left right : Body) :
    compare left.symbols right.symbols = compare left right :=
  Chunks.compare_split bits_eq_symbols left right

end Body

end SortableId
