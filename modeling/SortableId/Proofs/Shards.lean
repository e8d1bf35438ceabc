import SortableId.Options
import SortableId.Proofs.Distance

/-!
# Shards of keys

The hash of a key is computed in 32 bits, of which the shard is the low half.  Multiplication and
exclusive or never carry bits downwards, so the low half goes its own way, and there each step can
be undone: the multiplier is odd.  What two keys have told apart is therefore never mixed up by the
same bytes behind them.
-/

namespace SortableId.Options

/-- One step of the hash in the 16 bits that a shard keeps of it. -/
def shortStep (hash : BitVec 16) (byte : UInt8) : BitVec 16 :=
  hash * 403 ^^^ byte.toBitVec.setWidth 16

/-- The high half of a hash never reaches the low half. -/
theorem setWidth_hashStep (hash : BitVec 32) (byte : UInt8) :
    (hashStep hash byte).setWidth 16 = shortStep (hash.setWidth 16) byte := by
  have narrow : (16777619 : BitVec 32).setWidth 16 = 403 := by decide
  rw [hashStep, shortStep, BitVec.setWidth_xor, BitVec.setWidth_mul _ _ (by decide), narrow,
    BitVec.setWidth_setWidth_of_le _ (by decide)]

theorem shardOfBytes_eq (key : List UInt8) : shardOfBytes key = key.foldl shortStep 0 :=
  (List.foldl_hom (BitVec.setWidth 16) fun hash byte => (setWidth_hashStep hash byte).symm).symm

theorem toNat_shortStep (hash : BitVec 16) (byte : UInt8) :
    (shortStep hash byte).toNat = (hash.toNat * 403 % 2 ^ 16) ^^^ byte.toNat := by
  have fits : byte.toNat < 2 ^ 16 := Nat.lt_trans byte.toNat_lt (by decide)
  rw [shortStep, BitVec.toNat_xor, BitVec.toNat_mul, BitVec.toNat_setWidth, UInt8.toNat_toBitVec,
    Nat.mod_eq_of_lt fits]
  rfl

theorem toNat_shardOfBytes (key : List UInt8) :
    (shardOfBytes key).toNat =
      key.foldl (fun hash byte => (hash * 403 % 2 ^ 16) ^^^ byte.toNat) 0 := by
  rw [shardOfBytes_eq]
  exact (List.foldl_hom BitVec.toNat fun hash byte => (toNat_shortStep hash byte).symm).symm

/-- The multiplier is odd, so it has an inverse in 16 bits. -/
theorem shortStep_injective (byte : UInt8) : Function.Injective (shortStep · byte) := by
  intro left right same
  have products : left * 403 = right * 403 := (BitVec.xor_left_inj _).mp same
  have inverse : (403 : BitVec 16) * 17563 = 1#16 := by decide
  have recovered := congrArg (· * (17563 : BitVec 16)) products
  simpa only [BitVec.mul_assoc, inverse, BitVec.mul_one] using recovered

/-- Bytes behind two hashes keep them apart. -/
theorem foldl_shortStep_injective (key : List UInt8) :
    Function.Injective fun hash : BitVec 16 => key.foldl shortStep hash := by
  induction key with
  | nil => exact Function.injective_id
  | cons byte rest ih => exact ih.comp (shortStep_injective byte)

theorem shardOfBytes_append_inj {front other : List UInt8} (back : List UInt8) :
    shardOfBytes (front ++ back) = shardOfBytes (other ++ back) ↔
      shardOfBytes front = shardOfBytes other := by
  simp only [shardOfBytes_eq, List.foldl_append]
  exact (foldl_shortStep_injective back).eq_iff

/-- What is mixed in at the bottom can be told from the outcome. -/
theorem shortStep_injective_byte (hash : BitVec 16) : Function.Injective (shortStep hash) := by
  intro left right same
  have numbers := congrArg BitVec.toNat same
  rw [toNat_shortStep, toNat_shortStep] at numbers
  exact UInt8.toNat_inj.mp (Nat.xor_right_injective numbers)

theorem shardOfBytes_ne_of_mismatches {key other : List UInt8}
    (sameLength : key.length = other.length) (one : mismatches key other = 1) :
    shardOfBytes key ≠ shardOfBytes other := by
  obtain ⟨front, left, right, back, rfl, rfl, different⟩ :=
    exists_append_of_mismatches_eq_one sameLength one
  intro same
  simp only [shardOfBytes_eq, List.foldl_append, List.foldl_cons] at same
  exact different (shortStep_injective_byte _ (foldl_shortStep_injective back same))

/-- Two keys get one shard exactly if they do with the same bytes behind both, so keys that differ
in one byte never do.  The shard may be computed in 16 bits from the start. -/
theorem shards_stay_apart :
    (∀ front other back : List UInt8,
      shardOfBytes (front ++ back) = shardOfBytes (other ++ back) ↔
        shardOfBytes front = shardOfBytes other) ∧
    (∀ key other : List UInt8, key.length = other.length → mismatches key other = 1 →
      shardOfBytes key ≠ shardOfBytes other) ∧
    ∀ key : List UInt8, (shardOfBytes key).toNat =
      key.foldl (fun hash byte => (hash * 403 % 2 ^ 16) ^^^ byte.toNat) 0 :=
  ⟨fun _ _ back => shardOfBytes_append_inj back,
    fun _ _ sameLength one => shardOfBytes_ne_of_mismatches sameLength one, toNat_shardOfBytes⟩

/-- Keys of two customers, which differ in a byte in the middle. -/
theorem shards_stay_apart_customers :
    mismatches (Text.utf8 "customer-42-eu".toList) (Text.utf8 "customer-52-eu".toList) = 1 ∧
      shardOfBytes (Text.utf8 "customer-42-eu".toList) ≠
        shardOfBytes (Text.utf8 "customer-52-eu".toList) := by
  have one :
      mismatches (Text.utf8 "customer-42-eu".toList) (Text.utf8 "customer-52-eu".toList) = 1 := by
    decide +kernel
  exact ⟨one, shards_stay_apart.2.1 _ _ (by decide +kernel) one⟩

end SortableId.Options
