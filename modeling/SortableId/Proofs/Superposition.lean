import SortableId.Checksum.Bytes
import SortableId.Checksum.Verify
import SortableId.Proofs.Records
import SortableId.Proofs.Syndromes

/-!
# Superposition in the checksum register

A word that is fed with bytes never holds more than 30 bits, and five of them leave it with each
byte: no other bit is lost.  Each step adds up in the word and the byte together, so the word of a
sum of inputs is the sum of their words, but for the start.  The register starts from one and not
from zero, and a sum of two inputs counts that twice; a third input of zeros makes up for it.  What
two checksums differ by is therefore determined by what the bytes differ by.
-/

namespace SortableId

namespace Checksum

/-! ## One byte -/

theorem and_one_eq_one_iff (word : BitVec 32) : word &&& 1 = 1 ↔ word.getLsbD 0 = true := by
  have bit : word &&& 1 = (BitVec.ofBool (word.getLsbD 0)).setWidth 32 :=
    BitVec.and_one_eq_setWidth_ofBool_getLsbD
  rw [bit]
  cases word.getLsbD 0 <;> decide

/-- A generator is fed back if its bit is among those that leave. -/
theorem feedBack_eq (top word generator : BitVec 32) (index : Nat) :
    feedBack top word (generator, index) =
      word ^^^ if top.getLsbD index then generator else 0 := by
  have bit : (top >>> index) &&& 1 = 1 ↔ top.getLsbD index = true := by
    rw [and_one_eq_one_iff, BitVec.getLsbD_ushiftRight, Nat.add_zero]
  rw [feedBack]
  simp only [bit]
  split <;> simp

/-- Feeding back bit after bit adds the sum of what is fed back. -/
theorem foldl_feedBack (top word sum : BitVec 32) (entries : List (BitVec 32 × Nat)) :
    entries.foldl (feedBack top) (word ^^^ sum) =
      word ^^^ (entries.map fun (generator, index) =>
        if top.getLsbD index then generator else 0).foldl (· ^^^ ·) sum := by
  induction entries generalizing sum with
  | nil => rfl
  | cons entry entries ih =>
      rw [List.foldl_cons, feedBack_eq, BitVec.xor_assoc, ih]
      rfl

theorem foldl_feedBack_generators (top word : BitVec 32) :
    generators.zipIdx.foldl (feedBack top) word = word ^^^ feedback top := by
  have sum := foldl_feedBack top word 0#32 generators.zipIdx
  rw [BitVec.xor_zero] at sum
  exact sum

/-- A byte is added to what becomes of the word without it. -/
theorem feed_eq (word : BitVec 32) (byte : UInt8) :
    feed word byte = step word 0 ^^^ byte.toBitVec.setWidth 32 := by
  have empty : (0 : Symbol).setWidth 32 = 0#32 := by decide
  rw [feed, foldl_feedBack_generators, entered, moved, leaving, step, empty, BitVec.xor_zero]
  ac_rfl

/-- Feeding adds up in the word and the byte together. -/
theorem feed_xor (left right : BitVec 32) (first second : UInt8) :
    feed (left ^^^ right) (first ^^^ second) = feed left first ^^^ feed right second := by
  rw [feed_eq, feed_eq, feed_eq, UInt8.toBitVec_xor, BitVec.setWidth_xor,
    ← step_xor_step left right 0]
  ac_rfl

/-! ## Thirty bits -/

theorem toNat_moved (word : BitVec 32) : (moved word).toNat = word.toNat % 2 ^ 25 * 2 ^ 5 := by
  have kept : (word &&& 0x01ffffff).toNat = word.toNat % 2 ^ 25 := toNat_and_mask rfl word
  rw [moved, BitVec.toNat_shiftLeft, kept, Nat.shiftLeft_eq]
  omega

theorem toNat_leaving (word : BitVec 32) : (leaving word).toNat = word.toNat / 2 ^ 25 := by
  rw [leaving, BitVec.toNat_ushiftRight, Nat.shiftRight_eq_div_pow]

theorem moved_lt (word : BitVec 32) : (moved word).toNat < 2 ^ 30 := by
  rw [toNat_moved]
  omega

theorem entered_lt (word : BitVec 32) (byte : UInt8) : (entered word byte).toNat < 2 ^ 30 := by
  have narrow : (byte.toBitVec.setWidth 32).toNat < 2 ^ 30 := by
    have bound := byte.toNat_lt
    rw [BitVec.toNat_setWidth, UInt8.toNat_toBitVec]
    omega
  rw [entered, BitVec.toNat_xor]
  exact Nat.xor_lt_two_pow (moved_lt word) narrow

theorem feedBack_lt {top word generator : BitVec 32} {index : Nat} (narrow : word.toNat < 2 ^ 30)
    (generatorNarrow : generator.toNat < 2 ^ 30) :
    (feedBack top word (generator, index)).toNat < 2 ^ 30 := by
  rw [feedBack]
  split
  · rw [BitVec.toNat_xor]
    exact Nat.xor_lt_two_pow narrow generatorNarrow
  · exact narrow

theorem foldl_feedBack_lt {top word : BitVec 32} {entries : List (BitVec 32 × Nat)}
    (narrow : word.toNat < 2 ^ 30) (entriesNarrow : ∀ entry ∈ entries, entry.1.toNat < 2 ^ 30) :
    (entries.foldl (feedBack top) word).toNat < 2 ^ 30 := by
  induction entries generalizing word with
  | nil => exact narrow
  | cons entry entries ih =>
      rw [List.forall_mem_cons] at entriesNarrow
      exact ih (feedBack_lt narrow entriesNarrow.1) entriesNarrow.2

theorem generators_lt : ∀ entry ∈ generators.zipIdx, entry.1.toNat < 2 ^ 30 := by
  decide

/-- What happens to a word while a byte is fed: five bits leave and all others stay, and the word
holds 30 bits before anything is fed back, between any two generators and in the end. -/
structure LosesFive (word : BitVec 32) (byte : UInt8) : Prop where
  before : word.toNat < 2 ^ 30
  five : (leaving word).toNat < 2 ^ 5
  others : word.toNat * 2 ^ 5 = (leaving word).toNat * 2 ^ 30 + (moved word).toNat
  moved : (moved word).toNat < 2 ^ 30
  between : ∀ done, done <+: generators.zipIdx →
    (done.foldl (feedBack (leaving word)) (entered word byte)).toNat < 2 ^ 30

theorem LosesFive.of_lt {word : BitVec 32} (before : word.toNat < 2 ^ 30) (byte : UInt8) :
    LosesFive word byte where
  before
  five := by
    -- Seven bits stand above the 25 that stay; the bound keeps the two highest of them clear.
    rw [toNat_leaving]
    omega
  others := by
    rw [toNat_leaving, toNat_moved]
    omega
  moved := moved_lt word
  between done front :=
    foldl_feedBack_lt (entered_lt word byte) fun entry member =>
      generators_lt entry (front.subset member)

theorem LosesFive.after {word : BitVec 32} {byte : UInt8} (loses : LosesFive word byte) :
    (feed word byte).toNat < 2 ^ 30 :=
  loses.between _ List.prefix_rfl

theorem polymod_lt (bytes : List UInt8) : (polymod bytes).toNat < 2 ^ 30 := by
  induction bytes using List.reverseRecOn with
  | nil => decide
  | append_singleton bytes byte ih =>
      rw [polymod, List.foldl_concat]
      exact (LosesFive.of_lt ih byte).after

/-! ## Sums of inputs -/

theorem zipWith_xor_replicate (bytes : List UInt8) :
    bytes.zipWith (· ^^^ ·) (List.replicate bytes.length 0) = bytes := by
  induction bytes with
  | nil => rfl
  | cons byte bytes ih =>
      rw [List.length_cons, List.replicate_succ, List.zipWith_cons_cons, ih, UInt8.xor_zero]

/-- Zeros add their start to that of other bytes, and nothing else. -/
theorem foldl_feed_xor_zeros (bytes : List UInt8) (left right : BitVec 32) :
    bytes.foldl feed left ^^^ (List.replicate bytes.length 0).foldl feed right =
      bytes.foldl feed (left ^^^ right) := by
  have count : bytes.length = (List.replicate bytes.length (0 : UInt8)).length :=
    List.length_replicate.symm
  have sum := foldl_xor_foldl feed_xor count left right
  rw [zipWith_xor_replicate] at sum
  exact sum

theorem polymod_zipWith_xor {left right : List UInt8} (sameLength : left.length = right.length) :
    polymod (left.zipWith (· ^^^ ·) right) =
      polymod left ^^^ polymod right ^^^ polymod (List.replicate left.length 0) := by
  -- Both words start from one, so their sum starts from zero; the zeros bring the one back.
  have apart : polymod left ^^^ polymod right =
      (left.zipWith (· ^^^ ·) right).foldl feed 0#32 :=
    foldl_xor_foldl feed_xor sameLength 1 1
  have started := foldl_feed_xor_zeros (left.zipWith (· ^^^ ·) right) 0#32 1
  rw [length_zipWith_of_length_eq _ sameLength] at started
  rw [apart]
  exact started.symm

/-- Two words differ by the word of the difference and that of zeros. -/
theorem polymod_xor_polymod {left right : List UInt8} (sameLength : left.length = right.length) :
    polymod left ^^^ polymod right =
      polymod (left.zipWith (· ^^^ ·) right) ^^^ polymod (List.replicate left.length 0) := by
  rw [polymod_zipWith_xor sameLength, BitVec.xor_assoc _ (polymod _), BitVec.xor_self,
    BitVec.xor_zero]

/-! ## Checksums -/

/-- What a checksum changes by when the bytes that are fed change by the given ones. -/
def difference (changes : List UInt8) : Checksum :=
  (polymod changes ^^^ polymod (List.replicate changes.length 0)).setWidth 20

theorem length_fedBytes (label symbols : List UInt8) :
    (fedBytes label symbols).length = 2 * label.length + 1 + symbols.length + symbolCount := by
  simp only [fedBytes, expandBytes, List.length_append, List.length_cons, List.length_map,
    List.length_replicate]
  omega

theorem wordOfBytes_xor {label other first second : List UInt8}
    (sameLabel : label.length = other.length) (sameLength : first.length = second.length) :
    (wordOfBytes label first).setWidth 20 ^^^ (wordOfBytes other second).setWidth 20 =
      difference ((fedBytes label first).zipWith (· ^^^ ·) (fedBytes other second)) := by
  have fedLength : (fedBytes label first).length = (fedBytes other second).length := by
    rw [length_fedBytes, length_fedBytes, sameLabel, sameLength]
  rw [difference, length_zipWith_of_length_eq _ fedLength, ← polymod_xor_polymod fedLength,
    ← BitVec.setWidth_xor, wordOfBytes, wordOfBytes, xor_xor_xor_cancel]

/-! ## Bytes that hold symbols -/

theorem setWidth_asByte (symbol : Symbol) :
    symbol.asByte.toBitVec.setWidth 32 = symbol.setWidth 32 := by
  revert symbol
  decide

theorem feed_asByte (word : BitVec 32) (symbol : Symbol) :
    feed word symbol.asByte = step word symbol := by
  have entering := step_xor word 0#32 0#5 symbol
  rw [BitVec.xor_zero, BitVec.zero_xor] at entering
  rw [feed_eq, setWidth_asByte, entering]
  exact congrArg (step word 0 ^^^ ·) (step_of_zero symbol).symm

/-- Bytes that hold symbols are fed as the symbols are. -/
theorem polymod_asByte (symbols : List Symbol) :
    polymod (symbols.map Symbol.asByte) = register symbols := by
  rw [polymod, List.foldl_map, register]
  simp only [feed_asByte]

theorem shiftRight_eq_asByte (byte : UInt8) :
    byte >>> 5 = Symbol.asByte ((byte.toBitVec.extractLsb' 5 3).setWidth 5) := by
  have bound := byte.toNat_lt
  have shifted : (byte >>> 5).toNat = byte.toNat / 2 ^ 5 := by
    rw [UInt8.toNat_shiftRight, Nat.shiftRight_eq_div_pow]
    rfl
  have cut : (Symbol.asByte ((byte.toBitVec.extractLsb' 5 3).setWidth 5)).toNat =
      byte.toNat / 2 ^ 5 % 2 ^ 3 % 2 ^ 5 % 2 ^ 8 := by
    rw [Symbol.asByte, UInt8.toNat_ofBitVec, BitVec.toNat_setWidth, BitVec.toNat_setWidth,
      BitVec.extractLsb'_toNat, UInt8.toNat_toBitVec, Nat.shiftRight_eq_div_pow]
  apply UInt8.toNat_inj.mp
  omega

theorem and_eq_asByte (byte : UInt8) :
    byte &&& 0x1f = Symbol.asByte (byte.toBitVec.setWidth 5) := by
  have masked : byte.toBitVec &&& 0x1f = (byte.toBitVec.setWidth 5).setWidth 8 :=
    and_eq_setWidth rfl _
  exact UInt8.toBitVec_inj.mp masked

theorem expandBytes_eq (label : List UInt8) :
    expandBytes label = (expand label).map Symbol.asByte := by
  rw [expand, List.map_append, List.map_cons, List.map_map, List.map_map, expandBytes]
  simp only [shiftRight_eq_asByte, and_eq_asByte]
  rfl

example : expandBytes (label ['a']) = [3, 2, 0, 1, 31] := by decide

theorem fedBytes_asByte (label : List UInt8) (symbols : List Symbol) :
    fedBytes label (symbols.map Symbol.asByte) = (fed label symbols).map Symbol.asByte := by
  rw [fed, List.map_append, List.map_append, List.map_replicate, fedBytes, expandBytes_eq]
  rfl

theorem setWidth_wordOfBytes (label : List UInt8) (symbols : List Symbol) :
    (wordOfBytes label (symbols.map Symbol.asByte)).setWidth 20 = ofSymbols label symbols := by
  rw [wordOfBytes, fedBytes_asByte, polymod_asByte]
  rfl

/-- A symbol of a checksum is cut out of the whole word in the same place. -/
theorem setWidth_ushiftRight (word : BitVec 32) {start : Nat} (inside : start + 5 ≤ 20) :
    (((word >>> start).setWidth 8 &&& 0x1f).setWidth 5 : Symbol) =
      (word.setWidth 20).extractLsb' start 5 := by
  have mask : ∀ index < 5, (0x1f : BitVec 8).getLsbD index = true := by decide
  apply BitVec.eq_of_getLsbD_eq
  intro index here
  have narrow : index < 8 := by omega
  have low : start + index < 20 := by omega
  simp only [BitVec.getLsbD_setWidth, BitVec.getLsbD_and, BitVec.getLsbD_ushiftRight,
    BitVec.getLsbD_extractLsb', mask index here, here, narrow, low, decide_true, Bool.true_and,
    Bool.and_true]

theorem wordText_eq (word : BitVec 32) : wordText word = text (word.setWidth 20) := by
  rw [wordText, text, toChars, symbols, Chunks.split, List.map_map]
  congr 1
  apply List.map_congr_left
  intro index member
  exact congrArg Symbol.toChar (setWidth_ushiftRight word (by unfold symbolCount; omega))

/-- The register over bytes, whatever the bytes are.  The word of a sum of two inputs of equal
length is the sum of their words and of the word of as many zeros.  With each byte five bits leave
the word and no other is lost, because it never holds more than 30.  For labels of equal length, the
checksums of two inputs differ by what the difference of the bytes that are fed determines.  Bytes
that hold symbols lead to the checksum of the symbols, and to its text. -/
theorem polymod_superposes :
    (∀ left right : List UInt8, left.length = right.length →
      polymod (left.zipWith (· ^^^ ·) right) =
        polymod left ^^^ polymod right ^^^ polymod (List.replicate left.length 0)) ∧
    (∀ (bytes : List UInt8) (byte : UInt8), LosesFive (polymod bytes) byte) ∧
    (∀ label other first second : List UInt8, label.length = other.length →
      first.length = second.length →
        (wordOfBytes label first).setWidth 20 ^^^ (wordOfBytes other second).setWidth 20 =
          difference ((fedBytes label first).zipWith (· ^^^ ·) (fedBytes other second))) ∧
    ∀ (label : List UInt8) (symbols : List Symbol),
      polymod (symbols.map Symbol.asByte) = register symbols ∧
        (wordOfBytes label (symbols.map Symbol.asByte)).setWidth 20 = ofSymbols label symbols ∧
        wordText (wordOfBytes label (symbols.map Symbol.asByte)) =
          (ofSymbols label symbols).text := by
  refine ⟨?_, ?_, ?_, ?_⟩
  · intro left right sameLength
    exact polymod_zipWith_xor sameLength
  · intro bytes byte
    exact .of_lt (polymod_lt bytes) byte
  · intro label other first second sameLabel sameLength
    exact wordOfBytes_xor sameLabel sameLength
  · intro label symbols
    refine ⟨polymod_asByte symbols, setWidth_wordOfBytes label symbols, ?_⟩
    rw [wordText_eq, setWidth_wordOfBytes]

/-- All symbols in increasing order, each in a byte. -/
def ascending : List UInt8 := (List.range 32).map UInt8.ofNat

/-- Labels that differ in two places, with the symbols in both orders behind them. -/
theorem polymod_superposes_orderOffer :
    ascending.length = ascending.reverse.length ∧
      polymod (ascending.zipWith (· ^^^ ·) ascending.reverse) =
        polymod ascending ^^^ polymod ascending.reverse ^^^
          polymod (List.replicate ascending.length 0) ∧
      (label "order".toList).length = (label "offer".toList).length ∧
      (wordOfBytes (label "order".toList) ascending).setWidth 20 ^^^
          (wordOfBytes (label "offer".toList) ascending.reverse).setWidth 20 =
        difference ((fedBytes (label "order".toList) ascending).zipWith (· ^^^ ·)
          (fedBytes (label "offer".toList) ascending.reverse)) := by
  have sameLength : ascending.length = ascending.reverse.length := by decide
  have sameLabel : (label "order".toList).length = (label "offer".toList).length := by decide
  obtain ⟨sum, _, apart, _⟩ := polymod_superposes
  exact ⟨sameLength, sum _ _ sameLength, sameLabel, apart _ _ _ _ sameLabel sameLength⟩

end Checksum

end SortableId
