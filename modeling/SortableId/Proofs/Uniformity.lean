import SortableId.Proofs.Reading
import SortableId.Proofs.Syndromes

/-!
# The uniformity of the checksum

Whatever the label and the other symbols of a payload are, four symbols of it, the last ones that a
checksum guards, give every checksum exactly once.  So all checksums are equally frequent among the
payloads, and one payload in 2 ^ 20 has the checksum that is expected of another.

How the four symbols reach the checksum is a linear function of twenty bits; it has an inverse,
which is stated by its columns.
-/

namespace SortableId

theorem Symbol.exists_toChar_eq {c : Char} (canonical : c ∈ alphabet) :
    ∃ symbol : Symbol, symbol.toChar = c := by
  obtain ⟨index, rfl⟩ := List.mem_iff_get.mp canonical
  exact ⟨BitVec.ofFin index, rfl⟩

namespace Checksum

/-! ## Four symbols as a word -/

/-- Four symbols are those of a word. -/
theorem exists_symbols_eq {symbols : List Symbol} (count : symbols.length = 4) :
    ∃ word : Checksum, word.symbols = symbols :=
  ⟨Chunks.join 20 symbols, Chunks.split_join bits_eq_symbols count⟩

/-- Four characters of the alphabet are the written form of a checksum. -/
theorem exists_toChars_eq {given : List Char} (count : given.length = 4)
    (canonical : ∀ c ∈ given, c ∈ Symbol.alphabet) :
    ∃ checksum : Checksum, checksum.toChars = given := by
  have spelled : given ∈ Set.range (List.map Symbol.toChar) := by
    rw [Set.range_list_map]
    exact fun c member => Symbol.exists_toChar_eq (canonical c member)
  obtain ⟨symbols, rfl⟩ := spelled
  rw [List.length_map] at count
  obtain ⟨word, rfl⟩ := exists_symbols_eq count
  exact ⟨word, rfl⟩

/-! ## The last four guarded symbols -/

/-- What a change of the last four guarded symbols makes of the checksum: the two symbols behind
them and the final zeros follow. -/
def spread (change : Checksum) : Checksum := residue (change.symbols ++ List.replicate 6 0)

/-- The changes that change one bit of the checksum alone, for its lowest bit first. -/
def inverseColumns : List (BitVec 20) :=
  [0x8af8c, 0x5da38, 0xb1579, 0x2aadb, 0x550bf, 0x1ae01, 0x35922, 0x61644, 0xc29a8, 0xcd350,
    0x28e81, 0x51822, 0xa3044, 0x0e088, 0x16510, 0x8a2fc, 0x5c0f1, 0xb25cb, 0x2cb96, 0x53625]

theorem linear_spread : Linear spread := by
  intro left right
  have behind : changes (List.replicate 6 0) (List.replicate 6 0) = List.replicate 6 0 :=
    changes_self _
  rw [spread, symbols_xor, ← behind, ← changes_append _ _ (by simp), residue_changes (by simp)]
  rfl

/-- The change is read back from what it makes of the checksum. -/
theorem select_spread (change : Checksum) : select inverseColumns (spread change) = change :=
  ((linear_select inverseColumns).comp linear_spread).eq_of_bits .identity (by decide +kernel)
    change

theorem spread_bijective : Function.Bijective spread :=
  Finite.injective_iff_bijective.mp (Function.LeftInverse.injective select_spread)

/-- The checksums of payloads that differ in the last four guarded symbols differ by what the change
spreads to. -/
theorem ofSymbols_xor_ofSymbols_eq_spread (label : List UInt8) (front : List Symbol)
    {back : List Symbol} (backCount : back.length = 2) (left right : Checksum) :
    ofSymbols label (front ++ left.symbols ++ back) ^^^
        ofSymbols label (front ++ right.symbols ++ back) = spread (left ^^^ right) := by
  have behind : List.replicate back.length (0 : Symbol) ++ List.replicate symbolCount 0 =
      List.replicate 6 0 := by
    rw [backCount]
    rfl
  rw [ofSymbols_xor_ofSymbols label (by simp), changes_append _ _ (by simp), changes_append _ _ rfl,
    changes_self, changes_self, ← symbols_xor, List.append_assoc, behind, List.append_assoc,
    residue_replicate_append, spread]

/-- Exactly one choice of the last four guarded symbols gives the checksum. -/
theorem existsUnique_ofSymbols_eq (label : List UInt8) (front : List Symbol) {back : List Symbol}
    (backCount : back.length = 2) (checksum : Checksum) :
    ∃! symbols : List Symbol,
      symbols.length = 4 ∧ ofSymbols label (front ++ symbols ++ back) = checksum := by
  obtain ⟨change, spread_eq⟩ := spread_bijective.surjective
    (ofSymbols label (front ++ symbols 0#20 ++ back) ^^^ checksum)
  have apart := ofSymbols_xor_ofSymbols_eq_spread label front backCount 0#20 change
  rw [BitVec.zero_xor, spread_eq] at apart
  refine ⟨change.symbols, ⟨change.length_symbols, (BitVec.xor_right_inj _).mp apart⟩, ?_⟩
  rintro others ⟨count, same⟩
  obtain ⟨other, rfl⟩ := exists_symbols_eq count
  have none := ofSymbols_xor_ofSymbols_eq_spread label front backCount other change
  rw [same, (BitVec.xor_right_inj _).mp apart, BitVec.xor_self, ← linear_spread.map_zero] at none
  rw [BitVec.xor_eq_zero_iff.mp (spread_bijective.injective none).symm]

/-! ## Frequencies -/

/-- The number of lists of symbols of a length. -/
theorem ncard_length_eq (count : Nat) :
    {symbols : List Symbol | symbols.length = count}.ncard = 32 ^ count := by
  have vectors : Nat.card (List.Vector Symbol count) = 32 ^ count := by
    have symbols : Fintype.card Symbol = 32 := by decide
    rw [Nat.card_eq_fintype_card, card_vector, symbols]
  rw [← vectors, ← Nat.card_coe_set_eq]
  rfl

/-- What is left of a payload without the last four guarded symbols. -/
def remainder (payload : List Symbol) : List Symbol := payload.take 26 ++ payload.drop 30

theorem remainder_append {front symbols : List Symbol} (back : List Symbol)
    (frontCount : front.length = 26) (count : symbols.length = 4) :
    remainder (front ++ symbols ++ back) = front ++ back := by
  have guardedCount : (front ++ symbols).length = 30 := by
    rw [List.length_append, frontCount, count]
  rw [remainder, List.drop_left' guardedCount, List.append_assoc, List.take_left' frontCount]

theorem exists_parts {payload : List Symbol} (count : payload.length = 32) :
    ∃ front symbols back, payload = front ++ symbols ++ back ∧ front.length = 26 ∧
      symbols.length = 4 ∧ back.length = 2 := by
  refine ⟨payload.take 26, (payload.drop 26).take 4, (payload.drop 26).drop 4, ?_, ?_, ?_, ?_⟩
  · rw [List.append_assoc, List.take_append_drop, List.take_append_drop]
  · simp [count]
  · simp [count]
  · simp [count]

/-- Payloads with a checksum correspond to what is left of them without the last four guarded
symbols. -/
theorem bijOn_remainder (label : List UInt8) (checksum : Checksum) :
    Set.BijOn remainder
      {payload | payload.length = 32 ∧ ofSymbols label payload = checksum}
      {rest | rest.length = 28} := by
  refine ⟨?_, ?_, ?_⟩
  · rintro payload ⟨count, _⟩
    obtain ⟨front, symbols, back, rfl, frontCount, symbolsCount, backCount⟩ := exists_parts count
    rw [remainder_append back frontCount symbolsCount]
    simp [frontCount, backCount]
  · rintro payload ⟨count, checked⟩ other ⟨otherCount, otherChecked⟩ same
    obtain ⟨front, symbols, back, rfl, frontCount, symbolsCount, backCount⟩ := exists_parts count
    obtain ⟨otherFront, otherSymbols, otherBack, rfl, otherFrontCount, otherSymbolsCount,
      otherBackCount⟩ := exists_parts otherCount
    rw [remainder_append back frontCount symbolsCount,
      remainder_append otherBack otherFrontCount otherSymbolsCount] at same
    obtain ⟨rfl, rfl⟩ := List.append_inj same (frontCount.trans otherFrontCount.symm)
    rw [(existsUnique_ofSymbols_eq label front backCount checksum).unique
      ⟨symbolsCount, checked⟩ ⟨otherSymbolsCount, otherChecked⟩]
  · rintro rest count
    have backCount : (rest.drop 26).length = 2 := by
      rw [List.length_drop, count]
    have frontCount : (rest.take 26).length = 26 := by
      rw [List.length_take, count]
      decide
    obtain ⟨symbols, ⟨symbolsCount, checked⟩, _⟩ :=
      existsUnique_ofSymbols_eq label (rest.take 26) backCount checksum
    refine ⟨rest.take 26 ++ symbols ++ rest.drop 26, ⟨?_, checked⟩, ?_⟩
    · simp [frontCount, symbolsCount, backCount]
    · rw [remainder_append _ frontCount symbolsCount, List.take_append_drop]

/-- For every label the last four guarded symbols of a payload take every written checksum exactly
once, whatever the other symbols are; so every checksum is that of exactly 32 ^ 28 of the 32 ^ 32
payloads. -/
theorem every_checksum_equally_often (label : List UInt8) {given : List Char}
    (count : given.length = 4) (canonical : ∀ c ∈ given, c ∈ Symbol.alphabet) :
    (∀ front back : List Symbol, front.length = 26 → back.length = 2 →
      ∃! symbols : List Symbol,
        symbols.length = 4 ∧ (ofSymbols label (front ++ symbols ++ back)).toChars = given) ∧
    {payload | payload.length = 32 ∧ (ofSymbols label payload).toChars = given}.ncard = 32 ^ 28 ∧
    {payload : List Symbol | payload.length = 32}.ncard = 32 ^ 32 := by
  obtain ⟨checksum, rfl⟩ := exists_toChars_eq count canonical
  have written (payload : List Symbol) : (ofSymbols label payload).toChars = checksum.toChars ↔
      ofSymbols label payload = checksum :=
    ⟨toChars_injective, congrArg toChars⟩
  simp only [written]
  refine ⟨?_, ?_, ncard_length_eq 32⟩
  · intro front back _ backCount
    exact existsUnique_ofSymbols_eq label front backCount checksum
  · rw [(bijOn_remainder label checksum).ncard_eq, ncard_length_eq]

/-- One checksum of orders, among the payloads that start with zeros and among all. -/
theorem every_checksum_equally_often_order :
    ['9', 'x', 'g', 'g'].length = 4 ∧ (∀ c ∈ ['9', 'x', 'g', 'g'], c ∈ Symbol.alphabet) ∧
      (List.replicate 26 (0 : Symbol)).length = 26 ∧ [(7 : Symbol), 30].length = 2 ∧
      (∃! symbols : List Symbol, symbols.length = 4 ∧
        (ofSymbols (label "order".toList)
          (List.replicate 26 0 ++ symbols ++ [7, 30])).toChars = ['9', 'x', 'g', 'g']) ∧
      {payload | payload.length = 32 ∧
        (ofSymbols (label "order".toList) payload).toChars = ['9', 'x', 'g', 'g']}.ncard =
          32 ^ 28 := by
  have canonical : ∀ c ∈ ['9', 'x', 'g', 'g'], c ∈ Symbol.alphabet := by simp [Symbol.alphabet]
  obtain ⟨unique, frequency, _⟩ :=
    every_checksum_equally_often (label "order".toList) (rfl : ['9', 'x', 'g', 'g'].length = 4)
      canonical
  exact ⟨rfl, canonical, rfl, rfl, unique _ _ rfl rfl, frequency⟩

end Checksum

end SortableId
