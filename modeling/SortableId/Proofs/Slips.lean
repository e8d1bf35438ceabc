import SortableId.Proofs.Grammar
import SortableId.Proofs.Register

/-!
# Slips that a checksum notices

A checksum tells any two inputs apart that differ in one symbol, as long as two symbols or more
follow: the drift of the last two leaves the 20 bits of the checksum untouched.  A letter of the
label is fed twice, once with its high bits and once with its low bits, so a slip in the label is
one change or two: the high bits change only if a digit takes the place of a letter or a letter that
of a digit.
-/

namespace SortableId

namespace Kind

variable {name : List Char}

theorem length_of_accepts (wellFormed : accepts name = true) :
    2 ≤ name.length ∧ name.length ≤ 31 := by
  rcases accepts_iff.mp wellFormed with ⟨first, rest, rfl, _, _, atLeast, atMost⟩
  exact ⟨Nat.succ_le_succ atLeast, Nat.succ_le_succ atMost⟩

end Kind

/-- A list around one of its entries, and the list with that entry replaced. -/
theorem exists_set_eq {α : Type} {entries : List α} {index : Nat} (inside : index < entries.length)
    (entry : α) : ∃ front old back, entries = front ++ old :: back ∧
      entries.set index entry = front ++ entry :: back ∧ front.length = index := by
  refine ⟨entries.take index, entries[index], entries.drop (index + 1), ?_, ?_, ?_⟩
  · rw [List.getElem_cons_drop, List.take_append_drop]
  · rw [List.set_eq_take_append_cons_drop, if_pos inside]
  · exact List.length_take_of_le (Nat.le_of_lt inside)

namespace Checksum

/-! ## What reaches the checksum -/

/-- From six places on, whatever the distance in an identifier, a symbol reaches the checksum. -/
theorem setWidth_drift_ne_zero : ∀ symbol : Symbol, symbol ≠ 0 → ∀ distance ∈ List.range' 6 62,
    (drift (symbol.setWidth 32) distance).setWidth 20 ≠ (0 : Checksum) := by
  decide +kernel

/-- The high bits in which a digit differs from a letter never cancel with low bits, wherever the
letter stands in a label: `before` letters in front of it and `after` letters behind it. -/
theorem setWidth_drift_ne_drift : ∀ low : Symbol, ∀ after ∈ List.range 31,
    ∀ before ∈ List.range (31 - after), before + after ≠ 0 →
      (drift 2 (before + after + 3 + (after + 37))).setWidth 20 ≠
        ((drift (low.setWidth 32) (after + 37)).setWidth 20 : Checksum) := by
  decide +kernel

/-- A symbol with at least two symbols behind it is determined by the checksum and the symbols
around it. -/
theorem eq_of_ofSymbols_eq {label : List UInt8} {front back : List Symbol} {first second : Symbol}
    (covered : 2 ≤ back.length) (near : back.length ≤ 63)
    (same : ofSymbols label (front ++ first :: back) = ofSymbols label (front ++ second :: back)) :
    first = second := by
  have fed_eq (symbol : Symbol) : fed label (front ++ symbol :: back) =
      (expand label ++ front) ++ symbol :: (back ++ List.replicate symbolCount 0) := by
    simp [fed]
  rw [ofSymbols_eq_iff, fed_eq, fed_eq, register_xor_of_symbol, List.length_append,
    List.length_replicate] at same
  by_contra different
  have changed : first ^^^ second ≠ 0 := fun equal => different (BitVec.xor_eq_zero_iff.mp equal)
  have distance : back.length + symbolCount ∈ List.range' 6 62 := by
    rw [List.mem_range'_1]
    unfold symbolCount
    omega
  exact setWidth_drift_ne_zero _ changed _ distance same

/-- Replacing a covered symbol by another one changes the checksum. -/
theorem set_eq_self_of_ofSymbols {label : List UInt8} {symbols : List Symbol} {index : Nat}
    {symbol : Symbol} (covered : index + 3 ≤ symbols.length) (near : symbols.length ≤ 64)
    (same : ofSymbols label (symbols.set index symbol) = ofSymbols label symbols) :
    symbols.set index symbol = symbols := by
  have inside : index < symbols.length := by omega
  rcases exists_set_eq inside symbol with ⟨front, old, back, whole, changed, frontLength⟩
  have length := congrArg List.length whole
  rw [List.length_append, List.length_cons] at length
  rw [changed, whole] at same
  rw [changed, eq_of_ofSymbols_eq (by omega) (by omega) same]
  exact whole.symm

/-! ## Letters of a label -/

/-- What a letter of a label is fed as in the first pass. -/
def highSymbol (c : Char) : Symbol := (c.val.toUInt8.toBitVec.extractLsb' 5 3).setWidth 5

/-- What a letter of a label is fed as in the second pass. -/
def lowSymbol (c : Char) : Symbol := c.val.toUInt8.toBitVec.setWidth 5

/-- The two passes over the letters of a kind and the underscore behind them. -/
theorem expand_label {name : List Char} (alphanum : ∀ c ∈ name, c.isAlphanum = true) :
    expand (label name) =
      name.map highSymbol ++ highSymbol '_' :: 0 :: (name.map lowSymbol ++ [lowSymbol '_']) := by
  have bytes : label name = (name.map fun c => c.val.toUInt8) ++ [('_' : Char).val.toUInt8] := by
    rw [← Text.utf8_of_ascii fun c member => Text.toNat_lt_of_isAlphanum (alphanum c member)]
    exact List.flatMap_append
  rw [expand, bytes, List.map_append, List.map_append, List.map_map, List.map_map,
    List.append_assoc]
  rfl

/-- The two places where a letter of a label is fed, with what stands between and behind them. -/
theorem fed_label {front back : List Char} {c : Char} (symbols : List Symbol)
    (alphanum : ∀ d ∈ front ++ c :: back, d.isAlphanum = true) :
    fed (label (front ++ c :: back)) symbols =
      front.map highSymbol ++ highSymbol c ::
        (back.map highSymbol ++ highSymbol '_' :: 0 :: front.map lowSymbol) ++
      lowSymbol c ::
        (back.map lowSymbol ++ lowSymbol '_' :: (symbols ++ List.replicate symbolCount 0)) := by
  rw [fed, expand_label alphanum]
  simp

/-- The two symbols of a letter are the digits of its code in base 32. -/
theorem toNat_highSymbol_lowSymbol {c : Char} (ascii : c.toNat < 128) :
    (highSymbol c).toNat * 32 + (lowSymbol c).toNat = c.toNat := by
  have byte : c.val.toUInt8.toNat = c.toNat := by
    rw [UInt32.toNat_toUInt8]
    exact Nat.mod_eq_of_lt (Nat.lt_of_lt_of_le ascii (by decide))
  simp only [highSymbol, lowSymbol, BitVec.toNat_setWidth, BitVec.extractLsb'_toNat,
    UInt8.toNat_toBitVec, byte, Nat.shiftRight_eq_div_pow]
  omega

/-- A letter is determined by its two symbols. -/
theorem eq_of_highSymbol_eq {first second : Char} (firstAscii : first.toNat < 128)
    (secondAscii : second.toNat < 128) (high : highSymbol first = highSymbol second)
    (low : lowSymbol first = lowSymbol second) : first = second := by
  have number := toNat_highSymbol_lowSymbol firstAscii
  rw [high, low, toNat_highSymbol_lowSymbol secondAscii] at number
  rw [← Char.ofNat_toNat first, ← number, Char.ofNat_toNat]

/-- Digits have the high bits of one and lowercase letters those of three. -/
theorem highSymbol_of_lower_or_digit {c : Char} (plain : c.isLower = true ∨ c.isDigit = true) :
    highSymbol c = 1 ∨ highSymbol c = 3 :=
  Text.of_ascii (fun c => c.isLower = true ∨ c.isDigit = true → highSymbol c = 1 ∨ highSymbol c = 3)
    (by decide) (Text.toNat_lt_of_isAlphanum (Kind.isAlphanum_of_lower_or_digit plain)) plain

theorem highSymbol_xor {first second : Char}
    (firstPlain : first.isLower = true ∨ first.isDigit = true)
    (secondPlain : second.isLower = true ∨ second.isDigit = true) :
    highSymbol first ^^^ highSymbol second = 0 ∨ highSymbol first ^^^ highSymbol second = 2 := by
  rcases highSymbol_of_lower_or_digit firstPlain with firstHigh | firstHigh <;>
    rcases highSymbol_of_lower_or_digit secondPlain with secondHigh | secondHigh <;>
      rw [firstHigh, secondHigh] <;> decide

/-- A slip in a letter of a kind drifts from both places where the letter is fed. -/
theorem register_fed_label_xor {front back : List Char} {first second : Char}
    {symbols : List Symbol} (firstName : Kind.accepts (front ++ first :: back) = true)
    (secondName : Kind.accepts (front ++ second :: back) = true)
    (count : symbols.length = Body.symbolCount) :
    register (fed (label (front ++ first :: back)) symbols) ^^^
        register (fed (label (front ++ second :: back)) symbols) =
      drift ((highSymbol first ^^^ highSymbol second).setWidth 32)
          (front.length + back.length + 3 + (back.length + 37)) ^^^
        drift ((lowSymbol first ^^^ lowSymbol second).setWidth 32) (back.length + 37) := by
  have highDistance : back.length + (front.length + 1 + 1) + (1 + (back.length + 37)) =
      front.length + back.length + 3 + (back.length + 37) := by omega
  rw [fed_label symbols (Kind.isAlphanum_of_accepts firstName),
    fed_label symbols (Kind.isAlphanum_of_accepts secondName), register_xor_of_symbols,
    ← highDistance]
  simp only [List.length_append, List.length_cons, List.length_map, List.length_replicate, count]
  rfl

/-- A letter of a kind is determined by the checksum, the other letters and the symbols of the
body. -/
theorem eq_of_ofSymbols_label_eq {front back : List Char} {first second : Char}
    {symbols : List Symbol} (firstName : Kind.accepts (front ++ first :: back) = true)
    (secondName : Kind.accepts (front ++ second :: back) = true)
    (count : symbols.length = Body.symbolCount)
    (same : ofSymbols (label (front ++ first :: back)) symbols =
      ofSymbols (label (front ++ second :: back)) symbols) : first = second := by
  have firstPlain := Kind.lower_or_digit_of_accepts firstName first (by simp)
  have secondPlain := Kind.lower_or_digit_of_accepts secondName second (by simp)
  have length := Kind.length_of_accepts firstName
  rw [List.length_append, List.length_cons] at length
  rw [ofSymbols_eq_iff, register_fed_label_xor firstName secondName count] at same
  rcases highSymbol_xor firstPlain secondPlain with highSame | highChanged
  · have distance : back.length + 37 ∈ List.range' 6 62 := by
      rw [List.mem_range'_1]
      omega
    have lowSame : lowSymbol first ^^^ lowSymbol second = 0 := by
      by_contra lowChanged
      rw [highSame] at same
      exact setWidth_drift_ne_zero _ lowChanged _ distance
        ((congrArg (BitVec.setWidth 20) (drift_zero_xor _ _)).symm.trans same)
    exact eq_of_highSymbol_eq
      (Text.toNat_lt_of_isAlphanum (Kind.isAlphanum_of_lower_or_digit firstPlain))
      (Text.toNat_lt_of_isAlphanum (Kind.isAlphanum_of_lower_or_digit secondPlain))
      (BitVec.xor_eq_zero_iff.mp highSame) (BitVec.xor_eq_zero_iff.mp lowSame)
  · have after : back.length ∈ List.range 31 := by
      rw [List.mem_range]
      omega
    have before : front.length ∈ List.range (31 - back.length) := by
      rw [List.mem_range]
      omega
    rw [highChanged, BitVec.setWidth_xor] at same
    exact absurd (BitVec.xor_eq_zero_iff.mp same)
      (setWidth_drift_ne_drift _ _ after _ before (by omega))

/-- Replacing a letter of a kind by another one changes the checksum. -/
theorem set_eq_self_of_ofSymbols_label {name : List Char} {index : Nat} {c : Char}
    {symbols : List Symbol} (inside : index < name.length) (named : Kind.accepts name = true)
    (renamed : Kind.accepts (name.set index c) = true)
    (count : symbols.length = Body.symbolCount)
    (same : ofSymbols (label (name.set index c)) symbols = ofSymbols (label name) symbols) :
    name.set index c = name := by
  rcases exists_set_eq inside c with ⟨front, old, back, whole, changed, _⟩
  rw [changed] at same renamed
  rw [whole] at same named
  rw [changed, eq_of_ofSymbols_label_eq renamed named count same]
  exact whole.symm

end Checksum

end SortableId
