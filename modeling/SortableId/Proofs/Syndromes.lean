import SortableId.Proofs.Numerals
import SortableId.Proofs.Register

/-!
# Syndromes

The checksums of two inputs with equally many symbols differ by what the register holds after it
was fed the changes alone, starting from zero.  Each change adds its syndrome to that, a word that
depends only on the change and on the number of symbols behind it.  With the symbols of the two
checksums in place of the final zeros the syndromes cancel, so a checksum is the last of the
symbols that it guards.  Changes with four or five symbols behind them, which are those of the last
two symbols of a payload, have no syndrome.
-/

namespace SortableId

namespace Checksum

/-! ## Changes -/

/-- What has to be added to the first symbols to get the second ones. -/
def changes (first second : List Symbol) : List Symbol := first.zipWith (· ^^^ ·) second

@[simp] theorem changes_nil : changes [] [] = [] := rfl

@[simp] theorem changes_cons (first second : Symbol) (firstRest secondRest : List Symbol) :
    changes (first :: firstRest) (second :: secondRest) =
      (first ^^^ second) :: changes firstRest secondRest := rfl

theorem length_changes {first second : List Symbol} (sameLength : first.length = second.length) :
    (changes first second).length = first.length :=
  length_zipWith_of_length_eq _ sameLength

theorem changes_append {first second : List Symbol} (firstBack secondBack : List Symbol)
    (sameLength : first.length = second.length) :
    changes (first ++ firstBack) (second ++ secondBack) =
      changes first second ++ changes firstBack secondBack :=
  List.zipWith_append sameLength

theorem changes_self (symbols : List Symbol) :
    changes symbols symbols = List.replicate symbols.length 0 := by
  induction symbols with
  | nil => rfl
  | cons symbol symbols ih =>
      rw [changes_cons, ih, BitVec.xor_self]
      rfl

/-- Two registers differ by the register that is fed with the changes, starting from the difference
before. -/
theorem foldl_step_xor_foldl_step {first second : List Symbol}
    (sameLength : first.length = second.length) (left right : BitVec 32) :
    first.foldl step left ^^^ second.foldl step right =
      (changes first second).foldl step (left ^^^ right) :=
  foldl_xor_foldl step_xor sameLength left right

/-- What changes make of the checksum: the low bits of the register that was fed with them, starting
from zero. -/
def residue (changes : List Symbol) : Checksum := (changes.foldl step 0#32).setWidth 20

theorem residue_changes {first second : List Symbol} (sameLength : first.length = second.length) :
    residue (changes first second) = residue first ^^^ residue second := by
  have linear := foldl_step_xor_foldl_step sameLength 0#32 0#32
  rw [BitVec.xor_self] at linear
  rw [residue, ← linear, BitVec.setWidth_xor]
  rfl

/-- Changes in front drift over those behind them. -/
theorem residue_append (front back : List Symbol) :
    residue (front ++ back) =
      (drift (front.foldl step 0#32) back.length).setWidth 20 ^^^ residue back := by
  have moved := foldl_step_xor (front.foldl step 0#32) 0#32 back
  rw [BitVec.xor_zero] at moved
  rw [← moved, residue, residue, List.foldl_append, BitVec.setWidth_xor, BitVec.xor_assoc]
  simp

/-! ## Checksums as symbols -/

theorem symbols_xor (left right : Checksum) :
    (left ^^^ right).symbols = changes left.symbols right.symbols := by
  simp only [symbols, Chunks.split, changes, List.zipWith_map, List.zipWith_self,
    BitVec.extractLsb'_xor]

theorem linear_residue_symbols : Linear fun checksum : Checksum => residue checksum.symbols := by
  intro left right
  change residue (symbols (left ^^^ right)) = residue (symbols left) ^^^ residue (symbols right)
  rw [symbols_xor, residue_changes (by simp)]

/-- The symbols of a checksum come to its bits again: none of them is fed back. -/
theorem residue_symbols (checksum : Checksum) : residue checksum.symbols = checksum := by
  exact linear_residue_symbols.eq_of_bits .identity (by decide +kernel) checksum

@[simp] theorem symbols_zero : (0 : Checksum).symbols = List.replicate symbolCount 0 := by
  decide

/-- The checksums of equally many symbols differ by the residue of the changes. -/
theorem ofSymbols_xor_ofSymbols (label : List UInt8) {first second : List Symbol}
    (sameLength : first.length = second.length) :
    ofSymbols label first ^^^ ofSymbols label second =
      residue (changes first second ++ List.replicate symbolCount 0) := by
  have fedLength : (first ++ List.replicate symbolCount 0).length =
      (second ++ List.replicate symbolCount 0).length := by simp [sameLength]
  have registers := foldl_step_xor_foldl_step fedLength (register (expand label))
    (register (expand label))
  rw [BitVec.xor_self, changes_append _ _ sameLength, changes_self, List.length_replicate,
    ← register_append, ← register_append] at registers
  rw [residue, ← registers, ofSymbols, ofSymbols, List.append_assoc, List.append_assoc,
    BitVec.setWidth_xor, BitVec.setWidth_xor, BitVec.setWidth_xor]
  exact xor_xor_xor_cancel _ _ _

/-- With the symbols of the checksums in place of the zeros, nothing is left of the changes. -/
theorem residue_changes_of_ofSymbols (label : List UInt8) {first second : List Symbol}
    (sameLength : first.length = second.length) :
    residue (changes (first ++ (ofSymbols label first).symbols)
      (second ++ (ofSymbols label second).symbols)) = 0#20 := by
  have apart := ofSymbols_xor_ofSymbols label sameLength
  rw [residue_append, ← symbols_zero, residue_symbols] at apart
  rw [changes_append _ _ sameLength, ← symbols_xor, residue_append, residue_symbols, apart]
  simp

/-! ## Syndromes -/

/-- What a change of one symbol adds to the residue, with the given number of symbols behind it. -/
def syndrome (behind : Nat) (change : Symbol) : Checksum :=
  (drift (change.setWidth 32) behind).setWidth 20

theorem linear_syndrome (behind : Nat) : Linear (syndrome behind) := by
  intro left right
  rw [syndrome, BitVec.setWidth_xor, drift_xor, BitVec.setWidth_xor]
  rfl

/-- No change four or five symbols before the end reaches the residue. -/
theorem syndrome_of_hidden : ∀ behind, behind = 4 ∨ behind = 5 → ∀ change,
    syndrome behind change = 0#20 := by
  rintro behind (rfl | rfl)
  · decide +kernel
  · decide +kernel

theorem residue_cons (change : Symbol) (back : List Symbol) :
    residue (change :: back) = syndrome back.length change ^^^ residue back := by
  have entered : [change].foldl step 0#32 = change.setWidth 32 := step_of_zero change
  have split := residue_append [change] back
  rw [entered] at split
  exact split

theorem foldl_step_replicate (count : Nat) :
    (List.replicate count (0 : Symbol)).foldl step 0#32 = 0#32 := by
  induction count with
  | zero => rfl
  | succ count ih =>
      have still : step 0#32 0 = 0#32 := by decide
      rw [List.replicate_succ, List.foldl_cons, still]
      exact ih

/-- Symbols that did not change add nothing. -/
theorem residue_replicate_append (count : Nat) (back : List Symbol) :
    residue (List.replicate count 0 ++ back) = residue back := by
  rw [residue, List.foldl_append, foldl_step_replicate]
  rfl

/-- A checksum does not depend on the last two symbols. -/
theorem ofSymbols_append_eq (label : List UInt8) (front : List Symbol) {back other : List Symbol}
    (backCount : back.length = 2) (otherCount : other.length = 2) :
    ofSymbols label (front ++ back) = ofSymbols label (front ++ other) := by
  obtain ⟨first, second, rfl⟩ := List.length_eq_two.mp backCount
  obtain ⟨third, fourth, rfl⟩ := List.length_eq_two.mp otherCount
  apply BitVec.xor_eq_zero_iff.mp
  rw [ofSymbols_xor_ofSymbols label (by simp), changes_append _ _ rfl, changes_self,
    List.append_assoc, residue_replicate_append]
  simp only [changes_cons, changes_nil, List.cons_append, List.nil_append, residue_cons,
    List.length_cons, List.length_replicate, symbolCount]
  rw [syndrome_of_hidden 5 (.inr rfl), syndrome_of_hidden 4 (.inl rfl)]
  decide

theorem ofSymbols_eq_of_take (label : List UInt8) {first second : List Symbol}
    (firstCount : first.length = 32) (secondCount : second.length = 32)
    (same : first.take 30 = second.take 30) : ofSymbols label first = ofSymbols label second := by
  rw [← List.take_append_drop 30 first, ← List.take_append_drop 30 second, same]
  apply ofSymbols_append_eq
  · rw [List.length_drop, firstCount]
  · rw [List.length_drop, secondCount]

/-- The sum of the syndromes of changes, each with the number of symbols behind it. -/
def total (entries : List (Nat × Symbol)) : Checksum :=
  (entries.map fun (behind, change) => syndrome behind change).foldr (· ^^^ ·) 0#20

/-- Each change with the number of changes behind it. -/
def placed (changes : List Symbol) : List (Nat × Symbol) :=
  (List.range changes.length).reverse.zip changes

theorem residue_eq_total (changes : List Symbol) : residue changes = total (placed changes) := by
  induction changes with
  | nil => rfl
  | cons change changes ih =>
      have places : placed (change :: changes) =
          (changes.length, change) :: placed changes := by
        simp [placed, List.range_succ]
      rw [residue_cons, ih, places]
      rfl

theorem lt_of_mem_placed {changes : List Symbol} {behind : Nat} {change : Symbol}
    (member : (behind, change) ∈ placed changes) : behind < changes.length := by
  have place := (List.of_mem_zip member).1
  rwa [List.mem_reverse, List.mem_range] at place

/-- Entries without a syndrome can be left out of a sum. -/
theorem total_filter {kept : Nat × Symbol → Bool} {entries : List (Nat × Symbol)}
    (others : ∀ behind change, (behind, change) ∈ entries → kept (behind, change) = false →
      syndrome behind change = 0#20) :
    total (entries.filter kept) = total entries := by
  induction entries with
  | nil => rfl
  | cons entry entries ih =>
      cases entry with
      | mk behind change =>
          have rest := ih fun behind change member => others behind change (by simp [member])
          have sum : total ((behind, change) :: entries) =
              syndrome behind change ^^^ total entries := rfl
          cases keep : kept (behind, change) with
          | true =>
              rw [List.filter_cons_of_pos keep, sum, ← rest]
              rfl
          | false =>
              rw [List.filter_cons_of_neg (by simp [keep]), rest, sum,
                others behind change (by simp) keep, BitVec.zero_xor]

end Checksum

end SortableId
