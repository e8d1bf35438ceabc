import SortableId.Checksum.Basic
import SortableId.Proofs.Linearity

/-!
# The checksum register

The register is linear: what a change of the symbols does to it is again a register, fed with the
change alone.  A change of one symbol drifts upwards while the symbols behind it are fed, and what
is left of it in the 20 bits of the checksum depends on the change and on the distance only.  The
main statements compare the checksums of two inputs that differ in one symbol or in two.
-/

namespace SortableId.Checksum

/-! ## Linearity -/

/-- What is fed back for a sum of leaving bits is the sum of what is fed back for each. -/
theorem linear_feedback : Linear feedback := linear_select generators

theorem xor_and (left right mask : BitVec 32) :
    (left ^^^ right) &&& mask = (left &&& mask) ^^^ (right &&& mask) := by
  apply BitVec.eq_of_getLsbD_eq
  intro index _
  simp only [BitVec.getLsbD_and, BitVec.getLsbD_xor, Bool.and_xor_distrib_right]

/-- One step is linear in the register and the symbol together. -/
theorem step_xor (left right : BitVec 32) (first second : Symbol) :
    step (left ^^^ right) (first ^^^ second) = step left first ^^^ step right second := by
  unfold step
  rw [xor_and, BitVec.shiftLeft_xor_distrib, BitVec.setWidth_xor,
    BitVec.ushiftRight_xor_distrib, linear_feedback]
  ac_rfl

/-- What one symbol makes of a difference does not depend on the symbol. -/
theorem step_xor_step (left right : BitVec 32) (symbol : Symbol) :
    step left symbol ^^^ step right symbol = step (left ^^^ right) 0 := by
  rw [← step_xor, BitVec.xor_self]
  rfl

/-- A symbol enters an empty register as it is. -/
theorem step_of_zero (symbol : Symbol) : step 0 symbol = symbol.setWidth 32 := by
  revert symbol
  decide

/-- Two registers differ after a step by what the step makes of their difference and by the
difference of the symbols. -/
theorem step_xor_step_of_ne (left right : BitVec 32) (first second : Symbol) :
    step left first ^^^ step right second =
      step (left ^^^ right) 0 ^^^ (first ^^^ second).setWidth 32 := by
  have split := step_xor (left ^^^ right) 0 0 (first ^^^ second)
  rw [step_of_zero] at split
  rw [← step_xor, ← split]
  simp

/-! ## Drift -/

/-- What becomes of a difference between two registers while the given number of symbols is fed
into both. -/
def drift (difference : BitVec 32) : Nat → BitVec 32
  | 0 => difference
  | distance + 1 => step (drift difference distance) 0

theorem drift_add (difference : BitVec 32) (first second : Nat) :
    drift difference (first + second) = drift (drift difference first) second := by
  induction second with
  | zero => rfl
  | succ second ih => rw [← Nat.add_assoc, drift, drift, ih]

theorem drift_xor (left right : BitVec 32) (distance : Nat) :
    drift (left ^^^ right) distance = drift left distance ^^^ drift right distance := by
  induction distance with
  | zero => rfl
  | succ distance ih => rw [drift, drift, drift, ih, ← step_xor_step]

theorem drift_zero (distance : Nat) : drift 0 distance = 0 := by
  induction distance with
  | zero => rfl
  | succ distance ih =>
      rw [drift, ih]
      decide

theorem drift_zero_xor (distance : Nat) (other : BitVec 32) :
    drift 0 distance ^^^ other = other := by
  rw [drift_zero]
  exact BitVec.zero_xor

/-- Symbols that are fed into two registers move the difference, whatever the symbols are. -/
theorem foldl_step_xor (left right : BitVec 32) (symbols : List Symbol) :
    symbols.foldl step left ^^^ symbols.foldl step right =
      drift (left ^^^ right) symbols.length := by
  induction symbols using List.reverseRecOn with
  | nil => rfl
  | append_singleton symbols symbol ih =>
      rw [List.foldl_concat, List.foldl_concat, step_xor_step, ih, List.length_append]
      rfl

/-- A changed symbol adds its own drift to that of the difference so far. -/
theorem foldl_step_cons_xor (left right : BitVec 32) (first second : Symbol)
    (back : List Symbol) :
    (first :: back).foldl step left ^^^ (second :: back).foldl step right =
      drift (left ^^^ right) (1 + back.length) ^^^
        drift ((first ^^^ second).setWidth 32) back.length := by
  rw [List.foldl_cons, List.foldl_cons, foldl_step_xor, step_xor_step_of_ne, drift_xor, drift_add]
  rfl

theorem register_append (front back : List Symbol) :
    register (front ++ back) = back.foldl step (register front) :=
  List.foldl_append

/-- A change of one symbol drifts over the symbols behind it. -/
theorem register_xor_of_symbol (front back : List Symbol) (first second : Symbol) :
    register (front ++ first :: back) ^^^ register (front ++ second :: back) =
      drift ((first ^^^ second).setWidth 32) back.length := by
  rw [register_append, register_append, foldl_step_cons_xor, BitVec.xor_self]
  exact drift_zero_xor _ _

/-- Changes of two symbols drift independently. -/
theorem register_xor_of_symbols (front middle back : List Symbol)
    (first second third fourth : Symbol) :
    register (front ++ first :: middle ++ third :: back) ^^^
        register (front ++ second :: middle ++ fourth :: back) =
      drift ((first ^^^ second).setWidth 32) (middle.length + (1 + back.length)) ^^^
        drift ((third ^^^ fourth).setWidth 32) back.length := by
  rw [register_append, register_append (front ++ second :: middle), foldl_step_cons_xor,
    register_xor_of_symbol, ← drift_add]

/-! ## Checksums -/

/-- The symbols that are fed for a label and the symbols behind it. -/
def fed (label : List UInt8) (symbols : List Symbol) : List Symbol :=
  expand label ++ symbols ++ List.replicate symbolCount 0

/-- Two checksums are equal exactly when the registers differ above the checksum only. -/
theorem ofSymbols_eq_iff {left right : List UInt8} {first second : List Symbol} :
    ofSymbols left first = ofSymbols right second ↔
      (register (fed left first) ^^^ register (fed right second)).setWidth 20 = 0 := by
  change (register (fed left first) ^^^ 1).setWidth 20 =
    (register (fed right second) ^^^ 1).setWidth 20 ↔ _
  rw [BitVec.setWidth_xor, BitVec.setWidth_xor, BitVec.xor_left_inj, BitVec.setWidth_xor]
  exact BitVec.xor_eq_zero_iff.symm

end SortableId.Checksum
