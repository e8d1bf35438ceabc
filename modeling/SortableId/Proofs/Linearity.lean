import Mathlib

/-!
# Linear functions of words

Words of bits are added without carry.  A function that takes sums to sums is linear; it is
determined by its values on the words with a single bit, so two linear functions on words of any
width are compared by a check of as many values as there are bits.  A fold whose steps add up in the
word and the entry together adds up in the start and the list.
-/

namespace SortableId

theorem xor_xor_xor_cancel {width : Nat} (left right common : BitVec width) :
    left ^^^ common ^^^ (right ^^^ common) = left ^^^ right := by
  rw [BitVec.xor_comm right, BitVec.xor_assoc, ← BitVec.xor_assoc common, BitVec.xor_self,
    BitVec.zero_xor]

/-- A function that takes sums of words to sums. -/
def Linear {width image : Nat} (function : BitVec width → BitVec image) : Prop :=
  ∀ left right, function (left ^^^ right) = function left ^^^ function right

/-- The sum of the columns that a word selects, its lowest bit for the first column. -/
def select {width image : Nat} (columns : List (BitVec image)) (word : BitVec width) :
    BitVec image :=
  (columns.zipIdx.map fun (column, index) =>
    if word.getLsbD index then column else 0).foldl (· ^^^ ·) 0

/-- Sums of two families of words are added up family by family. -/
theorem foldl_xor_map {α : Type} {width : Nat} (first second : α → BitVec width)
    (entries : List α) (left right : BitVec width) :
    (entries.map fun entry => first entry ^^^ second entry).foldl (· ^^^ ·) (left ^^^ right) =
      (entries.map first).foldl (· ^^^ ·) left ^^^ (entries.map second).foldl (· ^^^ ·) right := by
  induction entries generalizing left right with
  | nil => rfl
  | cons entry entries ih =>
      have regrouped : left ^^^ right ^^^ (first entry ^^^ second entry) =
          (left ^^^ first entry) ^^^ (right ^^^ second entry) := by ac_rfl
      simp only [List.map_cons, List.foldl_cons]
      rw [regrouped, ih]

theorem length_zipWith_of_length_eq {α : Type} (add : α → α → α) {first second : List α}
    (sameLength : first.length = second.length) :
    (first.zipWith add second).length = first.length := by
  rw [List.length_zipWith, sameLength, Nat.min_self]

/-- Folds that start from two words and take in two lists differ by the fold that takes in their
sum, if each step adds up. -/
theorem foldl_xor_foldl {α : Type} {width : Nat} {add : α → α → α}
    {step : BitVec width → α → BitVec width}
    (superposes : ∀ left right first second,
      step (left ^^^ right) (add first second) = step left first ^^^ step right second)
    {first second : List α} (sameLength : first.length = second.length)
    (left right : BitVec width) :
    first.foldl step left ^^^ second.foldl step right =
      (first.zipWith add second).foldl step (left ^^^ right) := by
  induction first generalizing second left right with
  | nil =>
      cases second with
      | nil => rfl
      | cons => contradiction
  | cons entry first ih =>
      cases second with
      | nil => contradiction
      | cons other second =>
          rw [List.foldl_cons, List.foldl_cons, List.zipWith_cons_cons, List.foldl_cons, superposes]
          exact ih (Nat.succ.inj sameLength) _ _

/-- What a sum of words selects is the sum of what each selects. -/
theorem linear_select {width image : Nat} (columns : List (BitVec image)) :
    Linear (select columns : BitVec width → BitVec image) := by
  intro left right
  have selected (first second : Bool) (column : BitVec image) :
      (if (first ^^ second) = true then column else 0) =
        (if first = true then column else 0) ^^^ (if second = true then column else 0) := by
    cases first <;> cases second <;> simp
  have sum := foldl_xor_map
    (fun (column, index) => if left.getLsbD index = true then column else 0)
    (fun (column, index) => if right.getLsbD index = true then column else 0) columns.zipIdx 0 0
  have start : (0 : BitVec image) ^^^ 0 = 0 := BitVec.xor_self
  rw [start] at sum
  unfold select
  simp only [BitVec.getLsbD_xor, selected]
  exact sum

namespace Linear

variable {width middle image : Nat} {first second : BitVec width → BitVec image}

theorem map_zero (linear : Linear first) : first (BitVec.ofNat width 0) = BitVec.ofNat image 0 := by
  have doubled := linear (BitVec.ofNat width 0) (BitVec.ofNat width 0)
  rwa [BitVec.xor_self, BitVec.xor_self] at doubled

theorem comp {outer : BitVec middle → BitVec image} {inner : BitVec width → BitVec middle}
    (outerLinear : Linear outer) (innerLinear : Linear inner) :
    Linear fun word => outer (inner word) := by
  intro left right
  change outer (inner (left ^^^ right)) = outer (inner left) ^^^ outer (inner right)
  rw [innerLinear, outerLinear]

theorem identity : Linear fun word : BitVec width => word := fun _ _ => rfl

theorem setWidth : Linear fun word : BitVec width => word.setWidth image :=
  fun _ _ => BitVec.setWidth_xor

theorem iterate {function : BitVec width → BitVec width} (linear : Linear function)
    (count : Nat) : Linear function^[count] := by
  induction count with
  | zero => exact identity
  | succ count ih => exact ih.comp linear

/-- Linear functions that agree on the words with a single bit agree on every word. -/
theorem eq_of_bits (firstLinear : Linear first) (secondLinear : Linear second)
    (bits : ∀ index < width, first (BitVec.twoPow width index) =
      second (BitVec.twoPow width index)) (word : BitVec width) : first word = second word := by
  -- The bits of a word are taken away one by one, the highest first.
  suffices below : ∀ (count : Nat) (word : BitVec width),
      (∀ index, count ≤ index → word.getLsbD index = false) → first word = second word by
    exact below width word fun index beyond => BitVec.getLsbD_of_ge word index beyond
  intro count
  induction count with
  | zero =>
      intro word clear
      have empty : word = BitVec.ofNat width 0 := by
        apply BitVec.eq_of_getLsbD_eq
        intro index _
        rw [clear index (Nat.zero_le index), BitVec.getLsbD_zero]
      rw [empty, firstLinear.map_zero, secondLinear.map_zero]
  | succ count ih =>
      intro word clear
      by_cases set : word.getLsbD count = true
      · have inside : count < width := BitVec.lt_of_getLsbD set
        have others : first (word ^^^ BitVec.twoPow width count) =
            second (word ^^^ BitVec.twoPow width count) := by
          apply ih
          intro index beyond
          rw [BitVec.getLsbD_xor, BitVec.getLsbD_twoPow]
          by_cases same : count = index
          · rw [← same, set]
            simp [inside]
          · rw [clear index (by omega)]
            simp [same]
        rw [firstLinear, secondLinear, bits count inside] at others
        exact (BitVec.xor_left_inj _).mp others
      · apply ih
        intro index beyond
        by_cases same : count = index
        · rw [← same]
          exact Bool.eq_false_of_not_eq_true set
        · exact clear index (by omega)

end Linear

end SortableId
