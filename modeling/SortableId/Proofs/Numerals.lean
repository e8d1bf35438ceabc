import Mathlib
import SortableId.Body

/-!
# Chunks as digits

A list of equally wide chunks is a numeral: every chunk is a digit, the first one the most
significant.  Cutting a word writes its number in that base and joining chunks reads the numeral
back, so both directions of a round trip and the order of the written forms are facts about one
number.  Bodies use the base 32 for their symbols and the base 256 for their bytes.
-/

namespace SortableId

/-- Two numbers written with one high and one low digit are compared digit by digit. -/
theorem compare_mul_add {base leftHigh leftLow rightHigh rightLow : Nat}
    (leftBound : leftLow < base) (rightBound : rightLow < base) :
    compare (leftHigh * base + leftLow) (rightHigh * base + rightLow) =
      (compare leftHigh rightHigh).then (compare leftLow rightLow) := by
  rcases Nat.lt_trichotomy leftHigh rightHigh with below | equal | above
  · have gap : (leftHigh + 1) * base ≤ rightHigh * base := Nat.mul_le_mul_right base below
    have less : leftHigh * base + leftLow < rightHigh * base + rightLow := by
      rw [Nat.add_mul] at gap
      omega
    rw [Nat.compare_eq_lt.mpr less, Nat.compare_eq_lt.mpr below]
    rfl
  · subst equal
    rw [Std.compare_self]
    rcases Nat.lt_trichotomy leftLow rightLow with below | equal | above
    · rw [Nat.compare_eq_lt.mpr below, Nat.compare_eq_lt.mpr (Nat.add_lt_add_left below _)]
      rfl
    · subst equal
      simp
    · rw [Nat.compare_eq_gt.mpr above, Nat.compare_eq_gt.mpr (Nat.add_lt_add_left above _)]
      rfl
  · have gap : (rightHigh + 1) * base ≤ leftHigh * base := Nat.mul_le_mul_right base above
    have greater : rightHigh * base + rightLow < leftHigh * base + leftLow := by
      rw [Nat.add_mul] at gap
      omega
    rw [Nat.compare_eq_gt.mpr greater, Nat.compare_eq_gt.mpr above]
    rfl

/-- The high digit is left when the place of the low digit is dropped. -/
theorem mul_add_div_of_lt {base high low : Nat} (bound : low < base) :
    (high * base + low) / base = high := by
  rw [Nat.mul_comm, Nat.mul_add_div (Nat.zero_lt_of_lt bound), Nat.div_eq_of_lt bound, Nat.add_zero]

theorem compare_eq_compare_toNat {width : Nat} (left right : BitVec width) :
    compare left right = compare left.toNat right.toNat := by
  change compareOfLessAndEq left right = compareOfLessAndEq left.toNat right.toNat
  simp only [compareOfLessAndEq, BitVec.lt_def, BitVec.toNat_inj]

namespace Chunks

variable {width bits count : Nat}

/-- The number that chunks write, most significant first. -/
def number (chunks : List (BitVec width)) : Nat :=
  chunks.foldl (fun number chunk => number * 2 ^ width + chunk.toNat) 0

@[simp] theorem number_nil : number ([] : List (BitVec width)) = 0 := rfl

@[simp] theorem number_concat (chunks : List (BitVec width)) (chunk : BitVec width) :
    number (chunks ++ [chunk]) = number chunks * 2 ^ width + chunk.toNat := by
  simp [number]

/-- Chunks in front count above all those behind them. -/
theorem number_append (front back : List (BitVec width)) :
    number (front ++ back) = number front * 2 ^ (width * back.length) + number back := by
  induction back using List.reverseRecOn with
  | nil => simp
  | append_singleton back last ih =>
      rw [← List.append_assoc, number_concat, ih, number_concat, List.length_append,
        List.length_singleton, Nat.mul_add, Nat.mul_one, Nat.pow_add]
      ring

/-- The first chunk counts above all the others. -/
theorem number_cons (chunk : BitVec width) (rest : List (BitVec width)) :
    number (chunk :: rest) = chunk.toNat * 2 ^ (width * rest.length) + number rest := by
  have single : number [chunk] = chunk.toNat := by simp [number]
  rw [← single]
  exact number_append [chunk] rest

theorem number_lt (chunks : List (BitVec width)) :
    number chunks < 2 ^ (width * chunks.length) := by
  induction chunks using List.reverseRecOn with
  | nil => simp
  | append_singleton chunks last ih =>
      have lastBound : last.toNat < 2 ^ width := last.isLt
      have step : (number chunks + 1) * 2 ^ width ≤
          2 ^ (width * chunks.length) * 2 ^ width := Nat.mul_le_mul_right _ ih
      rw [number_concat, List.length_append, List.length_singleton, Nat.mul_add, Nat.mul_one,
        Nat.pow_add]
      rw [Nat.add_mul] at step
      omega

/-- Chunks are the digits of a number, which are often listed from the least significant on. -/
theorem number_eq_ofDigits (chunks : List (BitVec width)) :
    number chunks = Nat.ofDigits (2 ^ width) (chunks.map BitVec.toNat).reverse := by
  induction chunks using List.reverseRecOn with
  | nil => rfl
  | append_singleton chunks last ih =>
      rw [number_concat, List.map_append, List.map_singleton, List.reverse_append,
        List.reverse_singleton, List.singleton_append, Nat.ofDigits_cons, ih]
      ring

/-- The first chunks write the number without the places behind them. -/
theorem number_take (kept : Nat) (chunks : List (BitVec width)) :
    number (chunks.take kept) = number chunks / 2 ^ (width * (chunks.length - kept)) := by
  have parts := number_append (chunks.take kept) (chunks.drop kept)
  have low := number_lt (chunks.drop kept)
  rw [List.take_append_drop] at parts
  rw [List.length_drop] at parts low
  rw [parts, mul_add_div_of_lt low]

/-- The last chunks write the number in the places that they fill. -/
theorem number_drop (dropped : Nat) (chunks : List (BitVec width)) :
    number (chunks.drop dropped) = number chunks % 2 ^ (width * (chunks.length - dropped)) := by
  have parts := number_append (chunks.take dropped) (chunks.drop dropped)
  have low := number_lt (chunks.drop dropped)
  rw [List.take_append_drop] at parts
  rw [List.length_drop] at parts low
  rw [parts, Nat.mul_add_mod_of_lt low]

/-- A chunk is the digit at its place. -/
theorem toNat_getElem (chunks : List (BitVec width)) (index : Nat)
    (inBounds : index < chunks.length) :
    chunks[index].toNat =
      number chunks / 2 ^ (width * (chunks.length - (index + 1))) % 2 ^ width := by
  have front : chunks.take (index + 1) = chunks.take index ++ [chunks[index]] :=
    List.take_succ_eq_append_getElem inBounds
  rw [← number_take, front, number_concat, Nat.mul_add_mod_of_lt chunks[index].isLt]

theorem toNat_vector_getElem {size : Nat} (chunks : Vector (BitVec width) size) (index : Nat)
    (inBounds : index < size) :
    chunks[index].toNat =
      number chunks.toList / 2 ^ (width * (size - (index + 1))) % 2 ^ width := by
  have digit := toNat_getElem chunks.toList index (by rwa [Vector.length_toList])
  simpa only [Vector.length_toList, Vector.getElem_toList] using digit

/-- Joining reads the numeral, as far as the word has room. -/
theorem toNat_join (bits : Nat) (chunks : List (BitVec width)) :
    (join bits chunks).toNat = number chunks % 2 ^ bits := by
  induction chunks using List.reverseRecOn with
  | nil => simp
  | append_singleton chunks last ih =>
      rw [join_concat, number_concat, BitVec.toNat_or, BitVec.toNat_shiftLeft,
        BitVec.toNat_setWidth, ih, Nat.shiftLeft_eq, Nat.mod_mul_mod, ← Nat.or_mod_two_pow,
        Nat.mul_comm, ← Nat.two_pow_add_eq_or_of_lt last.isLt]

theorem split_succ (width count : Nat) (word : BitVec bits) :
    split width (count + 1) word =
      word.extractLsb' (width * count) width :: split width count word := by
  simp only [split, List.range_succ_eq_map, List.map_cons, List.map_map, Nat.add_sub_cancel,
    Nat.sub_zero, List.cons.injEq, true_and]
  apply List.map_congr_left
  intro index _
  simp only [Function.comp_apply, Nat.succ_eq_add_one]
  congr 2
  omega

/-- Cutting writes the number of the word, as far as there are chunks. -/
theorem number_split (width count : Nat) (word : BitVec bits) :
    number (split width count word) = word.toNat % 2 ^ (width * count) := by
  induction count with
  | zero => simp [split, Nat.mod_one]
  | succ count ih =>
      rw [split_succ, number_cons, ih, length_split, BitVec.extractLsb'_toNat,
        Nat.shiftRight_eq_div_pow, Nat.mul_add, Nat.mul_one, Nat.pow_add, Nat.mod_mul]
      ring

/-- Equally many chunks are ordered as the numbers that they write. -/
theorem compare_eq_compare_number {left right : List (BitVec width)}
    (sameLength : left.length = right.length) :
    compare left right = compare (number left) (number right) := by
  induction left generalizing right with
  | nil =>
      cases right with
      | nil => rfl
      | cons => simp at sameLength
  | cons first left ih =>
      cases right with
      | nil => simp at sameLength
      | cons second right =>
          have sameRest : left.length = right.length := Nat.succ.inj sameLength
          have leftBound := number_lt left
          rw [sameRest] at leftBound
          rw [List.compare_cons_cons, ih sameRest, compare_eq_compare_toNat, number_cons,
            number_cons, sameRest]
          exact (compare_mul_add leftBound (number_lt right)).symm

theorem number_injective {left right : List (BitVec width)}
    (sameLength : left.length = right.length) (sameNumber : number left = number right) :
    left = right := by
  apply Std.LawfulEqOrd.eq_of_compare
  rw [compare_eq_compare_number sameLength, sameNumber]
  exact Std.compare_self

/-- A word that is cut completely is joined again. -/
theorem join_split (fits : bits = width * count) (word : BitVec bits) :
    join bits (split width count word) = word := by
  apply BitVec.eq_of_toNat_eq
  rw [toNat_join, number_split, ← fits, Nat.mod_mod]
  exact Nat.mod_eq_of_lt word.isLt

/-- Chunks that fill a word are cut out of it again. -/
theorem split_join (fits : bits = width * count) {chunks : List (BitVec width)}
    (length_eq : chunks.length = count) : split width count (join bits chunks) = chunks := by
  apply number_injective
  · rw [length_split, length_eq]
  · have bound := number_lt chunks
    rw [length_eq] at bound
    rw [number_split, toNat_join, fits, Nat.mod_mod]
    exact Nat.mod_eq_of_lt bound

theorem compare_split (fits : bits = width * count) (left right : BitVec bits) :
    compare (split width count left) (split width count right) = compare left right := by
  rw [compare_eq_compare_number (by simp), number_split, number_split, ← fits,
    Nat.mod_eq_of_lt left.isLt, Nat.mod_eq_of_lt right.isLt, compare_eq_compare_toNat]

end Chunks

end SortableId
