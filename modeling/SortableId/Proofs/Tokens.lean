import Mathlib
import SortableId.Json.Document
import SortableId.Json.Reader

/-!
# Written tokens

A quoted text is read back character by character: what is written for a character is read as that
character, whatever follows.  A natural number that fits 64 bits is read back digit by digit, unless
what follows would go on with the number.
-/

namespace SortableId.Json

/-! ## Quoted texts -/

theorem hexDigit?_digitChar {value : Nat} (small : value < 16) :
    hexDigit? (Nat.digitChar value) = some value := by
  have check : ∀ value < 16, hexDigit? (Nat.digitChar value) = some value := by decide
  exact check value small

/-- A control is written as four digits, of which the first two are zero. -/
theorem unit?_of_lt {code : Nat} (small : code < 256) :
    unit? '0' '0' (Nat.digitChar (code / 16)) (Nat.digitChar (code % 16)) = some code := by
  have zero : hexDigit? '0' = some 0 := rfl
  have high := hexDigit?_digitChar (Nat.div_lt_of_lt_mul small : code / 16 < 16)
  have low := hexDigit?_digitChar (Nat.mod_lt code (by decide) : code % 16 < 16)
  have joined : code / 16 * 16 + code % 16 = code := Nat.div_add_mod' code 16
  simp [unit?, zero, high, low, joined]

/-- A quoted text starts with a quote, and another one ends it. -/
theorem quote_append (content : String) (rest : List Char) :
    quote content ++ rest = '"' :: (content.toList.flatMap escape ++ '"' :: rest) := by
  simp [quote]

theorem readContent_escape (c : Char) (rest : List Char) :
    readContent (escape c ++ rest) = push c (readContent rest) := by
  unfold escape
  split
  case h_8 notQuote notBackslash _ _ _ _ _ =>
    split
    next control =>
      have found := unit?_of_lt (Nat.lt_trans control (by decide) : c.toNat < 256)
      have notLow : isLowSurrogate c.toNat = false := by
        simp only [isLowSurrogate, decide_eq_false_iff_not]
        omega
      have notHigh : isHighSurrogate c.toNat = false := by
        simp only [isHighSurrogate, decide_eq_false_iff_not]
        omega
      simp [readContent, found, notLow, notHigh]
    next visible =>
      rw [List.singleton_append, readContent.eq_def]
      split <;> simp_all
  all_goals simp [readContent, unescape?]

/-- A quoted text is read back. -/
theorem readContent_flatMap_escape (content rest : List Char) :
    readContent (content.flatMap escape ++ '"' :: rest) = .ok (content, rest) := by
  induction content with
  | nil => simp [readContent]
  | cons c content ih =>
      rw [List.flatMap_cons, List.append_assoc, readContent_escape, ih]
      rfl

/-! ## Numbers -/

/-- The text does not go on with a number. -/
def Delimited (rest : List Char) : Prop :=
  ∀ c ∈ rest.head?, c.isDigit = false ∧ c ≠ '.' ∧ c ≠ 'e' ∧ c ≠ 'E'

theorem exists_cons_toDigits (value : Nat) :
    ∃ c others, Nat.toDigits 10 value = c :: others ∧ c.isDigit = true := by
  rcases List.exists_cons_of_ne_nil (Nat.toDigits_ne_nil : Nat.toDigits 10 value ≠ []) with
    ⟨c, others, digits⟩
  have member : c ∈ Nat.toDigits 10 value := by simp [digits]
  exact ⟨c, others, digits, Nat.isDigit_of_mem_toDigits (by decide) (by decide) member⟩

theorem span_toDigits_append (value : Nat) {rest : List Char} (delimited : Delimited rest) :
    (Nat.toDigits 10 value ++ rest).span Char.isDigit = (Nat.toDigits 10 value, rest) := by
  have digits : ∀ c ∈ Nat.toDigits 10 value, c.isDigit = true := by
    intro c member
    exact Nat.isDigit_of_mem_toDigits (by decide) (by decide) member
  have ended : rest.takeWhile Char.isDigit = [] ∧ rest.dropWhile Char.isDigit = rest := by
    cases rest with
    | nil => exact ⟨rfl, rfl⟩
    | cons c rest =>
        have other : ¬c.isDigit = true := by simp [(delimited c rfl).1]
        exact ⟨List.takeWhile_cons_of_neg other, List.dropWhile_cons_of_neg other⟩
  rw [List.span_eq_takeWhile_dropWhile, List.takeWhile_append_of_pos digits,
    List.dropWhile_append_of_pos digits, ended.1, ended.2, List.append_nil]

/-- Only zero starts with a zero. -/
theorem eq_zero_of_head?_toDigits {value : Nat}
    (leading : (Nat.toDigits 10 value).head? = some '0') : value = 0 := by
  induction value using Nat.strong_induction_on with
  | _ value ih =>
      by_cases single : value < 10
      · rw [Nat.toDigits_of_lt_base single, List.head?_cons, Option.some.injEq] at leading
        exact Nat.zero_eq_digitChar.mp leading.symm
      · rw [Nat.toDigits_of_base_le (by decide) (Nat.le_of_not_lt single),
          List.head?_append_of_ne_nil _ Nat.toDigits_ne_nil] at leading
        have front := ih (value / 10) (by omega) leading
        omega

theorem readWhole_toDigits_append (value : Nat) {rest : List Char} (delimited : Delimited rest) :
    readWhole (Nat.toDigits 10 value ++ rest) = .ok (Nat.toDigits 10 value, rest) := by
  have digits : readDigits (Nat.toDigits 10 value ++ rest) = .ok (Nat.toDigits 10 value, rest) := by
    unfold readDigits
    rw [span_toDigits_append value delimited]
    split
    next shape => exact absurd (Prod.mk.inj shape).1 Nat.toDigits_ne_nil
    next shape => exact absurd (Prod.mk.inj shape).1 Nat.toDigits_ne_nil
    next shape => rw [(Prod.mk.inj shape).1, (Prod.mk.inj shape).2]
  unfold readWhole
  simp only [digits, bind, Except.bind]
  split
  next second others shape =>
    -- Zero is a single digit, so no other digit stands behind it.
    have zero : value = 0 := eq_zero_of_head?_toDigits (by rw [shape, List.head?_cons])
    rw [zero, Nat.toDigits_zero] at shape
    simp at shape
  next => rfl

namespace Significand

/-- Digits are taken as long as their number stays below the bound. -/
theorem take_eq_of_lt {digits : List Char} {value : Nat}
    (fits : Nat.ofDigitChars 10 digits value < bound) :
    take value digits = (Nat.ofDigitChars 10 digits value, []) := by
  induction digits generalizing value with
  | nil => rfl
  | cons c rest ih =>
      have next : 10 * value + (c.toNat - '0'.toNat) = value * 10 + digit c := by
        rw [digit, Nat.mul_comm]
      rw [Nat.ofDigitChars_cons, next] at fits ⊢
      have grows (digits : List Char) (start : Nat) :
          start ≤ Nat.ofDigitChars 10 digits start := by
        rw [Nat.ofDigitChars_eq_ofDigitChars_zero]
        exact Nat.le_trans (Nat.le_mul_of_pos_left start (Nat.pow_pos (by decide)))
          (Nat.le_add_right _ _)
      rw [take, if_pos (Nat.lt_of_le_of_lt (grows rest _) fits), ih fits]

theorem ofWhole_toDigits {value : Nat} (fits : value < bound) :
    ofWhole (Nat.toDigits 10 value) = ⟨value, 0⟩ := by
  have small : Nat.ofDigitChars 10 (Nat.toDigits 10 value) 0 < bound := by
    rwa [Nat.ofDigitChars_ten_toDigits]
  rw [ofWhole, take_eq_of_lt small, Nat.ofDigitChars_ten_toDigits]
  rfl

end Significand

/-- A number that fits 64 bits is read back. -/
theorem readNumber_toDigits_append {value : Nat} (fits : value < Significand.bound)
    {rest : List Char} (delimited : Delimited rest) :
    readNumber (Nat.toDigits 10 value ++ rest) = .ok (.integer value, rest) := by
  have unsigned : readNumber (Nat.toDigits 10 value ++ rest) =
      readMagnitude false (Nat.toDigits 10 value ++ rest) := by
    unfold readNumber
    split
    next shape =>
      rcases exists_cons_toDigits value with ⟨c, others, digits, digit⟩
      rw [digits, List.cons_append] at shape
      rw [(List.cons.inj shape).1] at digit
      contradiction
    next => rfl
  have whole : Number.ofDigits false (Significand.ofWhole (Nat.toDigits 10 value)) =
      .ok (.integer value) := by
    rw [Significand.ofWhole_toDigits fits]
    rfl
  simp only [unsigned, readMagnitude, readWhole_toDigits_append value delimited, bind, Except.bind]
  cases rest with
  | nil => rw [whole]; rfl
  | cons c rest =>
      rcases delimited c rfl with ⟨_, notPoint, notSmall, notCapital⟩
      have noExponent : ¬(c = 'e' ∨ c = 'E') := by simp [notSmall, notCapital]
      split
      next shape => exact absurd (List.cons.inj shape).1 notPoint
      next shape =>
        rw [← (List.cons.inj shape).1, if_neg noExponent, whole]
        rfl
      next shape => contradiction

end SortableId.Json
