import SortableId.Identifier.Parse
import SortableId.Proofs.Layout

/-!
# Letters and digits

Names, payloads and checksums are written in ASCII letters and digits only.  Such characters take
one byte, are no white space and are no separator.  A fact about them is checked on the 128 ASCII
characters, after a lemma has said that no other character is concerned.
-/

namespace SortableId

namespace Text

/-- What holds of the 128 ASCII characters holds of every character below. -/
theorem of_ascii (property : Char → Prop)
    (checked : ∀ code < 128, property (Char.ofNat code)) {c : Char} (ascii : c.toNat < 128) :
    property c := by
  have found := checked c.toNat ascii
  rwa [Char.ofNat_toNat] at found

theorem toNat_lt_of_isAlphanum {c : Char} (alphanum : c.isAlphanum = true) : c.toNat < 128 := by
  have bounds : (65 ≤ c.toNat ∧ c.toNat ≤ 90) ∨ (97 ≤ c.toNat ∧ c.toNat ≤ 122) ∨
      (48 ≤ c.toNat ∧ c.toNat ≤ 57) := by
    simpa [Char.isAlphanum, Char.isAlpha, Char.isUpper, Char.isLower, Char.isDigit, or_assoc,
      UInt32.le_iff_toNat_le] using alphanum
  omega

theorem utf8Size_of_isAlphanum {c : Char} (alphanum : c.isAlphanum = true) : c.utf8Size = 1 :=
  of_ascii (fun c => c.utf8Size = 1) (by decide) (toNat_lt_of_isAlphanum alphanum)

theorem isBlank_of_isAlphanum {c : Char} (alphanum : c.isAlphanum = true) :
    Blank.isBlank c = false :=
  of_ascii (fun c => c.isAlphanum = true → Blank.isBlank c = false) (by decide)
    (toNat_lt_of_isAlphanum alphanum) alphanum

/-- Case is a matter of ASCII letters. -/
theorem toLower_of_le_toNat {c : Char} (beyond : 128 ≤ c.toNat) : c.toLower = c := by
  have notUpper : ¬(c.val ≥ 'A'.val ∧ c.val ≤ 'Z'.val) := by
    intro upper
    have atMost : c.toNat ≤ 90 := UInt32.le_iff_toNat_le.mp upper.2
    omega
  rw [Char.toLower, dif_neg notUpper]

/-- Folding the case neither makes letters and digits nor takes them away. -/
theorem isAlphanum_toLower (c : Char) : c.toLower.isAlphanum = c.isAlphanum := by
  by_cases ascii : c.toNat < 128
  · exact of_ascii (fun c => c.toLower.isAlphanum = c.isAlphanum) (by decide) ascii
  · rw [toLower_of_le_toNat (Nat.le_of_not_lt ascii)]

theorem utf8Length_eq_length {text : List Char} (alphanum : ∀ c ∈ text, c.isAlphanum = true) :
    utf8Length text = text.length := by
  induction text with
  | nil => rfl
  | cons c rest ih =>
      have first := utf8Size_of_isAlphanum (alphanum c (by simp))
      have others := ih fun other member => alphanum other (by simp [member])
      rw [utf8Length_cons, first, others, List.length_cons, Nat.add_comm]

/-- An ASCII character is one byte, the one of its number. -/
theorem utf8_cons_of_ascii {c : Char} (ascii : c.toNat < 128) (rest : List Char) :
    utf8 (c :: rest) = c.val.toUInt8 :: utf8 rest := by
  have single : String.utf8EncodeChar c = [c.val.toUInt8] :=
    of_ascii (fun c => String.utf8EncodeChar c = [c.val.toUInt8]) (by decide) ascii
  change String.utf8EncodeChar c ++ utf8 rest = _
  rw [single, List.singleton_append]

theorem utf8_of_ascii {text : List Char} (ascii : ∀ c ∈ text, c.toNat < 128) :
    utf8 text = text.map fun c => c.val.toUInt8 := by
  induction text with
  | nil => rfl
  | cons c rest ih =>
      rw [utf8_cons_of_ascii (ascii c (by simp)), List.map_cons,
        ih fun other member => ascii other (by simp [member])]

/-- A character outside ASCII begins with a byte outside ASCII. -/
theorem exists_utf8_cons_of_le_toNat {c : Char} (beyond : 128 ≤ c.toNat) (rest : List Char) :
    ∃ first others, utf8 (c :: rest) = first :: others ∧ 128 ≤ first.toNat := by
  have several : ¬c.val.toNat ≤ 127 := Nat.not_le_of_lt beyond
  change ∃ first others, String.utf8EncodeChar c ++ utf8 rest = first :: others ∧ _
  unfold String.utf8EncodeChar
  simp only [if_neg several]
  -- Every first byte of several has its two highest bits set.
  split
  · exact ⟨_, _, rfl, by rw [UInt8.toNat_ofNat']; omega⟩
  · split
    · exact ⟨_, _, rfl, by rw [UInt8.toNat_ofNat']; omega⟩
    · exact ⟨_, _, rfl, by rw [UInt8.toNat_ofNat']; omega⟩

theorem not_mem_of_isAlphanum {separator : Char} (other : separator.isAlphanum = false)
    {text : List Char} (alphanum : ∀ c ∈ text, c.isAlphanum = true) : separator ∉ text := by
  intro member
  have letter := alphanum separator member
  simp [other] at letter

end Text

namespace Symbol

theorem isAlphanum_toChar (symbol : Symbol) : symbol.toChar.isAlphanum = true := by
  revert symbol
  decide

@[simp] theorem toLower_toChar (symbol : Symbol) : symbol.toChar.toLower = symbol.toChar := by
  revert symbol
  decide

theorem toChar_injective : Function.Injective toChar := by
  intro left right same
  have read := ofChar?_toChar left
  rw [same, ofChar?_toChar] at read
  exact (Option.some.inj read).symm

/-- No character outside ASCII stands for a symbol. -/
theorem toNat_lt_of_accepted {c : Char} (accepted : Accepted c) : c.toNat < 128 := by
  by_contra beyond
  have unfolded : fold c = c := by
    have lower := Text.toLower_of_le_toNat (Nat.le_of_not_lt beyond)
    unfold fold
    split
    case h_4 => exact lower
    all_goals
      next letter =>
        rw [← lower, letter] at beyond
        exact absurd (by decide) beyond
  have absent : c ∉ alphabet := by
    intro member
    have check : alphabet.all (fun c => decide (c.toNat < 128)) = true := by decide
    exact beyond (of_decide_eq_true (List.all_eq_true.mp check c member))
  rw [Accepted, ofChar?, unfolded, Option.isSome_map, List.isSome_idxOf?] at accepted
  exact absent accepted

/-- The accepted characters are the ASCII letters and digits other than `u`. -/
theorem accepted_iff {c : Char} :
    Accepted c ↔ c.isAlphanum = true ∧ c ≠ 'u' ∧ c ≠ 'U' := by
  have check (c : Char) (ascii : c.toNat < 128) :
      Accepted c ↔ c.isAlphanum = true ∧ c ≠ 'u' ∧ c ≠ 'U' :=
    Text.of_ascii (fun c => Accepted c ↔ c.isAlphanum = true ∧ c ≠ 'u' ∧ c ≠ 'U')
      (by decide +kernel) ascii
  constructor
  · intro accepted
    exact (check c (toNat_lt_of_accepted accepted)).mp accepted
  · intro letter
    exact (check c (Text.toNat_lt_of_isAlphanum letter.1)).mpr letter

end Symbol

end SortableId
