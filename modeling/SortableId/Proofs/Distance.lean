import SortableId.Proofs.Reading
import SortableId.Proofs.Syndromes

/-!
# The distance of the checksum

Two payloads that differ in one of their first thirty symbols differ, taken together with their
checksums, in three places or more.  So no one or two slips in these thirty-four symbols leave a
payload with its checksum, and neither does the exchange of two different symbols.

Changes that cancel would have to be two with the same syndrome.  The register is linear not over
bits only but over the field of 32 elements: multiplying every symbol by an element of the field
multiplies the register.  One of the two changes may therefore be taken to be one, and what remains
is a finite comparison of places.
-/

namespace SortableId

/-! ## Places that differ -/

/-- The number of places in which two lists of the same length differ. -/
def mismatches {α : Type} [DecidableEq α] (first second : List α) : Nat :=
  (first.zip second).countP fun (left, right) => left != right

section Mismatches

variable {α β : Type} [DecidableEq α] [DecidableEq β] {first second : List α}

@[simp] theorem mismatches_cons (left right : α) (first second : List α) :
    mismatches (left :: first) (right :: second) =
      mismatches first second + if left = right then 0 else 1 := by
  by_cases same : left = right <;> simp [mismatches, same]

theorem mismatches_self (list : List α) : mismatches list list = 0 := by
  induction list with
  | nil => rfl
  | cons entry list ih => simp [ih]

theorem eq_of_mismatches_eq_zero (sameLength : first.length = second.length)
    (none : mismatches first second = 0) : first = second := by
  induction first generalizing second with
  | nil =>
      cases second with
      | nil => rfl
      | cons => simp at sameLength
  | cons left first ih =>
      cases second with
      | nil => simp at sameLength
      | cons right second =>
          rw [mismatches_cons, Nat.add_eq_zero_iff] at none
          obtain ⟨others, here⟩ := none
          have same : left = right := by
            by_contra different
            simp [different] at here
          rw [same, ih (Nat.succ.inj sameLength) others]

theorem mismatches_map {function : α → β} (injective : Function.Injective function)
    (first second : List α) :
    mismatches (first.map function) (second.map function) = mismatches first second := by
  induction first generalizing second with
  | nil => rfl
  | cons left first ih =>
      cases second with
      | nil => rfl
      | cons right second =>
          simp only [List.map_cons, mismatches_cons, ih, injective.eq_iff]

/-- Replacing one entry adds at most one place. -/
theorem mismatches_set_le (first second : List α) (index : Nat) (entry : α) :
    mismatches first (second.set index entry) ≤ mismatches first second + 1 := by
  induction second generalizing first index with
  | nil => simp
  | cons right second ih =>
      cases first with
      | nil => simp [mismatches]
      | cons left first =>
          cases index with
          | zero =>
              simp only [List.set_cons_zero, mismatches_cons]
              split <;> split <;> omega
          | succ index =>
              have others := ih first index
              simp only [List.set_cons_succ, mismatches_cons]
              omega

/-- Lists that differ in one place have common parts in front of it and behind it. -/
theorem exists_append_of_mismatches_eq_one (sameLength : first.length = second.length)
    (one : mismatches first second = 1) :
    ∃ front left right back, first = front ++ left :: back ∧ second = front ++ right :: back ∧
      left ≠ right := by
  induction first generalizing second with
  | nil => contradiction
  | cons left first ih =>
      cases second with
      | nil => contradiction
      | cons right second =>
          have sameRest : first.length = second.length := Nat.succ.inj sameLength
          rw [mismatches_cons] at one
          by_cases same : left = right
          · rw [if_pos same] at one
            obtain ⟨front, old, new, back, rfl, rfl, different⟩ := ih sameRest one
            exact ⟨left :: front, old, new, back, rfl, by rw [same]; rfl, different⟩
          · rw [if_neg same, Nat.add_eq_right] at one
            rw [eq_of_mismatches_eq_zero sameRest one]
            exact ⟨[], left, right, second, rfl, rfl, same⟩

end Mismatches

namespace Checksum

theorem countP_changes (first second : List Symbol) :
    (changes first second).countP (· != 0) = mismatches first second := by
  induction first generalizing second with
  | nil => rfl
  | cons left first ih =>
      cases second with
      | nil => rfl
      | cons right second =>
          have changed : (left ^^^ right != 0) = decide (left ≠ right) := by
            rw [Bool.eq_iff_iff, bne_iff_ne, decide_eq_true_iff]
            exact BitVec.xor_eq_zero_iff.not
          rw [changes_cons, List.countP_cons, ih, mismatches_cons, changed]
          by_cases same : left = right <;> simp [same]

/-! ## Multiples -/

/-- Every symbol of a register multiplied by the generator of the field of 32 elements, of which
the fifth power is the sum of the third and one. -/
def scale (register : BitVec 32) : BitVec 32 :=
  let carries := register >>> 4 &&& 0x02108421
  (register &&& 0x1ef7bdef) <<< 1 ^^^ (carries ^^^ carries <<< 3)

theorem linear_scale : Linear scale := by
  intro left right
  simp only [scale, BitVec.ushiftRight_xor_distrib, xor_and, BitVec.shiftLeft_xor_distrib]
  ac_rfl

/-- One step multiplies as well. -/
theorem scale_step (register : BitVec 32) : scale (step register 0) = step (scale register) 0 := by
  have linear_step : Linear fun register => step register 0 :=
    fun left right => (step_xor_step left right 0).symm
  exact (linear_scale.comp linear_step).eq_of_bits (linear_step.comp linear_scale)
    (by decide +kernel) register

theorem iterate_scale_drift (count : Nat) (difference : BitVec 32) (distance : Nat) :
    scale^[count] (drift difference distance) = drift (scale^[count] difference) distance := by
  have once (difference : BitVec 32) :
      scale (drift difference distance) = drift (scale difference) distance := by
    induction distance with
    | zero => rfl
    | succ distance ih => rw [drift, scale_step, ih, drift]
  induction count with
  | zero => rfl
  | succ count ih => rw [Function.iterate_succ_apply', Function.iterate_succ_apply', ih, once]

/-- What does not reach the checksum does not reach it multiplied. -/
theorem setWidth_iterate_scale (count : Nat) {register : BitVec 32}
    (hidden : register.setWidth 20 = 0#20) : (scale^[count] register).setWidth 20 = 0#20 := by
  have narrowed : Linear fun register : BitVec 32 => (register.setWidth 20).setWidth 32 :=
    Linear.setWidth.comp Linear.setWidth
  have low (register : BitVec 32) : (scale register).setWidth 20 =
      (scale ((register.setWidth 20).setWidth 32)).setWidth 20 :=
    (Linear.setWidth.comp linear_scale).eq_of_bits
      (Linear.setWidth.comp (linear_scale.comp narrowed)) (by decide +kernel) register
  induction count with
  | zero => exact hidden
  | succ count ih =>
      rw [Function.iterate_succ_apply', low, ih]
      decide

/-- Multiples of a symbol are symbols. -/
theorem exists_iterate_scale (count : Nat) (symbol : Symbol) :
    ∃ multiple : Symbol, scale^[count] (symbol.setWidth 32) = multiple.setWidth 32 := by
  have once : ∀ symbol : Symbol, ∃ multiple : Symbol,
      scale (symbol.setWidth 32) = multiple.setWidth 32 := by decide +kernel
  induction count with
  | zero => exact ⟨symbol, rfl⟩
  | succ count ih =>
      obtain ⟨multiple, multiple_eq⟩ := ih
      rw [Function.iterate_succ_apply', multiple_eq]
      exact once multiple

/-- The generator comes by every symbol but zero. -/
theorem exists_iterate_scale_eq_one : ∀ symbol : Symbol, symbol ≠ 0 →
    ∃ count < 31, scale^[count] (symbol.setWidth 32) = (1 : Symbol).setWidth 32 := by
  decide +kernel

/-! ## Places that a checksum guards -/

/-- The places that are guarded, by the number of symbols behind them: those of the checksum
itself and, after the last two symbols of the payload, the other thirty. -/
def Guarded (behind : Nat) : Prop := behind < 4 ∨ 6 ≤ behind ∧ behind < 36

instance (behind : Nat) : Decidable (Guarded behind) := inferInstanceAs (Decidable (_ ∨ _))

theorem Guarded.lt {behind : Nat} (guarded : Guarded behind) : behind < 36 := by
  unfold Guarded at guarded
  omega

theorem syndrome_ne_zero : ∀ behind < 36, Guarded behind → ∀ change, change ≠ 0 →
    syndrome behind change ≠ 0#20 := by
  decide +kernel

theorem syndrome_one_ne_syndrome : ∀ far < 36, Guarded far → ∀ near < far, Guarded near →
    ∀ change, syndrome far 1 ≠ syndrome near change := by
  decide +kernel

/-- Changes in two guarded places have different syndromes. -/
theorem syndrome_ne_syndrome {far near : Nat} (farGuarded : Guarded far)
    (nearGuarded : Guarded near) (below : near < far) {first second : Symbol}
    (changed : first ≠ 0) : syndrome far first ≠ syndrome near second := by
  intro same
  obtain ⟨count, _, one⟩ := exists_iterate_scale_eq_one first changed
  obtain ⟨multiple, multiple_eq⟩ := exists_iterate_scale count second
  have hidden : (drift (first.setWidth 32) far ^^^ drift (second.setWidth 32) near).setWidth 20 =
      0#20 := by
    rw [BitVec.setWidth_xor]
    exact BitVec.xor_eq_zero_iff.mpr same
  have multiplied := setWidth_iterate_scale count hidden
  rw [linear_scale.iterate count, iterate_scale_drift, iterate_scale_drift, one, multiple_eq,
    BitVec.setWidth_xor] at multiplied
  exact syndrome_one_ne_syndrome far farGuarded.lt farGuarded near below nearGuarded multiple
    (BitVec.xor_eq_zero_iff.mp multiplied)

/-- Whether an entry is a change, in a guarded place. -/
def isGuarded (entry : Nat × Symbol) : Bool := decide (Guarded entry.1) && entry.2 != 0

/-- What is not guarded has no syndrome. -/
theorem syndrome_of_isGuarded_eq_false {behind : Nat} {change : Symbol} (bound : behind < 36)
    (unguarded : isGuarded (behind, change) = false) : syndrome behind change = 0#20 := by
  by_cases changed : change = 0
  · rw [changed]
    exact (linear_syndrome behind).map_zero
  · have hidden : ¬Guarded behind := by
      intro place
      exact changed (by simpa [isGuarded, place] using unguarded)
    apply syndrome_of_hidden
    unfold Guarded at hidden
    omega

/-- Guarded changes in different places that cancel are at least three. -/
theorem three_le_length_of_total {entries : List (Nat × Symbol)} (notEmpty : entries ≠ [])
    (guarded : ∀ entry ∈ entries, isGuarded entry = true)
    (descending : entries.Pairwise fun left right => right.1 < left.1)
    (cancel : total entries = 0#20) : 3 ≤ entries.length := by
  have parts : ∀ entry ∈ entries, Guarded entry.1 ∧ entry.2 ≠ 0 := by
    intro entry member
    simpa [isGuarded] using guarded entry member
  match entries with
  | [] => contradiction
  | [(behind, change)] =>
      obtain ⟨place, changed⟩ := parts _ (List.mem_singleton_self _)
      have alone : total [(behind, change)] = syndrome behind change := BitVec.xor_zero
      rw [alone] at cancel
      exact absurd cancel (syndrome_ne_zero behind place.lt place change changed)
  | [(far, first), (near, second)] =>
      obtain ⟨farPlace, firstChanged⟩ := parts (far, first) (by simp)
      obtain ⟨nearPlace, _⟩ := parts (near, second) (by simp)
      have below : near < far := by simpa using descending
      have pair : total [(far, first), (near, second)] =
          syndrome far first ^^^ syndrome near second := by
        simp [total]
      rw [pair] at cancel
      exact absurd (BitVec.xor_eq_zero_iff.mp cancel)
        (syndrome_ne_syndrome farPlace nearPlace below firstChanged)
  | _ :: _ :: _ :: _ => simp

theorem countP_isGuarded {places : List Nat} {changes : List Symbol}
    (sameLength : places.length = changes.length) (inside : ∀ behind ∈ places, Guarded behind) :
    (places.zip changes).countP isGuarded = changes.countP (· != 0) := by
  induction places generalizing changes with
  | nil =>
      cases changes with
      | nil => rfl
      | cons => simp at sameLength
  | cons behind places ih =>
      cases changes with
      | nil => simp at sameLength
      | cons change changes =>
          have here : isGuarded (behind, change) = (change != 0) := by
            simp [isGuarded, inside behind]
          rw [List.zip_cons_cons, List.countP_cons, List.countP_cons, here,
            ih (Nat.succ.inj sameLength) fun other member => inside other (by simp [member])]

theorem countP_isGuarded_of_hidden {places : List Nat} {changes : List Symbol}
    (hidden : ∀ behind ∈ places, ¬Guarded behind) :
    (places.zip changes).countP isGuarded = 0 := by
  rw [List.countP_eq_zero]
  rintro ⟨behind, change⟩ member
  simp [isGuarded, hidden behind (List.of_mem_zip member).1]

/-- Of the changes of a payload and its checksum, those of the last two symbols of the payload are
not guarded. -/
theorem countP_isGuarded_placed {front hidden back : List Symbol} (frontCount : front.length = 30)
    (hiddenCount : hidden.length = 2) (backCount : back.length = 4) :
    (placed (front ++ hidden ++ back)).countP isGuarded =
      front.countP (· != 0) + back.countP (· != 0) := by
  have places : (List.range (front ++ hidden ++ back).length).reverse =
      (List.range' 6 30).reverse ++ [5, 4] ++ [3, 2, 1, 0] := by
    rw [List.length_append, List.length_append, frontCount, hiddenCount, backCount]
    decide
  rw [placed, places, List.zip_append (by simp [frontCount, hiddenCount]),
    List.zip_append (by simp [frontCount]), List.countP_append, List.countP_append,
    countP_isGuarded (by simp [frontCount]) (by decide), countP_isGuarded_of_hidden (by decide),
    countP_isGuarded (by simp [backCount]) (by decide), Nat.add_zero]

theorem pairwise_placed (changes : List Symbol) :
    (placed changes).Pairwise fun left right => right.1 < left.1 := by
  have descending : (List.range changes.length).reverse.Pairwise (· > ·) :=
    List.pairwise_reverse.mpr List.pairwise_lt_range
  have places : (placed changes).map Prod.fst = (List.range changes.length).reverse :=
    List.map_fst_zip (by simp)
  rw [← places, List.pairwise_map] at descending
  exact descending

/-- The guarded changes between two payloads that are followed by their checksums. -/
def guardedChanges (first second : List Symbol) : List (Nat × Symbol) :=
  (placed (changes first second)).filter isGuarded

theorem length_guardedChanges {front other back otherBack tail otherTail : List Symbol}
    (frontCount : front.length = 30) (otherCount : other.length = 30) (backCount : back.length = 2)
    (otherBackCount : otherBack.length = 2) (tailCount : tail.length = 4)
    (otherTailCount : otherTail.length = 4) :
    (guardedChanges (front ++ back ++ tail) (other ++ otherBack ++ otherTail)).length =
      mismatches front other + mismatches tail otherTail := by
  have sameFront : front.length = other.length := frontCount.trans otherCount.symm
  have sameBack : back.length = otherBack.length := backCount.trans otherBackCount.symm
  have sameTail : tail.length = otherTail.length := tailCount.trans otherTailCount.symm
  rw [guardedChanges, ← List.countP_eq_length_filter, changes_append _ _ (by simp [*]),
    changes_append _ _ sameFront, ← countP_changes front, ← countP_changes tail]
  apply countP_isGuarded_placed
  · rw [length_changes sameFront, frontCount]
  · rw [length_changes sameBack, backCount]
  · rw [length_changes sameTail, tailCount]

/-- Nothing is lost with the changes that are not guarded. -/
theorem total_guardedChanges {first second : List Symbol} (firstCount : first.length = 36)
    (secondCount : second.length = 36) :
    total (guardedChanges first second) = residue (changes first second) := by
  rw [guardedChanges, residue_eq_total]
  apply total_filter
  intro behind change member unguarded
  have bound := lt_of_mem_placed member
  rw [length_changes (firstCount.trans secondCount.symm), firstCount] at bound
  exact syndrome_of_isGuarded_eq_false bound unguarded

/-- Two payloads that differ before their last two symbols differ, with their checksums, in three
places. -/
theorem three_le_mismatches (label : List UInt8) {front other back otherBack : List Symbol}
    (frontCount : front.length = 30) (otherCount : other.length = 30) (backCount : back.length = 2)
    (otherBackCount : otherBack.length = 2) (different : front ≠ other) :
    3 ≤ mismatches front other + mismatches (ofSymbols label (front ++ back)).symbols
      (ofSymbols label (other ++ otherBack)).symbols := by
  have sameLength : (front ++ back).length = (other ++ otherBack).length := by simp [*]
  rw [← length_guardedChanges frontCount otherCount backCount otherBackCount (length_symbols _)
    (length_symbols _)]
  apply three_le_length_of_total
  · intro none
    have noMismatch := congrArg List.length none
    rw [length_guardedChanges frontCount otherCount backCount otherBackCount (length_symbols _)
      (length_symbols _), List.length_nil, Nat.add_eq_zero_iff] at noMismatch
    exact different
      (eq_of_mismatches_eq_zero (frontCount.trans otherCount.symm) noMismatch.1)
  · intro entry member
    exact (List.mem_filter.mp member).2
  · exact (pairwise_placed _).filter _
  · rw [total_guardedChanges (by simp [*]) (by simp [*])]
    exact residue_changes_of_ofSymbols label sameLength

/-- The same for payloads as a whole. -/
theorem three_le_mismatches_take (label : List UInt8) {first second : List Symbol}
    (firstCount : first.length = 32) (secondCount : second.length = 32)
    (different : first.take 30 ≠ second.take 30) :
    3 ≤ mismatches (first.take 30) (second.take 30) +
      mismatches (ofSymbols label first).symbols (ofSymbols label second).symbols := by
  have firstBack : (first.drop 30).length = 2 := by rw [List.length_drop, firstCount]
  have secondBack : (second.drop 30).length = 2 := by rw [List.length_drop, secondCount]
  have distance := three_le_mismatches label (by simp [firstCount]) (by simp [secondCount])
    firstBack secondBack different
  rwa [List.take_append_drop, List.take_append_drop] at distance

theorem mismatches_toChars (left right : Checksum) :
    mismatches left.toChars right.toChars = mismatches left.symbols right.symbols :=
  mismatches_map Symbol.toChar_injective _ _

/-- Symbols differ in some place after an exchange of two different ones. -/
theorem take_exchange_ne {symbols : List Symbol} {bound left right : Nat} {first second : Symbol}
    (atLeft : symbols[left]? = some first) (atRight : symbols[right]? = some second)
    (different : first ≠ second) (near : left < bound ∨ right < bound) :
    ((symbols.set left second).set right first).take bound ≠ symbols.take bound := by
  intro same
  have apart : left ≠ right := by
    rintro rfl
    exact different (Option.some.inj (atLeft.symm.trans atRight))
  have leftInside : left < symbols.length := (List.getElem?_eq_some_iff.mp atLeft).1
  have rightInside : right < (symbols.set left second).length := by
    rw [List.length_set]
    exact (List.getElem?_eq_some_iff.mp atRight).1
  rcases near with nearLeft | nearRight
  · have entry := congrArg (·[left]?) same
    rw [List.getElem?_take_of_lt nearLeft, List.getElem?_take_of_lt nearLeft,
      List.getElem?_set_ne apart.symm, List.getElem?_set_self leftInside, atLeft] at entry
    exact different (Option.some.inj entry).symm
  · have entry := congrArg (·[right]?) same
    rw [List.getElem?_take_of_lt nearRight, List.getElem?_take_of_lt nearRight,
      List.getElem?_set_self rightInside, atRight] at entry
    exact different (Option.some.inj entry)

/-- A checksum notices every one or two slips in the first thirty symbols of a payload and its own
four: payloads that differ there differ, with their checksums, in three places; so a payload with
one or two slips in it or in its checksum does not verify, and neither does one in which two
different symbols were exchanged. -/
theorem notices_two_slips (label : List UInt8) {first : List Symbol} (count : first.length = 32) :
    (∀ second : List Symbol, second.length = 32 → first.take 30 ≠ second.take 30 →
      3 ≤ mismatches (first.take 30) (second.take 30) +
        mismatches (ofSymbols label first).toChars (ofSymbols label second).toChars) ∧
    (∀ (second : List Symbol) (given : Checksum) (slips : Nat), second.length = 32 →
      slips = mismatches (first.take 30) (second.take 30) +
        mismatches (ofSymbols label first).symbols given.symbols →
      slips = 1 ∨ slips = 2 → (ofSymbols label second).spelledBy given.toChars = false) ∧
    ∀ (left right : Nat) (atLeft atRight : Symbol), first[left]? = some atLeft →
      first[right]? = some atRight → atLeft ≠ atRight → left < 30 ∨ right < 30 →
      ofSymbols label ((first.set left atRight).set right atLeft) ≠ ofSymbols label first := by
  refine ⟨?_, ?_, ?_⟩
  · intro second secondCount different
    rw [mismatches_toChars]
    exact three_le_mismatches_take label count secondCount different
  · intro second given slips secondCount slips_eq few
    by_contra valid
    have same : ofSymbols label second = given := by
      rw [Bool.not_eq_false, spelledBy_iff, map_toLower_toChars] at valid
      exact (toChars_injective valid).symm
    by_cases fronts : first.take 30 = second.take 30
    · rw [fronts, mismatches_self, ofSymbols_eq_of_take label count secondCount fronts, same,
        mismatches_self] at slips_eq
      omega
    · have distance := three_le_mismatches_take label count secondCount fronts
      rw [same, ← slips_eq] at distance
      omega
  · intro left right atLeft atRight leftEntry rightEntry different near same
    have exchanged := take_exchange_ne leftEntry rightEntry different near
    have distance := three_le_mismatches_take label count (by simp [count]) exchanged.symm
    rw [same, mismatches_self, List.take_set, List.take_set] at distance
    have once := mismatches_set_le (first.take 30) (first.take 30) left atRight
    have twice := mismatches_set_le (first.take 30) ((first.take 30).set left atRight) right atLeft
    rw [mismatches_self] at once
    omega

/-- A payload of all symbols in increasing order. -/
def increasing : List Symbol := (List.range 32).map (BitVec.ofNat 5)

/-- A changed symbol, a changed symbol and a slip in the checksum, and an exchange of the first
symbol and the last. -/
theorem notices_two_slips_increasing :
    increasing.length = 32 ∧
      3 ≤ mismatches (increasing.take 30) ((increasing.set 4 7).take 30) +
        mismatches (ofSymbols (label "order".toList) increasing).toChars
          (ofSymbols (label "order".toList) (increasing.set 4 7)).toChars ∧
      (ofSymbols (label "order".toList) (increasing.set 4 7)).spelledBy
        (ofSymbols (label "order".toList) increasing ^^^ 0x20).toChars = false ∧
      ofSymbols (label "order".toList) ((increasing.set 0 31).set 31 0) ≠
        ofSymbols (label "order".toList) increasing := by
  have count : increasing.length = 32 := by decide
  obtain ⟨apart, slips, exchange⟩ := notices_two_slips (label "order".toList) count
  refine ⟨count, apart _ (by decide) (by decide), ?_, ?_⟩
  · exact slips _ _ 2 (by decide) (by decide +kernel) (.inr rfl)
  · exact exchange 0 31 0 31 (by decide) (by decide) (by decide) (.inl (by decide))

end Checksum

end SortableId
