import SortableId.Proofs.Order
import SortableId.Proofs.RoundTrip

/-!
# The order across kinds

Identifiers are ordered by the name of their kind first, and so are their written forms, with the
separator behind the name.  The underscore comes after all digits and before all lowercase letters.
So the two orders agree unless one name is all of the other one and goes on with a digit; then the
shorter name comes first, but its written forms come last.
-/

namespace SortableId

namespace Text

/-- Texts in increasing order of their bytes. -/
def sortBytes (texts : List String) : List String :=
  texts.mergeSort fun left right => (compareBytes left right).isLE

/-- The longer text begins with the whole shorter one and goes on with a digit. -/
def ContinuedByDigit (shorter longer : List Char) : Prop :=
  ∃ digit rest, digit.isDigit = true ∧ longer = shorter ++ digit :: rest

theorem continuedByDigit_iff {shorter longer : List Char} :
    ContinuedByDigit shorter longer ↔
      shorter <+: longer ∧ (longer.drop shorter.length).head?.any Char.isDigit = true := by
  constructor
  · rintro ⟨digit, rest, isDigit, rfl⟩
    exact ⟨List.prefix_append _ _, by simpa using isDigit⟩
  · rintro ⟨⟨rest, rfl⟩, goesOn⟩
    rw [List.drop_left] at goesOn
    cases rest with
    | nil => contradiction
    | cons digit rest => exact ⟨digit, rest, goesOn, rfl⟩

instance (shorter longer : List Char) : Decidable (ContinuedByDigit shorter longer) :=
  decidable_of_iff _ continuedByDigit_iff.symm

theorem continuedByDigit_cons {c : Char} {shorter longer : List Char} :
    ContinuedByDigit (c :: shorter) (c :: longer) ↔ ContinuedByDigit shorter longer := by
  simp [ContinuedByDigit]

end Text

/-- The name of one kind is the whole name of the other and goes on with a digit. -/
def Kind.Contrary (left right : Kind) : Prop :=
  Text.ContinuedByDigit left.name.toList right.name.toList ∨
    Text.ContinuedByDigit right.name.toList left.name.toList

instance (left right : Kind) : Decidable (left.Contrary right) := by
  unfold Kind.Contrary
  infer_instance

/-! ## Characters and bytes -/

namespace Text

theorem compare_toUInt8 {first second : Char} (firstAscii : first.toNat < 128)
    (secondAscii : second.toNat < 128) :
    compare first.val.toUInt8 second.val.toUInt8 = compare first second := by
  have firstByte : first.val.toUInt8.toNat = first.toNat :=
    (UInt32.toNat_toUInt8 _).trans (Nat.mod_eq_of_lt (Nat.lt_trans firstAscii (by decide)))
  have secondByte : second.val.toUInt8.toNat = second.toNat :=
    (UInt32.toNat_toUInt8 _).trans (Nat.mod_eq_of_lt (Nat.lt_trans secondAscii (by decide)))
  change compareOfLessAndEq _ _ = compareOfLessAndEq first second
  simp only [compareOfLessAndEq, UInt8.lt_iff_toNat_lt, ← UInt8.toNat_inj, firstByte, secondByte,
    Char.lt_def, UInt32.lt_iff_toNat_lt, ← Char.toNat_inj]
  rfl

/-- The bytes of ASCII texts are in the order of the characters. -/
theorem compare_utf8_of_ascii {left right : List Char} (leftAscii : ∀ c ∈ left, c.toNat < 128)
    (rightAscii : ∀ c ∈ right, c.toNat < 128) :
    compare (utf8 left) (utf8 right) = compare left right := by
  induction left generalizing right with
  | nil =>
      cases right with
      | nil => rfl
      | cons second right =>
          rw [utf8_cons_of_ascii (rightAscii second (by simp))]
          rfl
  | cons first left ih =>
      have firstAscii := leftAscii first (by simp)
      rw [utf8_cons_of_ascii firstAscii]
      cases right with
      | nil => rfl
      | cons second right =>
          have secondAscii := rightAscii second (by simp)
          rw [utf8_cons_of_ascii secondAscii, List.compare_cons_cons, List.compare_cons_cons,
            compare_toUInt8 firstAscii secondAscii,
            ih (fun c member => leftAscii c (by simp [member]))
              (fun c member => rightAscii c (by simp [member]))]

/-- Lists of characters are compared as the strings of them. -/
theorem compare_eq_compareOfLessAndEq (left right : List Char) :
    compare left right = compareOfLessAndEq left right := by
  induction left generalizing right with
  | nil =>
      cases right with
      | nil => rfl
      | cons second right => simp [compareOfLessAndEq]
  | cons first left ih =>
      cases right with
      | nil => simp [compareOfLessAndEq]
      | cons second right =>
          rw [List.compare_cons_cons, ih]
          change (compareOfLessAndEq first second).then _ = _
          simp only [compareOfLessAndEq, List.cons_lt_cons_iff, List.cons.injEq]
          rcases lt_trichotomy first second with below | equal | above
          · simp [below]
          · simp [equal]
          · simp [above.not_gt, above.ne']

theorem compare_toList (left right : String) :
    compare left.toList right.toList = compare left right := by
  rw [compare_eq_compareOfLessAndEq]
  change _ = compareOfLessAndEq left right
  simp only [compareOfLessAndEq, String.toList_inj]
  rfl

end Text

/-! ## Names in front of the separator -/

namespace Kind

theorem compare_separator_digit {digit : Char} (isDigit : digit.isDigit = true) :
    compare '_' digit = .gt :=
  Text.of_ascii (fun c => c.isDigit = true → compare '_' c = .gt) (by decide)
    (Text.toNat_lt_of_isAlphanum (isAlphanum_of_lower_or_digit (.inr isDigit))) isDigit

theorem compare_separator_lower {letter : Char} (isLower : letter.isLower = true) :
    compare '_' letter = .lt :=
  Text.of_ascii (fun c => c.isLower = true → compare '_' c = .lt) (by decide)
    (Text.toNat_lt_of_isAlphanum (isAlphanum_of_lower_or_digit (.inl isLower))) isLower

variable {left right : List Char}

/-- The digit comes before the separator at its place. -/
theorem compare_separated_of_continued (continued : Text.ContinuedByDigit left right)
    (leftBack rightBack : List Char) :
    compare left right = .lt ∧
      compare (left ++ '_' :: leftBack) (right ++ '_' :: rightBack) = .gt := by
  obtain ⟨digit, rest, isDigit, rfl⟩ := continued
  constructor
  · have front := compare_append_left left [] (digit :: rest)
    rwa [List.append_nil] at front
  · rw [List.append_assoc, compare_append_left, List.cons_append, List.compare_cons_cons,
      compare_separator_digit isDigit]
    rfl

/-- In all other cases a letter or the first difference within both names decides. -/
theorem compare_separated_of_ne (leftPlain : ∀ c ∈ left, c.isLower = true ∨ c.isDigit = true)
    (rightPlain : ∀ c ∈ right, c.isLower = true ∨ c.isDigit = true) (different : left ≠ right)
    (notLeft : ¬Text.ContinuedByDigit left right) (notRight : ¬Text.ContinuedByDigit right left)
    (leftBack rightBack : List Char) :
    compare (left ++ '_' :: leftBack) (right ++ '_' :: rightBack) = compare left right := by
  induction left generalizing right with
  | nil =>
      cases right with
      | nil => exact absurd rfl different
      | cons second right =>
          have isLower : second.isLower = true := by
            refine (rightPlain second (by simp)).resolve_right fun isDigit => ?_
            exact notLeft ⟨second, right, isDigit, rfl⟩
          rw [List.nil_append, List.cons_append, List.compare_cons_cons,
            compare_separator_lower isLower]
          rfl
  | cons first left ih =>
      cases right with
      | nil =>
          have isLower : first.isLower = true := by
            refine (leftPlain first (by simp)).resolve_right fun isDigit => ?_
            exact notRight ⟨first, left, isDigit, rfl⟩
          have after : compare first '_' = .gt :=
            Std.OrientedCmp.gt_of_lt (compare_separator_lower isLower)
          rw [List.nil_append, List.cons_append, List.compare_cons_cons, after]
          rfl
      | cons second right =>
          rw [List.cons_append, List.cons_append, List.compare_cons_cons, List.compare_cons_cons]
          by_cases same : first = second
          · subst same
            rw [ih (fun c member => leftPlain c (by simp [member]))
              (fun c member => rightPlain c (by simp [member]))
              (fun equal => different (congrArg _ equal))
              (fun continued => notLeft (Text.continuedByDigit_cons.mpr continued))
              (fun continued => notRight (Text.continuedByDigit_cons.mpr continued))]
          · cases decided : compare first second with
            | lt => rfl
            | gt => rfl
            | eq => exact absurd (Std.LawfulEqOrd.eq_of_compare decided) same

end Kind

namespace Identifier

variable {left right : Identifier}

theorem toNat_lt_of_mem_toChars {id : Identifier} {withChecksum : Bool} {c : Char}
    (member : c ∈ id.toChars withChecksum) : c.toNat < 128 := by
  rw [← chars_spelling] at member
  rcases Spelling.isAlphanum_or_eq_of_mem_chars (wellFormed_spelling id withChecksum) member with
    alphanum | rfl | rfl
  · exact Text.toNat_lt_of_isAlphanum alphanum
  · decide
  · decide

/-- The separator and all that follows stands behind the name of the kind. -/
theorem exists_toChars_eq_name (id : Identifier) (withChecksum : Bool) :
    ∃ back, id.toChars withChecksum = id.kind.name.toList ++ '_' :: back := by
  cases withChecksum with
  | false => exact ⟨id.payload, rfl⟩
  | true => exact ⟨id.payload ++ '-' :: id.checksum.toChars, List.append_assoc _ _ _⟩

theorem compareBytes_encode_eq (left right : Identifier) (withChecksum : Bool) :
    Text.compareBytes (left.encode withChecksum) (right.encode withChecksum) =
      compare (left.toChars withChecksum) (right.toChars withChecksum) := by
  rw [Text.compareBytes, encode, encode, String.toList_ofList, String.toList_ofList]
  exact Text.compare_utf8_of_ascii (fun _ => toNat_lt_of_mem_toChars)
    (fun _ => toNat_lt_of_mem_toChars)

/-- Different kinds decide alone. -/
theorem compare_eq_compare_name (different : left.kind ≠ right.kind) :
    compare left right = compare left.kind.name.toList right.kind.name.toList := by
  change (compare left.kind.name right.kind.name).then _ = _
  rw [Text.compare_toList]
  cases decided : compare left.kind.name right.kind.name with
  | lt => rfl
  | gt => rfl
  | eq => exact absurd (Kind.eq_of_name_eq (Std.LawfulEqOrd.eq_of_compare decided)) different

theorem compare_swap_of_ne (different : left.kind ≠ right.kind) :
    compare right left = (compare left right).swap := by
  rw [compare_eq_compare_name different, compare_eq_compare_name different.symm]
  exact Std.OrientedOrd.eq_swap

theorem compareBytes_swap (left right : String) :
    Text.compareBytes right left = (Text.compareBytes left right).swap :=
  Std.OrientedOrd.eq_swap

/-- Where the name of one kind goes on with a digit behind the name of the other, its identifiers
come later, and their written forms earlier. -/
theorem orders_of_continued
    (continued : Text.ContinuedByDigit left.kind.name.toList right.kind.name.toList)
    (withChecksum : Bool) :
    left.kind ≠ right.kind ∧ compare left right = .lt ∧
      Text.compareBytes (left.encode withChecksum) (right.encode withChecksum) = .gt := by
  obtain ⟨leftBack, left_eq⟩ := left.exists_toChars_eq_name withChecksum
  obtain ⟨rightBack, right_eq⟩ := right.exists_toChars_eq_name withChecksum
  obtain ⟨names, written⟩ := Kind.compare_separated_of_continued continued leftBack rightBack
  have different : left.kind ≠ right.kind := by
    intro same
    rw [same, Std.compare_self] at names
    contradiction
  rw [compare_eq_compare_name different, compareBytes_encode_eq, left_eq, right_eq]
  exact ⟨different, names, written⟩

/-- Whichever of the two names is the longer one, the written forms are in the other order. -/
theorem compareBytes_of_contrary (contrary : left.kind.Contrary right.kind) (withChecksum : Bool) :
    Text.compareBytes (left.encode withChecksum) (right.encode withChecksum) =
        (compare left right).swap ∧ compare left right ≠ .eq := by
  rcases contrary with continued | continued
  · obtain ⟨_, record, written⟩ := orders_of_continued continued withChecksum
    rw [record, written]
    exact ⟨rfl, by decide⟩
  · obtain ⟨different, record, written⟩ := orders_of_continued continued withChecksum
    rw [compare_swap_of_ne different, compareBytes_swap, record, written]
    exact ⟨rfl, by decide⟩

/-- Apart from contrary kinds the written forms are in the order of the identifiers. -/
theorem compareBytes_of_not_contrary (notContrary : ¬left.kind.Contrary right.kind)
    (withChecksum : Bool) :
    Text.compareBytes (left.encode withChecksum) (right.encode withChecksum) =
      compare left right := by
  by_cases sameKind : left.kind = right.kind
  · exact compareBytes_encode sameKind withChecksum
  · obtain ⟨notLeft, notRight⟩ := not_or.mp notContrary
    obtain ⟨leftBack, left_eq⟩ := left.exists_toChars_eq_name withChecksum
    obtain ⟨rightBack, right_eq⟩ := right.exists_toChars_eq_name withChecksum
    have different : left.kind.name.toList ≠ right.kind.name.toList := by
      intro same
      exact sameKind (Kind.eq_of_name_eq (String.toList_inj.mp same))
    rw [compareBytes_encode_eq, left_eq, right_eq, compare_eq_compare_name sameKind]
    exact Kind.compare_separated_of_ne (Kind.lower_or_digit_of_accepts left.kind.wellFormed)
      (Kind.lower_or_digit_of_accepts right.kind.wellFormed) different notLeft notRight
      leftBack rightBack

/-- The order of two identifiers and the order of their written forms differ exactly for contrary
kinds, and then they are opposite.  Identifiers without contrary kinds among them are sorted alike in
both forms. -/
theorem order_across_kinds (withChecksum : Bool) :
    (∀ left right : Identifier,
      (Text.compareBytes (left.encode withChecksum) (right.encode withChecksum) ≠
          compare left right ↔ left.kind.Contrary right.kind) ∧
        (left.kind.Contrary right.kind →
          Text.compareBytes (left.encode withChecksum) (right.encode withChecksum) =
            (compare left right).swap)) ∧
      ∀ ids : List Identifier,
        (∀ left ∈ ids, ∀ right ∈ ids, ¬left.kind.Contrary right.kind) →
          (sort ids).map (·.encode withChecksum) =
            Text.sortBytes (ids.map (·.encode withChecksum)) := by
  refine ⟨fun left right => ⟨⟨?_, ?_⟩, ?_⟩, ?_⟩
  · intro differ
    by_contra notContrary
    exact differ (compareBytes_of_not_contrary notContrary withChecksum)
  · intro contrary
    obtain ⟨opposite, unequal⟩ := compareBytes_of_contrary contrary withChecksum
    rw [opposite]
    cases decided : compare left right with
    | lt => decide
    | gt => decide
    | eq => exact absurd decided unequal
  · intro contrary
    exact (compareBytes_of_contrary contrary withChecksum).1
  · intro ids separate
    apply List.map_mergeSort
    intro left leftMember right rightMember
    rw [compareBytes_of_not_contrary (separate left leftMember right rightMember) withChecksum]

/-- An identifier that differs from others of this form in its kind and its time only. -/
def transfer (kind : Kind) (time : Time) : Identifier where
  kind
  fields := { time, flags := .first, tenant := 12, seq := 0, shard := 34, random := 7 }

def plainTransfer : Identifier := transfer ⟨"tx", by decide⟩ 9

def numberedTransfer : Identifier := transfer ⟨"tx2", by decide⟩ 5

/-- Transfers whose kinds have a common front, but go on with a letter and a digit. -/
def transfers : List Identifier := [transfer ⟨"txa", by decide⟩ 9, numberedTransfer]

/-- `tx2` goes on with a digit behind `tx`, but `txa` and `tx2` are only different. -/
theorem order_across_kinds_transfers :
    plainTransfer.kind.Contrary numberedTransfer.kind ∧
      Text.compareBytes (plainTransfer.encode true) (numberedTransfer.encode true) =
        (compare plainTransfer numberedTransfer).swap ∧
      (∀ left ∈ transfers, ∀ right ∈ transfers, ¬left.kind.Contrary right.kind) ∧
      (sort transfers).map (·.encode true) = Text.sortBytes (transfers.map (·.encode true)) := by
  have contrary : plainTransfer.kind.Contrary numberedTransfer.kind := by decide
  have separate : ∀ left ∈ transfers, ∀ right ∈ transfers, ¬left.kind.Contrary right.kind := by
    decide
  obtain ⟨pairs, lists⟩ := order_across_kinds true
  exact ⟨contrary, (pairs plainTransfer numberedTransfer).2 contrary, separate,
    lists transfers separate⟩

end Identifier

end SortableId
