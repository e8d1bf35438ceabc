import SortableId.Proofs.Folding

/-!
# The canonical form

Writing the identifier that a text was read as gives the text back in its canonical form: the white
space around it is gone, the payload is folded, and the checksum is in lowercase.  So two texts name
the same identifier exactly when their kinds and their folded payloads are equal.
-/

namespace SortableId

namespace Symbol

theorem toChar_of_ofChar?_eq_some {c : Char} {symbol : Symbol}
    (found : ofChar? c = some symbol) : symbol.toChar = fold c := by
  have ascii : c.toNat < 128 := by
    apply toNat_lt_of_accepted
    rw [Accepted, found]
    rfl
  have check := Text.of_ascii
    (fun c => ((ofChar? c).all fun symbol => symbol.toChar == fold c) = true)
    (by decide +kernel) ascii
  rw [found] at check
  exact beq_iff_eq.mp check

theorem fold_toLower (c : Char) : fold c.toLower = fold c := by
  unfold fold
  rw [Text.toLower_toLower]

theorem fold_fold {c : Char} (alphanum : c.isAlphanum = true) : fold (fold c) = fold c :=
  Text.of_ascii (fun c => fold (fold c) = fold c) (by decide +kernel)
    (Text.toNat_lt_of_isAlphanum alphanum)

/-- Folding leaves exactly the characters alone that are no uppercase letter and look like no
digit. -/
theorem fold_eq_self_iff {c : Char} (alphanum : c.isAlphanum = true) :
    fold c = c ↔ c.isUpper = false ∧ c ≠ 'i' ∧ c ≠ 'l' ∧ c ≠ 'o' :=
  Text.of_ascii (fun c => fold c = c ↔ c.isUpper = false ∧ c ≠ 'i' ∧ c ≠ 'l' ∧ c ≠ 'o')
    (by decide +kernel) (Text.toNat_lt_of_isAlphanum alphanum)

end Symbol

namespace Text

theorem toLower_eq_self_iff {c : Char} (alphanum : c.isAlphanum = true) :
    c.toLower = c ↔ c.isUpper = false :=
  of_ascii (fun c => c.toLower = c ↔ c.isUpper = false) (by decide)
    (toNat_lt_of_isAlphanum alphanum)

theorem map_eq_self_iff {image : Char → Char} {text : List Char} :
    text.map image = text ↔ ∀ c ∈ text, image c = c := by
  have compared : text.map image = text.map id ↔ ∀ c ∈ text, image c = id c := List.map_inj_left
  rwa [List.map_id] at compared

end Text

namespace Payload

/-- The payload of a body that was read is the folded payload. -/
theorem encode_of_decode {payload : List Char} {body : Body}
    (decoded : decode payload = .ok body) : encode body = payload.map Symbol.fold := by
  have folded (text : List Char) (symbols : List Symbol)
      (read : text.map Symbol.ofChar? = symbols.map some) :
      symbols.map Symbol.toChar = text.map Symbol.fold := by
    induction text generalizing symbols with
    | nil =>
        cases symbols with
        | nil => rfl
        | cons => simp at read
    | cons c rest ih =>
        cases symbols with
        | nil => simp at read
        | cons symbol symbols =>
            rw [List.map_cons, List.map_cons, List.cons.injEq] at read
            rw [List.map_cons, List.map_cons, Symbol.toChar_of_ofChar?_eq_some read.1,
              ih symbols read.2]
  exact folded payload body.symbols (decode_eq_ok_iff.mp decoded).2

end Payload

namespace Spelling

/-- The spelling with its payload folded and its suffix in lowercase. -/
def folded (spelling : Spelling) : Spelling :=
  { spelling with
    payload := spelling.payload.map Symbol.fold
    suffix := spelling.suffix.map (List.map Char.toLower) }

/-- The parts of a text without a suffix: what stands before and behind the first underscore. -/
def ofBase (base : List Char) (suffix : Option (List Char)) : Spelling :=
  match Text.splitFirst '_' base with
  | none => ⟨base, [], suffix⟩
  | some (name, payload) => ⟨name, payload, suffix⟩

/-- The parts of a text: the suffix stands behind the last hyphen, if there is one. -/
def ofText (text : List Char) : Spelling :=
  match Text.splitLast '-' text with
  | none => ofBase text none
  | some (base, given) => ofBase base (some given)

/-- The parts of what stands inside the white space of a text. -/
def ofString (input : String) : Spelling := ofText (Text.Blank.trim input.toList)

variable {spelling other : Spelling} {id otherId : Identifier}

theorem ofBase_base (wellFormed : spelling.WellFormed) (suffix : Option (List Char)) :
    ofBase spelling.base suffix = { spelling with suffix } := by
  rw [ofBase, base, Kind.splitFirst_of_accepts spelling.payload (accepts_name wellFormed)]

theorem ofText_chars (wellFormed : spelling.WellFormed) : ofText spelling.chars = spelling := by
  cases suffixEq : spelling.suffix with
  | none =>
      rw [chars_of_suffix_eq_none suffixEq, ofText,
        Text.splitLast_eq_none_iff.mpr (hyphen_not_mem_base wellFormed)]
      exact (ofBase_base wellFormed none).trans (by rw [← suffixEq])
  | some given =>
      have behind : '-' ∉ given :=
        Text.not_mem_of_isAlphanum rfl (isAlphanum_of_mem_suffix wellFormed suffixEq)
      rw [chars_of_suffix_eq_some suffixEq, ofText,
        Text.splitLast_eq_some_iff.mpr ⟨rfl, behind⟩]
      exact (ofBase_base wellFormed (some given)).trans (by rw [← suffixEq])

theorem eq_of_chars_eq (wellFormed : spelling.WellFormed) (otherWellFormed : other.WellFormed)
    (same : spelling.chars = other.chars) : spelling = other := by
  rw [← ofText_chars wellFormed, same, ofText_chars otherWellFormed]

theorem payload_eq_map_fold (wellFormed : spelling.WellFormed) (denotes : spelling.Denotes id) :
    id.payload = spelling.payload.map Symbol.fold :=
  Payload.encode_of_decode ((decode_payload_iff wellFormed).mpr denotes.fields)

/-- A spelling folds to the one that its identifier is written with. -/
theorem folded_eq_spelling (wellFormed : spelling.WellFormed) (denotes : spelling.Denotes id) :
    spelling.folded = id.spelling spelling.suffix.isSome := by
  have suffixEq : spelling.suffix.map (List.map Char.toLower) =
      if spelling.suffix.isSome then some id.checksum.toChars else none := by
    cases present : spelling.suffix with
    | none => rfl
    | some given =>
        rw [Option.map_some, map_toLower_suffix wellFormed denotes present]
        rfl
  rw [folded, Identifier.spelling, suffixEq, ← payload_eq_map_fold wellFormed denotes,
    denotes.kind]

theorem wellFormed_folded (wellFormed : spelling.WellFormed) (denotes : spelling.Denotes id) :
    spelling.folded.WellFormed := by
  rw [folded_eq_spelling wellFormed denotes]
  exact Identifier.wellFormed_spelling id _

theorem encode_eq_ofList_folded (wellFormed : spelling.WellFormed)
    (denotes : spelling.Denotes id) :
    id.encode (decide ('-' ∈ spelling.chars)) = String.ofList spelling.folded.chars := by
  have flag : decide ('-' ∈ spelling.chars) = spelling.suffix.isSome := by
    rw [Bool.decide_congr (hyphen_mem_chars_iff wellFormed), Bool.decide_eq_true]
  rw [flag, folded_eq_spelling wellFormed denotes, Identifier.chars_spelling]
  rfl

/-- Spellings denote the same identifier exactly when they agree in the name and in the folded
payload. -/
theorem eq_iff_of_denotes (wellFormed : spelling.WellFormed) (denotes : spelling.Denotes id)
    (otherWellFormed : other.WellFormed) (otherDenotes : other.Denotes otherId) :
    id = otherId ↔ spelling.name = other.name ∧
      spelling.payload.map Symbol.fold = other.payload.map Symbol.fold := by
  rw [← payload_eq_map_fold wellFormed denotes, ← payload_eq_map_fold otherWellFormed otherDenotes,
    ← denotes.kind, ← otherDenotes.kind]
  constructor
  · intro same
    rw [same]
    exact ⟨rfl, rfl⟩
  · intro same
    rcases same with ⟨names, payloads⟩
    apply Identifier.eq_of_baseChars_eq
    rw [Identifier.baseChars, Identifier.baseChars, names, payloads]

theorem isUpper_of_mem_name (wellFormed : spelling.WellFormed) :
    ∀ c ∈ spelling.name, c.isUpper = false := by
  have lower := Kind.map_toLower_of_accepts (accepts_name wellFormed)
  intro c member
  have letter := Kind.isAlphanum_of_accepts (accepts_name wellFormed) c member
  exact (Text.toLower_eq_self_iff letter).mp (Text.map_eq_self_iff.mp lower c member)

/-- Uppercase letters can stand in the payload and in the suffix only. -/
theorem isUpper_of_mem_chars_iff (wellFormed : spelling.WellFormed) :
    (∀ c ∈ spelling.chars, c.isUpper = false) ↔
      (∀ c ∈ spelling.payload, c.isUpper = false) ∧
        ∀ given ∈ spelling.suffix, ∀ c ∈ given, c.isUpper = false := by
  have base_iff : (∀ c ∈ spelling.base, c.isUpper = false) ↔
      ∀ c ∈ spelling.payload, c.isUpper = false := by
    rw [base, List.forall_mem_append, List.forall_mem_cons]
    constructor
    · intro lower
      exact lower.2.2
    · intro lower
      exact ⟨isUpper_of_mem_name wellFormed, rfl, lower⟩
  cases suffixEq : spelling.suffix with
  | none =>
      rw [chars_of_suffix_eq_none suffixEq, base_iff]
      simp
  | some given =>
      have hyphen : '-'.isUpper = false := rfl
      rw [chars_of_suffix_eq_some suffixEq, List.forall_mem_append, List.forall_mem_cons, base_iff]
      simp [hyphen]

theorem map_toLower_suffix_eq_self_iff (wellFormed : spelling.WellFormed) :
    spelling.suffix.map (List.map Char.toLower) = spelling.suffix ↔
      ∀ given ∈ spelling.suffix, ∀ c ∈ given, c.isUpper = false := by
  cases suffixEq : spelling.suffix with
  | none => simp
  | some given =>
      have alphanum := isAlphanum_of_mem_suffix wellFormed suffixEq
      simp only [Option.map_some, Option.some.injEq, Option.mem_def, forall_eq',
        Text.map_eq_self_iff]
      exact forall₂_congr fun c member => Text.toLower_eq_self_iff (alphanum c member)

theorem map_fold_payload_eq_self_iff (wellFormed : spelling.WellFormed) :
    spelling.payload.map Symbol.fold = spelling.payload ↔
      (∀ c ∈ spelling.payload, c.isUpper = false) ∧
        ∀ c ∈ spelling.payload, c ≠ 'i' ∧ c ≠ 'l' ∧ c ≠ 'o' := by
  rw [Text.map_eq_self_iff, ← forall₂_and]
  exact forall₂_congr fun c member => Symbol.fold_eq_self_iff (wellFormed.payload c member).1

/-- A spelling and its canonical form fold to the same text. -/
theorem map_fold_folded (wellFormed : spelling.WellFormed) :
    spelling.folded.chars.map Symbol.fold = spelling.chars.map Symbol.fold := by
  have payload : (spelling.payload.map Symbol.fold).map Symbol.fold =
      spelling.payload.map Symbol.fold := by
    rw [List.map_map]
    apply List.map_congr_left
    intro c member
    exact Symbol.fold_fold (wellFormed.payload c member).1
  cases suffixEq : spelling.suffix with
  | none => simp [chars, base, folded, suffixEq, payload]
  | some given => simp [chars, base, folded, suffixEq, payload, Symbol.fold_toLower]

/-- A spelling is its own canonical form exactly when it has no uppercase letter and its payload no
letter that looks like a digit. -/
theorem folded_eq_self_iff (wellFormed : spelling.WellFormed) :
    spelling.folded = spelling ↔ (∀ c ∈ spelling.chars, c.isUpper = false) ∧
      ∀ c ∈ spelling.payload, c ≠ 'i' ∧ c ≠ 'l' ∧ c ≠ 'o' := by
  have parts : spelling.folded = spelling ↔
      spelling.payload.map Symbol.fold = spelling.payload ∧
        spelling.suffix.map (List.map Char.toLower) = spelling.suffix := by
    cases spelling
    simp [folded]
  rw [parts, isUpper_of_mem_chars_iff wellFormed, map_fold_payload_eq_self_iff wellFormed,
    map_toLower_suffix_eq_self_iff wellFormed]
  tauto

/-- A text is in canonical form exactly when it is bare and its spelling is in canonical form. -/
theorem ofList_folded_eq_iff (wellFormed : spelling.WellFormed) (denotes : spelling.Denotes id)
    {input : String} (shape : Text.Blank.trim input.toList = spelling.chars) :
    String.ofList spelling.folded.chars = input ↔
      spelling.chars = input.toList ∧ spelling.folded = spelling := by
  constructor
  · intro same
    have text : input.toList = spelling.folded.chars := by rw [← same, String.toList_ofList]
    have foldedWellFormed := wellFormed_folded wellFormed denotes
    rw [text, Text.Blank.trim_of_visible (isBlank_of_mem_chars foldedWellFormed)] at shape
    exact ⟨by rw [text, shape], eq_of_chars_eq foldedWellFormed wellFormed shape⟩
  · intro canonical
    rw [canonical.2, canonical.1, String.ofList_toList]

end Spelling

namespace Identifier

/-- Writing what was read gives the canonical form of the text.  Hence texts name the same
identifier exactly when they agree in the kind and in the folded payload, and a text is reproduced
exactly when it is bare and in lowercase and its payload has no letter that looks like a digit. -/
theorem canonical_of_parse {input other : String} {id otherId : Identifier}
    (read : parse input = .ok id) (otherRead : parse other = .ok otherId) :
    (Spelling.ofString input).chars = Text.Blank.trim input.toList ∧
      id.encode (decide ('-' ∈ Text.Blank.trim input.toList)) =
        String.ofList (Spelling.ofString input).folded.chars ∧
      (id = otherId ↔
        (Spelling.ofString input).name = (Spelling.ofString other).name ∧
          (Spelling.ofString input).payload.map Symbol.fold =
            (Spelling.ofString other).payload.map Symbol.fold) ∧
      (id.encode (decide ('-' ∈ Text.Blank.trim input.toList)) = input ↔
        Text.Blank.trim input.toList = input.toList ∧
          (∀ c ∈ input.toList, c.isUpper = false) ∧
          ∀ c ∈ (Spelling.ofString input).payload, c ≠ 'i' ∧ c ≠ 'l' ∧ c ≠ 'o') := by
  rcases Spelling.exists_of_parse read with ⟨spelling, wellFormed, shape, denotes⟩
  rcases Spelling.exists_of_parse otherRead with
    ⟨otherSpelling, otherWellFormed, otherShape, otherDenotes⟩
  have parts : Spelling.ofString input = spelling := by
    rw [Spelling.ofString, shape, Spelling.ofText_chars wellFormed]
  have otherParts : Spelling.ofString other = otherSpelling := by
    rw [Spelling.ofString, otherShape, Spelling.ofText_chars otherWellFormed]
  rw [parts, otherParts, shape, Spelling.encode_eq_ofList_folded wellFormed denotes]
  refine ⟨rfl, rfl,
    Spelling.eq_iff_of_denotes wellFormed denotes otherWellFormed otherDenotes, ?_⟩
  rw [Spelling.ofList_folded_eq_iff wellFormed denotes shape]
  refine and_congr_right fun bare => ?_
  rw [Spelling.folded_eq_self_iff wellFormed, bare]

/-- The mixed spelling between white space, and its canonical form without the checksum. -/
theorem canonical_of_parse_mixedCase :
    parse "\u3000order_OoMYNGY59C0003000DFK59MG3E36J3rr-9XgG\n" = .ok mixedCaseOrder ∧
      parse "order_00myngy59c0003000dfk59mg3e36j3rr" = .ok mixedCaseOrder ∧
      mixedCaseOrder.encode true = "order_00myngy59c0003000dfk59mg3e36j3rr-9xgg" ∧
      mixedCaseOrder.encode false = "order_00myngy59c0003000dfk59mg3e36j3rr" := by
  have read : parse "\u3000order_OoMYNGY59C0003000DFK59MG3E36J3rr-9XgG\n" =
      .ok mixedCaseOrder := by decide +kernel
  have canonicalRead : parse "order_00myngy59c0003000dfk59mg3e36j3rr" = .ok mixedCaseOrder := by
    decide +kernel
  obtain ⟨_, written, _⟩ := canonical_of_parse read canonicalRead
  obtain ⟨_, _, _, reproduced⟩ := canonical_of_parse canonicalRead read
  have hyphen : decide ('-' ∈ Text.Blank.trim
      "\u3000order_OoMYNGY59C0003000DFK59MG3E36J3rr-9XgG\n".toList) = true := by decide +kernel
  have noHyphen : decide ('-' ∈ Text.Blank.trim
      "order_00myngy59c0003000dfk59mg3e36j3rr".toList) = false := by decide +kernel
  have spelled : String.ofList (Spelling.ofString
      "\u3000order_OoMYNGY59C0003000DFK59MG3E36J3rr-9XgG\n").folded.chars =
        "order_00myngy59c0003000dfk59mg3e36j3rr-9xgg" := by decide +kernel
  rw [hyphen, spelled] at written
  rw [noHyphen] at reproduced
  have lower : ("order_00myngy59c0003000dfk59mg3e36j3rr".toList.all
      fun c => decide (c.isUpper = false)) = true := by decide +kernel
  have plain : ((Spelling.ofString "order_00myngy59c0003000dfk59mg3e36j3rr").payload.all
      fun c => decide (c ≠ 'i' ∧ c ≠ 'l' ∧ c ≠ 'o')) = true := by decide +kernel
  refine ⟨read, canonicalRead, written, reproduced.mpr ⟨by decide +kernel, ?_, ?_⟩⟩
  · intro c member
    exact of_decide_eq_true (List.all_eq_true.mp lower c member)
  · intro c member
    exact of_decide_eq_true (List.all_eq_true.mp plain c member)

end Identifier

end SortableId
