import SortableId.Proofs.Characters

/-!
# Reading the parts of an identifier

One lemma for each step of the reader, saying exactly when the step succeeds: white space at the
ends, the symbols of a payload, the characters of a checksum and the name of a kind.
-/

namespace SortableId

theorem map_eq_ok_iff {fault source target : Type} {outcome : Except fault source}
    {image : source → target} {result : target} :
    outcome.map image = .ok result ↔ ∃ value, outcome = .ok value ∧ image value = result := by
  cases outcome with
  | error => simp [Except.map]
  | ok value => simp [Except.map]

theorem bind_eq_ok_iff {fault source target : Type} {outcome : Except fault source}
    {next : source → Except fault target} {result : target} :
    (outcome >>= next) = .ok result ↔ ∃ value, outcome = .ok value ∧ next value = .ok result := by
  cases outcome with
  | error => simp [bind, Except.bind]
  | ok value => simp [bind, Except.bind]

theorem map_eq_error_iff {fault source target : Type} {outcome : Except fault source}
    {image : source → target} {error : fault} :
    outcome.map image = .error error ↔ outcome = .error error := by
  cases outcome with
  | error => simp [Except.map]
  | ok value => simp [Except.map]

namespace Text.Blank

theorem exists_eq_append_trim (text : List Char) :
    ∃ front back, text = front ++ trim text ++ back ∧
      (∀ c ∈ front, isBlank c = true) ∧ ∀ c ∈ back, isBlank c = true := by
  refine ⟨text.takeWhile isBlank, ((trimLeft text).reverse.takeWhile isBlank).reverse, ?_, ?_, ?_⟩
  · have rest : trim text ++ ((trimLeft text).reverse.takeWhile isBlank).reverse =
        trimLeft text := by
      rw [trim, trimRight, ← List.reverse_append]
      simp only [trimLeft]
      rw [List.takeWhile_append_dropWhile, List.reverse_reverse]
    rw [List.append_assoc, rest]
    exact List.takeWhile_append_dropWhile.symm
  · intro c member
    exact List.mem_takeWhile_imp member
  · intro c member
    exact List.mem_takeWhile_imp (List.mem_reverse.mp member)

/-- White space in front of a character that is none is removed, and nothing else. -/
theorem trimLeft_append {front rest : List Char} {c : Char}
    (blank : ∀ c ∈ front, isBlank c = true) (bare : isBlank c = false) :
    trimLeft (front ++ c :: rest) = c :: rest := by
  rw [trimLeft, List.dropWhile_append_of_pos blank, List.dropWhile_cons_of_neg (by simp [bare])]

/-- A text that neither begins nor ends with white space is what remains of it inside white
space. -/
theorem trim_append {front text back : List Char} (nonempty : text ≠ [])
    (frontBlank : ∀ c ∈ front, isBlank c = true) (backBlank : ∀ c ∈ back, isBlank c = true)
    (head : isBlank (text.head nonempty) = false)
    (last : isBlank (text.getLast nonempty) = false) :
    trim (front ++ text ++ back) = text := by
  have left : trimLeft (front ++ text ++ back) = text ++ back := by
    rw [← List.cons_head_tail nonempty, List.append_assoc, List.cons_append]
    exact trimLeft_append frontBlank head
  have right : trimLeft (text ++ back).reverse = text.reverse := by
    rw [← List.dropLast_append_getLast nonempty, List.reverse_append, List.reverse_append,
      List.reverse_singleton, List.singleton_append]
    exact trimLeft_append (fun c member => backBlank c (List.mem_reverse.mp member)) last
  rw [trim, trimRight, left, right, List.reverse_reverse]

/-- What trimming leaves does not begin with white space. -/
theorem isBlank_head_trim {text : List Char} (nonempty : trim text ≠ []) :
    isBlank ((trim text).head nonempty) = false := by
  have begins : trim text <+: trimLeft text := by
    rw [trim, trimRight, ← List.reverse_suffix, List.reverse_reverse]
    exact List.dropWhile_suffix isBlank
  rw [begins.head nonempty]
  exact List.head_dropWhile_not isBlank _

theorem trim_of_visible {text : List Char} (visible : ∀ c ∈ text, isBlank c = false) :
    trim text = text := by
  cases text with
  | nil => rfl
  | cons first rest =>
      have trimmed := trim_append (List.cons_ne_nil first rest) (List.forall_mem_nil _)
        (List.forall_mem_nil _) (visible _ (List.head_mem _)) (visible _ (List.getLast_mem _))
      rwa [List.nil_append, List.append_nil] at trimmed

end Text.Blank

namespace Payload

/-- Reading symbols succeeds exactly when every character stands for one. -/
theorem readSymbols_eq_ok_iff {position : Nat} {text : List Char} {symbols : List Symbol} :
    readSymbols position text = .ok symbols ↔ text.map Symbol.ofChar? = symbols.map some := by
  induction text generalizing position symbols with
  | nil =>
      cases symbols with
      | nil => simp [readSymbols]
      | cons => simp [readSymbols]
  | cons c rest ih =>
      simp only [readSymbols, List.map_cons]
      cases found : Symbol.ofChar? c with
      | none =>
          cases symbols with
          | nil => simp
          | cons => simp
      | some symbol =>
          simp only [map_eq_ok_iff, ih]
          constructor
          · intro split
            rcases split with ⟨later, read, rfl⟩
            rw [List.map_cons, read]
          · intro read
            cases symbols with
            | nil => simp at read
            | cons first later =>
                rw [List.map_cons, List.cons.injEq, Option.some.injEq] at read
                exact ⟨later, read.2, by rw [read.1]⟩

theorem accepted_of_map_eq {text : List Char} {symbols : List Symbol}
    (read : text.map Symbol.ofChar? = symbols.map some) : ∀ c ∈ text, Symbol.Accepted c := by
  intro c member
  have found : Symbol.ofChar? c ∈ symbols.map some := by
    rw [← read]
    exact List.mem_map_of_mem member
  rcases List.mem_map.mp found with ⟨symbol, _, equal⟩
  rw [Symbol.Accepted, ← equal]
  rfl

theorem isAlphanum_of_accepted {text : List Char} (accepted : ∀ c ∈ text, Symbol.Accepted c) :
    ∀ c ∈ text, c.isAlphanum = true := by
  intro c member
  exact (Symbol.accepted_iff.mp (accepted c member)).1

theorem length_eq_of_map_eq {Item : Type} {lookUp : Item → Option Symbol} {items : List Item}
    {symbols : List Symbol} (read : items.map lookUp = symbols.map some) :
    items.length = symbols.length := by
  rw [← List.length_map lookUp, read, List.length_map]

/-- A payload is decoded exactly when it has 32 characters and each of them stands for the symbol
of the body at its place. -/
theorem decode_eq_ok_iff {payload : List Char} {body : Body} :
    decode payload = .ok body ↔
      payload.length = 32 ∧ payload.map Symbol.ofChar? = body.symbols.map some := by
  have bytes_eq (symbols : List Symbol) (read : payload.map Symbol.ofChar? = symbols.map some) :
      Text.utf8Length payload = payload.length :=
    Text.utf8Length_eq_length (isAlphanum_of_accepted (accepted_of_map_eq read))
  constructor
  · intro decoded
    unfold decode at decoded
    split at decoded
    · contradiction
    next bytes =>
      rcases map_eq_ok_iff.mp decoded with ⟨symbols, readEq, joined⟩
      have read := readSymbols_eq_ok_iff.mp readEq
      have length_eq : payload.length = 32 := by
        rw [← bytes_eq symbols read]
        exact not_not.mp bytes
      have count : symbols.length = Body.symbolCount := by
        rw [← length_eq_of_map_eq read, length_eq]
        rfl
      rw [← joined, Body.symbols_ofSymbols count]
      exact ⟨length_eq, read⟩
  · intro spelled
    rcases spelled with ⟨length_eq, read⟩
    have bytes : ¬Text.utf8Length payload ≠ Body.symbolCount := by
      rw [bytes_eq body.symbols read, length_eq]
      exact not_not.mpr rfl
    rw [decode, if_neg bytes, map_eq_ok_iff]
    exact ⟨body.symbols, readSymbols_eq_ok_iff.mpr read, Body.ofSymbols_symbols body⟩

end Payload

namespace Kind

/-- A kind is the kind of its own name only. -/
theorem ofString?_ofList_eq_some_iff {name : List Char} {kind : Kind} :
    ofString? (String.ofList name) = some kind ↔ name = kind.name.toList := by
  rw [ofString?_eq_some_iff]
  constructor
  · intro equal
    rw [equal, String.toList_ofList]
  · intro equal
    rw [equal, String.ofList_toList]

theorem isAlphanum_of_lower_or_digit {c : Char} (plain : c.isLower = true ∨ c.isDigit = true) :
    c.isAlphanum = true := by
  rcases plain with lower | digit
  · simp [Char.isAlphanum, Char.isAlpha, lower]
  · simp [Char.isAlphanum, digit]

theorem isAlphanum_of_accepts {name : List Char} (wellFormed : accepts name = true) :
    ∀ c ∈ name, c.isAlphanum = true := by
  cases name with
  | nil => simp [accepts] at wellFormed
  | cons first rest =>
      simp only [accepts, Bool.and_eq_true, List.all_eq_true, Bool.or_eq_true] at wellFormed
      rcases wellFormed with ⟨⟨head, tail⟩, _⟩
      intro c member
      rcases List.mem_cons.mp member with rfl | later
      · exact isAlphanum_of_lower_or_digit (.inl head)
      · exact isAlphanum_of_lower_or_digit (tail c later)

/-- The first underscore behind the name of a kind is the one that ends it. -/
theorem splitFirst_of_accepts {name : List Char} (payload : List Char)
    (wellFormed : accepts name = true) :
    Text.splitFirst '_' (name ++ '_' :: payload) = some (name, payload) := by
  have absent : '_' ∉ name :=
    Text.not_mem_of_isAlphanum rfl (isAlphanum_of_accepts wellFormed)
  exact Text.splitFirst_eq_some_iff.mpr ⟨rfl, absent⟩

end Kind

namespace Checksum

theorem isAlphanum_toChars (checksum : Checksum) :
    ∀ c ∈ checksum.toChars, c.isAlphanum = true := by
  intro c member
  rcases List.mem_map.mp member with ⟨symbol, _, rfl⟩
  exact symbol.isAlphanum_toChar

@[simp] theorem map_toLower_toChars (checksum : Checksum) :
    checksum.toChars.map Char.toLower = checksum.toChars := by
  simp [toChars]

theorem bits_eq_symbols : 20 = 5 * symbolCount := rfl

theorem symbols_injective {left right : Checksum} (same : left.symbols = right.symbols) :
    left = right := by
  rw [← Chunks.join_split bits_eq_symbols left, ← Chunks.join_split bits_eq_symbols right]
  exact congrArg (Chunks.join 20) same

/-- A checksum is determined by its written form. -/
theorem toChars_injective {left right : Checksum} (same : left.toChars = right.toChars) :
    left = right :=
  symbols_injective (List.map_injective_iff.mpr Symbol.toChar_injective same)

theorem spelledBy_iff {checksum : Checksum} {given : List Char} :
    checksum.spelledBy given = true ↔ given.map Char.toLower = checksum.toChars :=
  beq_iff_eq

theorem isAlphanum_of_map_toLower_eq {checksum : Checksum} {given : List Char}
    (spelled : given.map Char.toLower = checksum.toChars) :
    ∀ c ∈ given, c.isAlphanum = true := by
  intro c member
  rw [← Text.isAlphanum_toLower]
  apply checksum.isAlphanum_toChars
  rw [← spelled]
  exact List.mem_map_of_mem member

theorem length_of_map_toLower_eq {checksum : Checksum} {given : List Char}
    (spelled : given.map Char.toLower = checksum.toChars) : given.length = symbolCount := by
  rw [← List.length_map Char.toLower, spelled, length_toChars]
  rfl

/-- The checksum of a kind and a payload is that of the symbols read from the payload. -/
theorem compute_append {name payload : List Char} (wellFormed : Kind.accepts name = true) :
    compute (name ++ '_' :: payload) =
      (Payload.readSymbols 0 payload).map (ofSymbols (label (name.map Char.toLower))) := by
  have found := Kind.splitFirst_of_accepts payload wellFormed
  cases name with
  | nil => contradiction
  | cons first rest => simp only [compute, found]

end Checksum

namespace Identifier

/-- A suffix is accepted exactly when it spells the checksum of the text before it. -/
theorem checkSuffix_eq_ok_iff {base given : List Char} :
    checkSuffix base given = .ok () ↔
      ∃ checksum, Checksum.compute base = .ok checksum ∧
        given.map Char.toLower = checksum.toChars := by
  constructor
  · intro accepted
    unfold checkSuffix at accepted
    split at accepted
    · contradiction
    · split at accepted
      · contradiction
      next checksum computed =>
        split at accepted
        next spelled => exact ⟨checksum, computed, Checksum.spelledBy_iff.mp spelled⟩
        next => contradiction
  · intro checked
    rcases checked with ⟨checksum, computed, spelled⟩
    have bytes : ¬Text.utf8Length given ≠ Checksum.symbolCount := by
      rw [Text.utf8Length_eq_length (Checksum.isAlphanum_of_map_toLower_eq spelled)]
      exact not_not.mpr (Checksum.length_of_map_toLower_eq spelled)
    simp only [checkSuffix, if_neg bytes, computed,
      if_pos (Checksum.spelledBy_iff.mpr spelled)]

/-- Behind the name of a kind the payload decides. -/
theorem parseBase_append {name payload : List Char} {kind : Kind}
    (named : Kind.ofString? (String.ofList name) = some kind) :
    parseBase (name ++ '_' :: payload) =
      (Payload.decode payload).map fun body => ⟨kind, Fields.unpack body⟩ := by
  have wellFormed : Kind.accepts name = true := by
    rw [Kind.ofString?_ofList_eq_some_iff.mp named]
    exact kind.wellFormed
  have found := Kind.splitFirst_of_accepts payload wellFormed
  cases name with
  | nil => contradiction
  | cons first rest => simp only [parseBase, found, named]

/-- A text without a checksum is read exactly when it is the name of a kind, an underscore and the
payload of a body. -/
theorem parseBase_eq_ok_iff {base : List Char} {id : Identifier} :
    parseBase base = .ok id ↔
      ∃ payload, base = id.kind.name.toList ++ '_' :: payload ∧
        Payload.decode payload = .ok id.body := by
  constructor
  · intro read
    unfold parseBase at read
    split at read
    · contradiction
    · contradiction
    next name payload _ found =>
      rcases Text.splitFirst_eq_some_iff.mp found with ⟨shape, _⟩
      split at read
      · contradiction
      next kind named =>
        rcases map_eq_ok_iff.mp read with ⟨body, decoded, rfl⟩
        refine ⟨payload, ?_, ?_⟩
        · rw [← Kind.ofString?_ofList_eq_some_iff.mp named]
          exact shape
        · rw [decoded, Identifier.body, Fields.pack_unpack]
  · intro parts
    rcases parts with ⟨payload, rfl, decoded⟩
    have named : Kind.ofString? (String.ofList id.kind.name.toList) = some id.kind :=
      Kind.ofString?_ofList_eq_some_iff.mpr rfl
    have unpacked : Fields.unpack id.body = id.fields := Fields.unpack_pack id.fields
    rw [parseBase_append named, map_eq_ok_iff]
    exact ⟨id.body, decoded, by rw [unpacked]⟩

/-- Without a hyphen nothing is checked before the kind. -/
theorem parseTrimmed_of_not_mem {text : List Char} (nonempty : text ≠ [])
    (absent : '-' ∉ text) : parseTrimmed text = parseBase text := by
  rw [parseTrimmed, if_neg (by simpa using nonempty), Text.splitLast_eq_none_iff.mpr absent]

/-- What stands behind the last hyphen is checked first. -/
theorem parseTrimmed_append {base given : List Char} (absent : '-' ∉ given) :
    parseTrimmed (base ++ '-' :: given) =
      (checkSuffix base given).bind fun _ => parseBase base := by
  have found := Text.splitLast_eq_some_iff.mpr ⟨(rfl : base ++ '-' :: given = _), absent⟩
  unfold parseTrimmed
  rw [if_neg (by simp)]
  simp only [found]
  cases checkSuffix base given with
  | error => rfl
  | ok => rfl

theorem parseTrimmed_of_checkSuffix {base given : List Char}
    (accepted : checkSuffix base given = .ok ()) :
    parseTrimmed (base ++ '-' :: given) = parseBase base := by
  rcases checkSuffix_eq_ok_iff.mp accepted with ⟨checksum, _, spelled⟩
  have absent : '-' ∉ given :=
    Text.not_mem_of_isAlphanum rfl (Checksum.isAlphanum_of_map_toLower_eq spelled)
  exact (parseTrimmed_append absent).trans (by simp only [accepted, Except.bind])

/-- A text that is read is a text without a checksum, alone or in front of a hyphen and the
checksum. -/
theorem exists_base_of_parseTrimmed {text : List Char} {id : Identifier}
    (read : parseTrimmed text = .ok id) :
    ∃ base, parseBase base = .ok id ∧
      (text = base ∨ ∃ given, text = base ++ '-' :: given ∧ checkSuffix base given = .ok ()) := by
  have nonempty : text ≠ [] := by
    intro empty
    rw [empty] at read
    contradiction
  cases found : Text.splitLast '-' text with
  | none =>
      rw [parseTrimmed_of_not_mem nonempty (Text.splitLast_eq_none_iff.mp found)] at read
      exact ⟨text, read, .inl rfl⟩
  | some parts =>
      rcases Text.splitLast_eq_some_iff.mp found with ⟨shape, absent⟩
      rw [shape, parseTrimmed_append absent] at read
      cases checked : checkSuffix parts.1 parts.2 with
      | error fault =>
          rw [checked] at read
          contradiction
      | ok =>
          rw [checked] at read
          exact ⟨parts.1, read, .inr ⟨parts.2, shape, checked⟩⟩

end Identifier

end SortableId
