import SortableId.Json.Record
import SortableId.Proofs.Tokens

/-!
# Written documents

A reader reads a document as a value if it takes the written document from the front of any text, in
either layout, and leaves the rest.  Blanks may stand in front, and the rest must not go on with a
number.  Readers of texts, booleans and words do so, and readers of lists and records do so if the
readers of their parts do: one lemma for each reader.
-/

namespace SortableId.Json

/-! ## Layout -/

/-- What stands behind an item: the other items behind a comma each, and the closing bracket. -/
def Layout.following (layout : Layout) (depth : Nat) (closing : Char)
    (pieces : List (List Char)) : List Char :=
  pieces.flatMap (fun piece => ',' :: (layout.lineBreak (depth + 1) ++ piece)) ++
    (layout.lineBreak depth ++ [closing])

theorem Layout.following_cons (layout : Layout) (depth : Nat) (closing : Char)
    (piece : List Char) (pieces : List (List Char)) :
    layout.following depth closing (piece :: pieces) =
      ',' :: (layout.lineBreak (depth + 1) ++ (piece ++ layout.following depth closing pieces)) := by
  simp [following]

theorem Layout.length_lt_following (layout : Layout) (depth : Nat) (closing : Char)
    (pieces : List (List Char)) : pieces.length < (layout.following depth closing pieces).length := by
  induction pieces with
  | nil => simp [following]
  | cons piece pieces ih =>
      rw [following_cons]
      simp only [List.length_cons, List.length_append]
      omega

theorem Layout.bracket_cons (layout : Layout) (depth : Nat) (opening closing : Char)
    (piece : List Char) (pieces : List (List Char)) :
    layout.bracket depth opening closing (piece :: pieces) =
      opening :: (layout.lineBreak (depth + 1) ++
        (piece ++ layout.following depth closing pieces)) := by
  have joined (first : List Char) : [','].intercalate
      (first :: pieces.map (layout.lineBreak (depth + 1) ++ ·)) =
        first ++ pieces.flatMap fun piece => ',' :: (layout.lineBreak (depth + 1) ++ piece) := by
    induction pieces generalizing first with
    | nil => simp
    | cons next pieces ih => rw [List.map_cons, List.intercalate_cons_cons, ih]; simp
  rw [bracket, List.map_cons, joined, following]
  · simp
  · exact List.cons_ne_nil piece pieces

/-- The blanks between tokens. -/
def Blanks (front : List Char) : Prop := ∀ c ∈ front, Reader.isBlank c = true

theorem blanks_nil : Blanks [] := List.forall_mem_nil _

theorem blanks_lineBreak (layout : Layout) (depth : Nat) : Blanks (layout.lineBreak depth) := by
  cases layout with
  | compact => exact blanks_nil
  | indented =>
      intro c member
      rcases List.mem_cons.mp member with rfl | space
      · rfl
      · rw [List.eq_of_mem_replicate space]
        rfl

theorem delimited_of_first {c : Char} (other : c.isDigit = false ∧ c ≠ '.' ∧ c ≠ 'e' ∧ c ≠ 'E')
    (rest : List Char) : Delimited (c :: rest) := by
  intro first found
  rw [List.head?_cons, Option.mem_def, Option.some.injEq] at found
  rw [← found]
  exact other

/-- Behind an item nothing goes on with a number. -/
theorem delimited_following (layout : Layout) (depth : Nat) {closing : Char}
    (closes : closing = ']' ∨ closing = '\x7d') (pieces : List (List Char)) (rest : List Char) :
    Delimited (layout.following depth closing pieces ++ rest) := by
  cases pieces with
  | cons piece pieces =>
      rw [Layout.following_cons]
      exact delimited_of_first (by decide) _
  | nil =>
      cases layout with
      | compact =>
          rcases closes with rfl | rfl
          · exact delimited_of_first (by decide) _
          · exact delimited_of_first (by decide) _
      | indented => exact delimited_of_first (by decide) _

/-- The piece starts with a token other than the one that closes a list. -/
def Opens (piece : List Char) : Prop :=
  ∃ c rest, piece = c :: rest ∧ Reader.isBlank c = false ∧ c ≠ ']'

theorem opens_of_isDigit {c : Char} (digit : c.isDigit = true) (rest : List Char) :
    Opens (c :: rest) := by
  refine ⟨c, rest, rfl, ?_, ?_⟩
  · cases blank : Reader.isBlank c with
    | false => rfl
    | true =>
        simp only [Reader.isBlank, Bool.or_eq_true, beq_iff_eq] at blank
        rcases blank with ((rfl | rfl) | rfl) | rfl <;> contradiction
  · rintro rfl
    contradiction

theorem opens_toChars (layout : Layout) (depth : Nat) (document : Json) :
    Opens (document.toChars layout depth) := by
  cases document with
  | boolean value =>
      cases value with
      | false => exact ⟨'f', _, by rw [toChars], rfl, by decide⟩
      | true => exact ⟨'t', _, by rw [toChars], rfl, by decide⟩
  | number value =>
      rcases exists_cons_toDigits value with ⟨c, others, digits, digit⟩
      rw [toChars, digits]
      exact opens_of_isDigit digit others
  | text value => exact ⟨'"', _, by rw [toChars, quote, List.cons_append], rfl, by decide⟩
  | list documents =>
      rw [toChars]
      cases itemsToChars layout (depth + 1) documents with
      | nil => exact ⟨'[', _, rfl, rfl, by decide⟩
      | cons => exact ⟨'[', _, Layout.bracket_cons _ _ _ _ _ _, rfl, by decide⟩
  | record members =>
      rw [toChars]
      cases membersToChars layout (depth + 1) members with
      | nil => exact ⟨'\x7b', _, rfl, rfl, by decide⟩
      | cons => exact ⟨'\x7b', _, Layout.bracket_cons _ _ _ _ _ _, rfl, by decide⟩

/-! ## Readers -/

namespace Reader

variable {α β : Type} {source rest : List Char} {value : α}

/-- A reader goes on where the one before it has stopped. -/
theorem bind_eq_of_ok {reader : Reader α} {next : α → Reader β}
    (read : reader source = .ok (value, rest)) : (reader >>= next) source = next value rest := by
  simp only [bind, StateT.bind, read, Except.bind]

theorem map_eq_of_ok {reader : Reader α} (image : α → β)
    (read : reader source = .ok (value, rest)) :
    (image <$> reader) source = .ok (image value, rest) := by
  simp only [Functor.map, StateT.map, read, bind, Except.bind, pure, Except.pure]

theorem fromToken_append {front : List Char} (blanks : Blanks front) {c : Char}
    (token : isBlank c = false) : fromToken (front ++ c :: rest) = c :: rest := by
  rw [fromToken, List.dropWhile_append_of_pos blanks,
    List.dropWhile_cons_of_neg (by simp [token])]

/-- The reader reads the document as the value. -/
def Reads (reader : Reader α) (document : Json) (value : α) : Prop :=
  ∀ (layout : Layout) (depth : Nat) (front rest : List Char), Blanks front → Delimited rest →
    reader (front ++ (document.toChars layout depth ++ rest)) = .ok (value, rest)

theorem Reads.apply {reader : Reader α} {document : Json} (reads : reader.Reads document value)
    (layout : Layout) (depth : Nat) (delimited : Delimited rest) :
    reader (document.toChars layout depth ++ rest) = .ok (value, rest) :=
  reads layout depth [] rest blanks_nil delimited

theorem Reads.map {reader : Reader α} {document : Json} (image : α → β)
    (reads : reader.Reads document value) : Reads (image <$> reader) document (image value) := by
  intro layout depth front rest blanks delimited
  exact map_eq_of_ok image (reads layout depth front rest blanks delimited)

/-! ### Scalars -/

theorem head_quote {front : List Char} (blanks : Blanks front) (content : String)
    (rest : List Char) : head (front ++ (quote content ++ rest)) = .ok (.text content, rest) := by
  rw [quote_append, head, fromToken_append blanks rfl]
  simp only [readContent_flatMap_escape, bind, Except.bind, String.ofList_toList]
  rfl

theorem reads_text (content : String) : Reader.text.Reads (.text content) content := by
  intro layout depth front rest blanks _
  rw [toChars, Reader.text, bind_eq_of_ok (head_quote blanks content rest)]
  rfl

theorem reads_boolean (value : Bool) : Reader.boolean.Reads (.boolean value) value := by
  intro layout depth front rest blanks _
  have found : head (front ++ (toChars layout depth (.boolean value) ++ rest)) =
      .ok (.boolean value, rest) := by
    cases value with
    | false =>
        rw [toChars, List.cons_append, head, fromToken_append blanks rfl]
        rfl
    | true =>
        rw [toChars, List.cons_append, head, fromToken_append blanks rfl]
        rfl
  rw [Reader.boolean, bind_eq_of_ok found]
  rfl

theorem head_number {front : List Char} (blanks : Blanks front) {value : Nat}
    (fits : value < Significand.bound) (delimited : Delimited rest) :
    head (front ++ (Nat.toDigits 10 value ++ rest)) = .ok (.number (.integer value), rest) := by
  have read := readNumber_toDigits_append fits delimited
  rcases exists_cons_toDigits value with ⟨c, others, digits, digit⟩
  rcases opens_of_isDigit digit [] with ⟨_, _, same, token, _⟩
  rw [← (List.cons.inj same).1] at token
  rw [digits, List.cons_append] at read
  rw [digits, List.cons_append, head, fromToken_append blanks token]
  split
  case h_8 shape =>
    rcases List.cons.inj shape with ⟨rfl, rfl⟩
    rw [if_pos (.inr digit), read]
    rfl
  case h_1 shape => exact absurd shape (List.cons_ne_nil c _)
  -- No other token starts with a digit.
  all_goals
    next shape =>
      rw [(List.cons.inj shape).1] at digit
      contradiction

theorem reads_word {width : Nat} (narrow : width ≤ 64) (word : BitVec width) :
    (Reader.word width).Reads (.number word.toNat) word := by
  intro layout depth front rest blanks delimited
  have fits : word.toNat < Significand.bound :=
    Nat.lt_of_lt_of_le word.isLt (Nat.pow_le_pow_right (by decide) narrow)
  have same : BitVec.ofInt width word.toNat = word := by
    rw [BitVec.ofInt_natCast, BitVec.ofNat_toNat, BitVec.setWidth_eq]
  rw [toChars, Reader.word, bind_eq_of_ok (head_number blanks fits delimited)]
  simp only [same, if_true]
  rfl

/-! ### Lists -/

theorem moreItems_first {front piece : List Char} (blanks : Blanks front) (opens : Opens piece) :
    moreItems true (front ++ (piece ++ rest)) = .ok (true, piece ++ rest) := by
  rcases opens with ⟨c, others, rfl, token, other⟩
  rw [moreItems, List.cons_append, fromToken_append blanks token]
  split
  next shape => contradiction
  next shape => exact absurd (List.cons.inj shape).1 other
  next shape => rw [if_pos rfl, shape]

theorem moreItems_comma {front piece : List Char} (blanks : Blanks front) (opens : Opens piece) :
    moreItems false (',' :: (front ++ (piece ++ rest))) = .ok (true, piece ++ rest) := by
  rcases opens with ⟨c, others, rfl, token, other⟩
  have comma : fromToken (',' :: (front ++ (c :: others ++ rest))) =
      ',' :: (front ++ (c :: others ++ rest)) := fromToken_append blanks_nil rfl
  rw [moreItems, comma]
  split
  next shape => contradiction
  next shape => exact absurd (List.cons.inj shape).1 (by decide)
  next shape =>
    rcases List.cons.inj shape with ⟨rfl, rfl⟩
    rw [if_neg Bool.false_ne_true, if_pos rfl, List.cons_append, fromToken_append blanks token]
    split
    next shape => contradiction
    next shape => exact absurd (List.cons.inj shape).1 other
    next => rfl

theorem moreItems_closing {front : List Char} (blanks : Blanks front) (first : Bool) :
    moreItems first (front ++ ']' :: rest) = .ok (false, rest) := by
  rw [moreItems, fromToken_append blanks rfl]
  rfl

theorem items_closing {item : Reader α} (fuel : Nat) (first : Bool) {front : List Char}
    (blanks : Blanks front) (rest : List Char) :
    items item (fuel + 1) first (front ++ ']' :: rest) = .ok ([], rest) := by
  rw [items, bind_eq_of_ok (moreItems_closing blanks first)]
  rfl

/-- One item is read, and the others behind it. -/
theorem items_step {item : Reader α} {document : Json} (reads : item.Reads document value)
    {layout : Layout} {depth fuel : Nat} {first : Bool} {more : List Char} {values : List α}
    (found : moreItems first source = .ok (true, document.toChars layout depth ++ more))
    (delimited : Delimited more) (others : items item fuel false more = .ok (values, rest)) :
    items item (fuel + 1) first source = .ok (value :: values, rest) := by
  rw [items, bind_eq_of_ok found, if_pos rfl, bind_eq_of_ok (reads.apply layout depth delimited),
    bind_eq_of_ok others]
  rfl

/-- The items behind the first one are read in order, if there is fuel for each of them. -/
theorem items_following {item : Reader α} {documents : List Json} {values : List α}
    (reads : List.Forall₂ item.Reads documents values) (layout : Layout) (depth : Nat)
    {fuel : Nat} (enough : documents.length < fuel) (rest : List Char) :
    items item fuel false
        (layout.following depth ']' (itemsToChars layout (depth + 1) documents) ++ rest) =
      .ok (values, rest) := by
  induction reads generalizing fuel with
  | nil =>
      rcases Nat.exists_eq_succ_of_ne_zero (Nat.ne_zero_of_lt enough) with ⟨fuel, rfl⟩
      rw [itemsToChars, Layout.following, List.flatMap_nil, List.nil_append, List.append_assoc]
      exact items_closing fuel false (blanks_lineBreak layout depth) rest
  | cons read others ih =>
      rcases Nat.exists_eq_succ_of_ne_zero (Nat.ne_zero_of_lt enough) with ⟨fuel, rfl⟩
      rw [itemsToChars, Layout.following_cons, List.cons_append, List.append_assoc,
        List.append_assoc]
      exact items_step read (moreItems_comma (blanks_lineBreak _ _) (opens_toChars _ _ _))
        (delimited_following _ _ (.inl rfl) _ _) (ih (Nat.lt_of_succ_lt_succ enough))

theorem length_itemsToChars (layout : Layout) (depth : Nat) (documents : List Json) :
    (itemsToChars layout depth documents).length = documents.length := by
  induction documents with
  | nil => rw [itemsToChars]; rfl
  | cons document documents ih => rw [itemsToChars, List.length_cons, List.length_cons, ih]

theorem Reads.list {item : Reader α} {documents : List Json} {values : List α}
    (reads : List.Forall₂ item.Reads documents values) :
    (Reader.list item).Reads (.list documents) values := by
  intro layout depth front rest blanks _
  have opened (more : List Char) : head (front ++ '[' :: more) = .ok (.list, more) := by
    rw [head, fromToken_append blanks rfl]
    rfl
  rw [toChars, Reader.list]
  cases reads with
  | nil =>
      rw [itemsToChars, Layout.bracket, List.cons_append, bind_eq_of_ok (opened _)]
      exact items_closing _ true blanks_nil rest
  | @cons document value documents values read others =>
      rw [itemsToChars, Layout.bracket_cons, List.cons_append, bind_eq_of_ok (opened _),
        List.append_assoc, List.append_assoc]
      have bounded := Layout.length_lt_following layout depth ']'
        (itemsToChars layout (depth + 1) documents)
      rw [length_itemsToChars] at bounded
      apply items_step read (moreItems_first (blanks_lineBreak _ _) (opens_toChars _ _ _))
        (delimited_following _ _ (.inl rfl) _ _)
      apply items_following others
      simp only [List.length_append]
      omega

end Reader

/-! ### Records -/

namespace Reader

theorem colon_append (layout : Layout) : ∃ gap, Blanks gap ∧
    ∀ rest, colon (layout.colon ++ rest) = .ok ((), gap ++ rest) := by
  cases layout with
  | compact => exact ⟨[], blanks_nil, fun rest => rfl⟩
  | indented =>
      refine ⟨[' '], ?_, fun rest => rfl⟩
      rw [Blanks, List.forall_mem_singleton]
      rfl

theorem moreMembers_name (name : String) (rest : List Char) :
    moreMembers.name (quote name ++ rest) = .ok (some name, rest) := by
  rw [quote_append, moreMembers.name]
  simp only [readContent_flatMap_escape, bind, Except.bind, String.ofList_toList]
  rfl

theorem moreMembers_first {front : List Char} (blanks : Blanks front) (name : String)
    (rest : List Char) :
    moreMembers true (front ++ (quote name ++ rest)) = .ok (some name, rest) := by
  have found := moreMembers_name name rest
  rw [quote_append] at found ⊢
  rw [moreMembers, fromToken_append blanks rfl]
  exact found

theorem moreMembers_comma {front : List Char} (blanks : Blanks front) (name : String)
    (rest : List Char) :
    moreMembers false (',' :: (front ++ (quote name ++ rest))) = .ok (some name, rest) := by
  have found := moreMembers_name name rest
  have comma (more : List Char) : fromToken (',' :: more) = ',' :: more :=
    fromToken_append blanks_nil rfl
  rw [quote_append] at found ⊢
  rw [moreMembers, comma]
  split
  next shape => contradiction
  next shape => exact absurd (List.cons.inj shape).1 (by decide)
  next shape =>
    rcases List.cons.inj shape with ⟨rfl, rfl⟩
    rw [if_neg Bool.false_ne_true, if_pos rfl, fromToken_append blanks rfl]
    exact found

theorem moreMembers_closing {front : List Char} (blanks : Blanks front) (first : Bool)
    (rest : List Char) : moreMembers first (front ++ '\x7d' :: rest) = .ok (none, rest) := by
  rw [moreMembers, fromToken_append blanks rfl]
  rfl

end Reader

namespace Shape

variable {Rec : Type} {shape : Shape Rec} {value : Rec} {rest : List Char}

/-- The record has a field of the member's name, which is read as the update. -/
def Takes (shape : Shape Rec) (member : String × Json) (update : Rec → Rec) : Prop :=
  ∃ field, shape.field? member.1 = some field ∧ field.read.Reads member.2 update

/-- Every required field is among the named ones. -/
def Present (shape : Shape Rec) (names : List String) : Prop :=
  ∀ field ∈ shape.fields, field.required = true → field.name ∈ names

theorem takes_of {α : Type} (name : String) {document : Json} {reader : Reader α} {image : α}
    {put : α → Rec → Rec} (reads : reader.Reads document image)
    (known : shape.field? name = some (.of name reader put)) :
    shape.Takes (name, document) (put image) :=
  ⟨_, known, reads.map put⟩

theorem Present.perm {names others : List String} (present : shape.Present names)
    (same : names.Perm others) : shape.Present others := by
  intro field member required
  exact same.mem_iff.mp (present field member required)

theorem checkPresent_eq_of_present {seen : List String} (present : shape.Present seen) :
    shape.checkPresent seen rest = .ok ((), rest) := by
  have none : shape.fields.find? (fun field => field.required && !seen.contains field.name) =
      none := by
    rw [List.find?_eq_none]
    intro field member absent
    simp only [Bool.and_eq_true, Bool.not_eq_true', List.contains_eq_mem,
      decide_eq_false_iff_not] at absent
    exact absent.2 (present field member absent.1)
  rw [checkPresent, none]
  rfl

theorem readMembers_closing {seen : List String} (present : shape.Present seen) (fuel : Nat)
    (first : Bool) {front : List Char} (blanks : Blanks front) :
    shape.readMembers (fuel + 1) first seen value (front ++ '\x7d' :: rest) =
      .ok (value, rest) := by
  rw [readMembers, Reader.bind_eq_of_ok (Reader.moreMembers_closing blanks first rest)]
  change (shape.checkPresent seen >>= fun _ => pure value) rest = _
  rw [Reader.bind_eq_of_ok (checkPresent_eq_of_present present)]
  rfl

/-- One member is read into the record, and its name has been seen from there on. -/
theorem readMembers_step {member : String × Json} {update : Rec → Rec}
    (takes : shape.Takes member update) {seen : List String} (fresh : member.1 ∉ seen)
    {layout : Layout} {depth : Nat} {first : Bool} {source more : List Char}
    (found : Reader.moreMembers first source =
      .ok (some member.1, layout.colon ++ (member.2.toChars layout depth ++ more)))
    (delimited : Delimited more) (fuel : Nat) :
    shape.readMembers (fuel + 1) first seen value source =
      shape.readMembers fuel false (member.1 :: seen) (update value) more := by
  rcases takes with ⟨field, known, reads⟩
  rcases Reader.colon_append layout with ⟨gap, blanks, colon⟩
  have unseen : seen.contains member.1 = false := by
    rw [List.contains_eq_mem, decide_eq_false fresh]
  rw [readMembers, Reader.bind_eq_of_ok found]
  simp only [known, unseen, Bool.false_eq_true, if_false]
  rw [Reader.bind_eq_of_ok (colon _),
    Reader.bind_eq_of_ok (reads layout depth gap more blanks delimited)]

/-- The members behind the first one are read in order. -/
theorem readMembers_following {members : List (String × Json)} {updates : List (Rec → Rec)}
    (takes : List.Forall₂ shape.Takes members updates) (layout : Layout) (depth : Nat)
    {seen : List String} (fresh : (members.map Prod.fst ++ seen).Nodup)
    (present : shape.Present (members.map Prod.fst ++ seen)) {fuel : Nat}
    (enough : members.length < fuel) :
    shape.readMembers fuel false seen value
        (layout.following depth '\x7d' (membersToChars layout (depth + 1) members) ++ rest) =
      .ok (updates.foldl (fun value update => update value) value, rest) := by
  induction takes generalizing seen fuel value with
  | nil =>
      rcases Nat.exists_eq_succ_of_ne_zero (Nat.ne_zero_of_lt enough) with ⟨fuel, rfl⟩
      rw [membersToChars, Layout.following, List.flatMap_nil, List.nil_append, List.append_assoc]
      exact readMembers_closing present fuel false (blanks_lineBreak layout depth)
  | @cons member update members updates taken others ih =>
      rcases Nat.exists_eq_succ_of_ne_zero (Nat.ne_zero_of_lt enough) with ⟨fuel, rfl⟩
      -- A name that is read only moves from those to come to those that have been seen.
      have moved : List.Perm (members.map Prod.fst ++ member.1 :: seen)
          ((member :: members).map Prod.fst ++ seen) := List.perm_middle
      have unseen : member.1 ∉ seen := by
        intro found
        exact (List.nodup_cons.mp fresh).1 (List.mem_append_right _ found)
      rw [membersToChars, Layout.following_cons, List.cons_append]
      simp only [List.append_assoc]
      rw [readMembers_step taken unseen (Reader.moreMembers_comma (blanks_lineBreak _ _) _ _)
        (delimited_following _ _ (.inr rfl) _ _)]
      exact ih (moved.nodup_iff.mpr fresh) (present.perm moved.symm) (Nat.lt_of_succ_lt_succ enough)

theorem length_membersToChars (layout : Layout) (depth : Nat) (members : List (String × Json)) :
    (membersToChars layout depth members).length = members.length := by
  induction members with
  | nil => rw [membersToChars]; rfl
  | cons member members ih => rw [membersToChars, List.length_cons, List.length_cons, ih]

/-- A record is read back from its members if no name stands twice and no required field is
absent. -/
theorem reads_record {members : List (String × Json)} {updates : List (Rec → Rec)}
    (takes : List.Forall₂ shape.Takes members updates) (fresh : (members.map Prod.fst).Nodup)
    (present : shape.Present (members.map Prod.fst)) :
    shape.read.Reads (.record members)
      (updates.foldl (fun value update => update value) shape.initial) := by
  intro layout depth front rest blanks _
  have opened (more : List Char) : Reader.head (front ++ '\x7b' :: more) = .ok (.record, more) := by
    rw [Reader.head, Reader.fromToken_append blanks rfl]
    rfl
  rw [toChars, Shape.read]
  cases takes with
  | nil =>
      rw [membersToChars, Layout.bracket, List.cons_append, Reader.bind_eq_of_ok (opened _)]
      exact readMembers_closing present _ true blanks_nil
  | @cons member update members updates taken others =>
      have moved : List.Perm (members.map Prod.fst ++ [member.1])
          ((member :: members).map Prod.fst) := List.perm_append_singleton _ _
      have bounded := Layout.length_lt_following layout depth '\x7d'
        (membersToChars layout (depth + 1) members)
      rw [length_membersToChars] at bounded
      rw [membersToChars, Layout.bracket_cons, List.cons_append, Reader.bind_eq_of_ok (opened _)]
      simp only [List.append_assoc]
      rw [readMembers_step taken List.not_mem_nil
        (Reader.moreMembers_first (blanks_lineBreak _ _) _ _)
        (delimited_following _ _ (.inr rfl) _ _)]
      apply readMembers_following others
      · exact moved.nodup_iff.mpr fresh
      · exact present.perm moved.symm
      · simp only [List.length_append]
        omega

end Shape

/-- A reader reads the text of a document as its value, also with blanks behind it. -/
theorem Reader.Reads.run {α : Type} {reader : Reader α} {document : Json} {value : α}
    (reads : reader.Reads document value) (layout : Layout) {back : List Char}
    (blanks : Blanks back) :
    reader.run (document.render layout ++ String.ofList back) = .ok value := by
  have delimited : Delimited back := by
    intro c first
    have blank := blanks c (List.mem_of_mem_head? first)
    simp only [Reader.isBlank, Bool.or_eq_true, beq_iff_eq] at blank
    rcases blank with ((rfl | rfl) | rfl) | rfl <;> decide
  have read := reads.apply layout 0 delimited
  have ended : (fromToken back).isEmpty = true := by
    rw [List.isEmpty_iff, fromToken, List.dropWhile_eq_nil_iff]
    exact blanks
  have source : (document.render layout ++ String.ofList back).toList =
      document.toChars layout 0 ++ back := by
    simp [render]
  simp only [Reader.run, StateT.run, source, read, bind, Except.bind, ended, if_true, pure,
    Except.pure]

end SortableId.Json
