import SortableId.Proofs.Commands

/-!
# Demonstration of the checksum

The last character of an accepted text is replaced by a zero, or by a one in the place of a zero.
Behind a hyphen it is part of the checksum, which no longer is the one of the text, since neither
digit is the other in any case.  Without a hyphen it is a symbol of the payload, and both digits are
symbols too.
-/

namespace SortableId

namespace Program

/-- What stands in the place of the last character. -/
def replacement (last : Char) : Char := if last = '0' then '1' else '0'

theorem tamper_eq {text : String} {front : List Char} {last : Char}
    (trimmed : Text.Blank.trim text.toList = front ++ [last]) :
    tamper text = some (String.ofList (front ++ [replacement last])) := by
  unfold tamper
  rw [trimmed, List.reverse_append]
  simp only [List.reverse_singleton, List.singleton_append, List.reverse_reverse, replacement]

theorem replacement_eq (last : Char) : replacement last = '0' ∨ replacement last = '1' := by
  unfold replacement
  split
  · exact .inr rfl
  · exact .inl rfl

theorem isAlphanum_replacement (last : Char) : (replacement last).isAlphanum = true := by
  obtain zero | one := replacement_eq last
  · rw [zero]
    rfl
  · rw [one]
    rfl

/-- There is nothing to trim from a changed text. -/
theorem trim_of_replacement {text : String} {front : List Char} {last : Char}
    (trimmed : Text.Blank.trim text.toList = front ++ [last]) :
    Text.Blank.trim (String.ofList (front ++ [replacement last])).toList =
      front ++ [replacement last] := by
  have visible : Text.Blank.isBlank (replacement last) = false :=
    Text.isBlank_of_isAlphanum (isAlphanum_replacement last)
  rw [String.toList_ofList]
  have nonempty : front ++ [replacement last] ≠ [] := by simp
  have begins : Text.Blank.isBlank ((front ++ [replacement last]).head nonempty) = false := by
    cases front with
    | nil => exact visible
    | cons first front =>
        have some_left : Text.Blank.trim text.toList ≠ [] := by simp [trimmed]
        have head := Text.Blank.isBlank_head_trim some_left
        simpa only [trimmed, List.cons_append, List.head_cons] using head
  have ends : Text.Blank.isBlank ((front ++ [replacement last]).getLast nonempty) = false := by
    rw [List.getLast_append_singleton]
    exact visible
  have bare := Text.Blank.trim_append nonempty (List.forall_mem_nil _) (List.forall_mem_nil _)
    begins ends
  rwa [List.nil_append, List.append_nil] at bare

/-- What holds of every character and of the replacement still holds. -/
theorem forall_mem_replaced {property : Char → Prop} {front : List Char} {last : Char}
    (old : ∀ c ∈ front ++ [last], property c) (new : property (replacement last)) :
    ∀ c ∈ front ++ [replacement last], property c := by
  intro c member
  rcases List.mem_append.mp member with before | changed
  · exact old c (List.mem_append_left _ before)
  · rw [List.mem_singleton.mp changed]
    exact new

/-- The replacement is another character in any case. -/
theorem toLower_replacement_ne (last : Char) : (replacement last).toLower ≠ last.toLower := by
  by_cases zero : last = '0'
  · subst zero
    decide
  · intro same
    have replaced : replacement last = '0' := if_neg zero
    rw [replaced] at same
    -- Only the digit itself is a zero in lowercase.
    rcases Text.eq_toLower_or_eq_toUpper last with lower | upper
    · exact zero (lower.trans same.symm)
    · rw [← same] at upper
      exact zero upper

end Program

namespace Spelling

open Program (replacement tamper)

variable {spelling : Spelling} {id : Identifier}

/-- A checksum with a wrong last character is refused, as another one or for its length in bytes. -/
theorem checkSuffix_of_last_ne (wellFormed : spelling.WellFormed) (denotes : spelling.Denotes id)
    {front : List Char} {right wrong : Char} (present : spelling.suffix = some (front ++ [right]))
    (different : wrong.toLower ≠ right.toLower) :
    Identifier.checkSuffix spelling.base (front ++ [wrong]) =
      .error (if wrong.utf8Size = 1
        then .checksumMismatch id.checksum (String.ofList (front ++ [wrong]))
        else .checksumLength (3 + wrong.utf8Size)) := by
  have length : Text.utf8Length (front ++ [wrong]) = 3 + wrong.utf8Size := by
    have four := (wellFormed.suffix _ present).1
    have alphanum : ∀ c ∈ front, c.isAlphanum = true := fun c member =>
      isAlphanum_of_mem_suffix wellFormed present c (List.mem_append_left _ member)
    rw [List.length_append, List.length_singleton] at four
    rw [Text.utf8Length_append, Text.utf8Length_eq_length alphanum, Nat.succ.inj four]
    rfl
  have other : id.checksum.spelledBy (front ++ [wrong]) = false := by
    rw [← Bool.not_eq_true, Checksum.spelledBy_iff, ← map_toLower_suffix wellFormed denotes present,
      List.map_append, List.map_append, List.append_right_inj, List.map_singleton,
      List.map_singleton, List.singleton_inj]
    exact different
  unfold Identifier.checkSuffix
  rw [length]
  by_cases oneByte : wrong.utf8Size = 1
  · have count : ¬3 + wrong.utf8Size ≠ Checksum.symbolCount := by rw [oneByte]; decide
    rw [if_neg count, if_pos oneByte]
    simp only [compute_base wellFormed denotes, other]
    rfl
  · have count : 3 + wrong.utf8Size ≠ Checksum.symbolCount := by
      unfold Checksum.symbolCount
      omega
    rw [if_pos count, if_neg oneByte]

/-- A changed checksum is refused as the wrong one. -/
theorem parseTrimmed_of_replacement (wellFormed : spelling.WellFormed)
    (denotes : spelling.Denotes id) {front : List Char} {last : Char}
    (present : spelling.suffix = some (front ++ [last])) :
    Identifier.parseTrimmed (spelling.base ++ '-' :: (front ++ [replacement last])) =
      .error (.checksumMismatch id.checksum (String.ofList (front ++ [replacement last]))) := by
  have alphanum : ∀ c ∈ front ++ [replacement last], c.isAlphanum = true :=
    Program.forall_mem_replaced (isAlphanum_of_mem_suffix wellFormed present)
      (Program.isAlphanum_replacement last)
  have absent : '-' ∉ front ++ [replacement last] := Text.not_mem_of_isAlphanum rfl alphanum
  rw [Identifier.parseTrimmed_append absent, checkSuffix_of_last_ne wellFormed denotes present
      (Program.toLower_replacement_ne last),
    if_pos (Text.utf8Size_of_isAlphanum (Program.isAlphanum_replacement last))]
  rfl

/-- A changed payload is still one. -/
theorem wellFormed_of_replacement (wellFormed : spelling.WellFormed)
    (alone : spelling.suffix = none) {front : List Char} {last : Char}
    (shape : spelling.payload = front ++ [last]) :
    WellFormed { spelling with payload := front ++ [replacement last] } where
  name := wellFormed.name
  length_payload := by
    rw [← wellFormed.length_payload, shape, List.length_append, List.length_append]
    rfl
  payload := by
    have old := wellFormed.payload
    rw [shape] at old
    refine Program.forall_mem_replaced old ?_
    rcases Program.replacement_eq last with zero | one
    · rw [zero]
      decide
    · rw [one]
      decide
  suffix := by
    intro given present
    rw [Option.mem_def, alone] at present
    contradiction

/-- What is read of a spelling whose last character is replaced. -/
theorem exists_tamper (wellFormed : spelling.WellFormed) (denotes : spelling.Denotes id)
    {text : String} (trimmed : Text.Blank.trim text.toList = spelling.chars) :
    ∃ changed, tamper text = some changed ∧
      (('-' ∈ spelling.chars ∧
          ∃ given, Identifier.parse changed = .error (.checksumMismatch id.checksum given)) ∨
        ('-' ∉ spelling.chars ∧ ∃ other, Identifier.parse changed = .ok other)) := by
  rw [hyphen_mem_chars_iff wellFormed]
  cases present : spelling.suffix with
  | some given =>
      have some_given : given ≠ [] := by
        rintro rfl
        have four := (wellFormed.suffix [] present).1
        contradiction
      obtain ⟨front, last, rfl⟩ := (List.eq_nil_or_concat' given).resolve_left some_given
      have shape : spelling.chars = (spelling.base ++ '-' :: front) ++ [last] := by
        rw [chars_of_suffix_eq_some present, List.append_assoc, List.cons_append]
      refine ⟨_, Program.tamper_eq (trimmed.trans shape),
        .inl ⟨rfl, String.ofList (front ++ [replacement last]), ?_⟩⟩
      rw [Identifier.parse, Program.trim_of_replacement (trimmed.trans shape), List.append_assoc,
        List.cons_append]
      exact parseTrimmed_of_replacement wellFormed denotes present
  | none =>
      have some_payload : spelling.payload ≠ [] := by
        intro empty
        have many := wellFormed.length_payload
        rw [empty] at many
        contradiction
      obtain ⟨front, last, payload⟩ := (List.eq_nil_or_concat' _).resolve_left some_payload
      have shape : spelling.chars = (spelling.name ++ '_' :: front) ++ [last] := by
        rw [chars_of_suffix_eq_none present, base, payload, List.append_assoc, List.cons_append]
      have changed := wellFormed_of_replacement wellFormed present payload
      have stands : Text.Blank.trim
          (String.ofList ((spelling.name ++ '_' :: front) ++ [replacement last])).toList =
            chars { spelling with payload := front ++ [replacement last] } := by
        have alone : chars { spelling with payload := front ++ [replacement last] } =
            base { spelling with payload := front ++ [replacement last] } :=
          chars_of_suffix_eq_none present
        rw [Program.trim_of_replacement (trimmed.trans shape), alone, base, List.append_assoc,
          List.cons_append]
      obtain ⟨other, denotesOther⟩ := exists_denotes changed
      exact ⟨_, Program.tamper_eq (trimmed.trans shape), .inr ⟨Bool.false_ne_true, other,
        (parse_eq_ok_iff changed ((standsIn_iff changed).mpr stands)).mpr denotesOther⟩⟩

end Spelling

namespace Program

open Invocation (ofWords wordsFor)

/-- What a run of the command shows, when it is known how the changed text is read. -/
theorem Ids.run_tamper_eq {words : List String} {format : Format} {text changed : String}
    {lookup : String → Option String} (stated : ofWords words = .ok ⟨format, .tamper text⟩)
    (wellSet : ¬Settings.AnyMisset lookup) (tampered : tamper text = some changed)
    (readings : Nat → Reading) :
    run words lookup readings =
      match Identifier.parse changed with
      | .ok _ => (Failure.tamperAccepted changed).toOutput ("Tampered: " ++ changed ++ "\n")
      | .error error =>
          { stdout := "Tampered: " ++ changed ++ "\n" ++ "Parse error (expected): " ++
              error.message ++ "\n" } := by
  obtain ⟨defaults, ran⟩ := exists_run_eq_runCommand stated wellSet readings
  cases read : Identifier.parse changed with
  | ok other => simp only [ran, runCommand, runTamper, tampered, read]
  | error error => simp only [ran, runCommand, runTamper, tampered, read]

/-- An accepted text with another last character is refused if and only if it has a hyphen, and then
for its checksum, which should be the one of the identifier.  The command asks for exactly this: it
succeeds on the texts with a hyphen and reports the others as accepted. -/
theorem demonstrates_checksum {text : String} {id : Identifier}
    (read : Identifier.parse text = .ok id) :
    ∃ changed, tamper text = some changed ∧
      ((∃ error, Identifier.parse changed = .error error) ↔
        '-' ∈ Text.Blank.trim text.toList) ∧
      (∀ error, Identifier.parse changed = .error error →
        ∃ given, error = .checksumMismatch id.checksum given) ∧
      (∀ format, ofWords (wordsFor "tamper" text format) = .ok ⟨format, .tamper text⟩) ∧
      ∀ (words : List String) (format : Format) (lookup : String → Option String)
        (readings : Nat → Reading),
        ofWords words = .ok ⟨format, .tamper text⟩ → ¬Settings.AnyMisset lookup →
          ((Ids.run words lookup readings).code = 0 ↔ '-' ∈ Text.Blank.trim text.toList) ∧
          ('-' ∉ Text.Blank.trim text.toList →
            (Ids.run words lookup readings).code = 1 ∧
              Ids.run words lookup readings =
                (Failure.tamperAccepted changed).toOutput ("Tampered: " ++ changed ++ "\n")) := by
  obtain ⟨spelling, wellFormed, trimmed, denotes⟩ := Spelling.exists_of_parse read
  obtain ⟨changed, tampered, outcome⟩ := Spelling.exists_tamper wellFormed denotes trimmed
  have asked (format : Format) :
      ofWords (wordsFor "tamper" text format) = .ok ⟨format, .tamper text⟩ :=
    Invocation.ofWords_wordsFor (.inr ⟨rfl, rfl⟩) (unhyphenated_of_parse read) format
  rw [trimmed]
  rcases outcome with ⟨hyphen, given, refused⟩ | ⟨alone, other, accepted⟩
  · refine ⟨changed, tampered, ⟨fun _ => hyphen, fun _ => ⟨_, refused⟩⟩, ?_, asked, ?_⟩
    · intro error failed
      rw [refused] at failed
      exact ⟨given, (Except.error.inj failed).symm⟩
    · intro words format lookup readings stated wellSet
      rw [Ids.run_tamper_eq stated wellSet tampered, refused]
      exact ⟨⟨fun _ => hyphen, fun _ => rfl⟩, fun absent => absurd hyphen absent⟩
  · refine ⟨changed, tampered, ⟨?_, fun hyphen => absurd hyphen alone⟩, ?_, asked, ?_⟩
    · rintro ⟨error, failed⟩
      rw [accepted] at failed
      contradiction
    · intro error failed
      rw [accepted] at failed
      contradiction
    · intro words format lookup readings stated wellSet
      rw [Ids.run_tamper_eq stated wellSet tampered, accepted]
      exact ⟨⟨nofun, fun hyphen => absurd hyphen alone⟩, fun _ => ⟨rfl, rfl⟩⟩

/-- In mixed cases, between white space and with a checksum: the digit replaces a letter of it.
Without the checksum it replaces a symbol. -/
theorem demonstrates_checksum_mixedCase :
    (∃ changed given,
      tamper "\u3000order_OoMYNGY59C0003000DFK59MG3E36J3rr-9XgG\n" = some changed ∧
        Identifier.parse changed =
          .error (.checksumMismatch Identifier.mixedCaseOrder.checksum given)) ∧
      (Ids.run ["tamper", "order_OoMYNGY59C0003000DFK59MG3E36J3rr"] (fun _ => none)
        fun _ => ⟨0, .ok 0⟩).code = 1 := by
  have hyphen : '-' ∈ Text.Blank.trim
      "\u3000order_OoMYNGY59C0003000DFK59MG3E36J3rr-9XgG\n".toList := by decide +kernel
  have alone : '-' ∉ Text.Blank.trim "order_OoMYNGY59C0003000DFK59MG3E36J3rr".toList := by
    decide +kernel
  obtain ⟨changed, tampered, refused, mismatch, _⟩ :=
    demonstrates_checksum Identifier.parse_mixedCaseOrder
  obtain ⟨error, failed⟩ := refused.mpr hyphen
  obtain ⟨given, rfl⟩ := mismatch error failed
  obtain ⟨_, _, _, _, asked, shown⟩ := demonstrates_checksum Identifier.parse_bareMixedCaseOrder
  constructor
  · exact ⟨changed, given, tampered, failed⟩
  · exact ((shown _ _ _ _ (asked .table) Settings.not_anyMisset_unset).2 alone).1

end Program

end SortableId
