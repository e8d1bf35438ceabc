import SortableId.Proofs.Demonstration

/-!
# Diagnosis of a change that is accepted

A text that was no identifier can become one when its last character is replaced.  The command takes
it for one without a checksum, and says so.  That is right unless the text has a hyphen: then either
the replaced character was all that was wrong with a checksum, or it was the hyphen.  The command
that reads the text as it stands finds the checksum wrong in both cases.
-/

namespace SortableId

namespace Program

variable {text : String}

/-- The run that reports a changed text as accepted. -/
def acceptedOutput (changed : String) : Output :=
  (Failure.tamperAccepted changed).toOutput ("Tampered: " ++ changed ++ "\n")

/-- The command reports exactly the changed text that is read. -/
theorem runTamper_eq_acceptedOutput_iff {changed : String} :
    runTamper text = acceptedOutput changed ↔
      tamper text = some changed ∧ ∃ id, Identifier.parse changed = .ok id := by
  have printed_inj {first second : String}
      (same : "Tampered: " ++ first ++ "\n" = "Tampered: " ++ second ++ "\n") : first = second :=
    (String.append_right_inj _).mp ((String.append_left_inj _).mp same)
  unfold runTamper
  cases tampered : tamper text with
  | none =>
      constructor
      · intro same
        have nothing : "Tampered: " ++ changed ++ "\n" = "" := (congrArg Output.stdout same).symm
        rw [String.append_eq_empty_iff] at nothing
        exact absurd nothing.2 (by decide)
      · rintro ⟨present, _⟩
        contradiction
  | some other =>
      dsimp only
      cases read : Identifier.parse other with
      | error error =>
          constructor
          · intro same
            have code : 0 = 1 := congrArg Output.code same
            contradiction
          · rintro ⟨present, id, accepted⟩
            rw [← Option.some.inj present, read] at accepted
            contradiction
      | ok id =>
          constructor
          · intro same
            obtain rfl := printed_inj (congrArg Output.stdout same)
            exact ⟨rfl, id, read⟩
          · rintro ⟨present, _⟩
            rw [Option.some.inj present]
            rfl

end Program

namespace Spelling

open Program (replacement)

variable {spelling : Spelling} {text : String}

/-- Inside its white space the text has the characters of the spelling but for the last one, in
whose place the spelling has what the command puts there. -/
structure Mends (spelling : Spelling) (text : String) : Prop where
  wellFormed : spelling.WellFormed
  differs : ∃ front last, Text.Blank.trim text.toList = front ++ [last] ∧
    spelling.chars = front ++ [replacement last]

/-- What the command makes of a text is read if and only if it is a spelling. -/
theorem exists_mends_iff {changed : String} :
    (Program.tamper text = some changed ∧ ∃ id, Identifier.parse changed = .ok id) ↔
      ∃ spelling : Spelling, spelling.Mends text ∧ changed = String.ofList spelling.chars := by
  constructor
  · rintro ⟨tampered, id, read⟩
    obtain empty | ⟨front, last, trimmed⟩ :=
      List.eq_nil_or_concat' (Text.Blank.trim text.toList)
    · rw [Program.tamper, empty] at tampered
      contradiction
    · rw [Program.tamper_eq trimmed, Option.some.injEq] at tampered
      obtain ⟨spelling, wellFormed, shape, _⟩ := exists_of_parse read
      rw [← tampered, Program.trim_of_replacement trimmed] at shape
      exact ⟨spelling, ⟨wellFormed, front, last, trimmed, shape.symm⟩, by rw [← shape, tampered]⟩
  · rintro ⟨spelling, ⟨wellFormed, front, last, trimmed, shape⟩, rfl⟩
    have stands : Text.Blank.trim (String.ofList spelling.chars).toList = spelling.chars := by
      rw [shape]
      exact Program.trim_of_replacement trimmed
    obtain ⟨id, denotes⟩ := exists_denotes wellFormed
    exact ⟨by rw [Program.tamper_eq trimmed, shape], id,
      (parse_eq_ok_iff wellFormed ((standsIn_iff wellFormed).mpr stands)).mpr denotes⟩

/-- A text with a hyphen that can be mended had a wrong last character behind the hyphen of the
checksum, or has its last hyphen there. -/
theorem hyphen_mem_trim_iff (mends : spelling.Mends text) :
    '-' ∈ Text.Blank.trim text.toList ↔
      spelling.suffix.isSome = true ∨ (Text.Blank.trim text.toList).getLast? = some '-' := by
  obtain ⟨wellFormed, front, last, trimmed, shape⟩ := mends
  have other : '-' ≠ replacement last := by
    intro same
    have alphanum := Program.isAlphanum_replacement last
    rw [← same] at alphanum
    contradiction
  rw [← hyphen_mem_chars_iff wellFormed, shape, trimmed, List.getLast?_concat, Option.some.injEq,
    List.mem_append, List.mem_append, List.mem_singleton, List.mem_singleton, or_iff_left other,
    eq_comm]

/-- Where the checksum of a spelling has another last character, it is refused. -/
theorem exists_parseTrimmed_eq_error (wellFormed : spelling.WellFormed) {front : List Char}
    {last : Char} (shape : spelling.chars = front ++ [replacement last]) (inside : '-' ∈ front)
    (other : last ≠ '-') :
    ∃ error, Identifier.parseTrimmed (front ++ [last]) = .error error ∧
      error.isAboutChecksum = true := by
  obtain ⟨id, denotes⟩ := exists_denotes wellFormed
  obtain ⟨base, rest, rfl⟩ := List.append_of_mem inside
  rw [List.append_assoc, List.cons_append] at shape
  obtain ⟨rfl, present⟩ := eq_of_chars_eq_append wellFormed shape
  have absent : '-' ∉ rest ++ [last] := by
    intro member
    rcases List.mem_append.mp member with before | behind
    · exact Text.not_mem_of_isAlphanum rfl (isAlphanum_of_mem_suffix wellFormed present)
        (List.mem_append_left _ before)
    · exact other (List.mem_singleton.mp behind).symm
  rw [List.append_assoc, List.cons_append, Identifier.parseTrimmed_append absent,
    checkSuffix_of_last_ne wellFormed denotes present (Program.toLower_replacement_ne last).symm]
  refine ⟨_, rfl, ?_⟩
  split
  · rfl
  · rfl

/-- A text with a hyphen that can be mended is refused for its checksum. -/
theorem exists_parse_eq_error (mends : spelling.Mends text)
    (hyphen : '-' ∈ Text.Blank.trim text.toList) :
    ∃ error, Identifier.parse text = .error error ∧ error.isAboutChecksum = true := by
  obtain ⟨wellFormed, front, last, trimmed, shape⟩ := mends
  rw [Identifier.parse, trimmed]
  by_cases ended : last = '-'
  · -- Nothing stands behind the last hyphen.
    rw [ended, Identifier.parseTrimmed_append List.not_mem_nil]
    exact ⟨.checksumLength 0, rfl, rfl⟩
  · rw [trimmed] at hyphen
    have inside : '-' ∈ front := by
      rcases List.mem_append.mp hyphen with before | behind
      · exact before
      · exact absurd (List.mem_singleton.mp behind).symm ended
    exact exists_parseTrimmed_eq_error wellFormed shape inside ended

end Spelling

namespace Program

theorem Failure.errorHint_of_isAboutChecksum {error : IdError}
    (about : error.isAboutChecksum = true) :
    errorHint error =
      some "The ID was likely mistyped. Check the characters against the original." := by
  cases error with
  | checksumLength bytes => rfl
  | checksumMismatch computed given => rfl
  | _ => contradiction

/-- The command reports a text as accepted if and only if replacing its last character mends it.
That it had no checksum is then right unless it has a hyphen, and it has one exactly if its checksum
was wrong in the last character or the last character is a hyphen.  Such a text is no identifier,
and the command that reads it says that it was mistyped. -/
theorem hint_of_acceptedOutput (text : String) :
    (∀ changed, runTamper text = acceptedOutput changed ↔
      ∃ spelling : Spelling, spelling.Mends text ∧ changed = String.ofList spelling.chars) ∧
    ∀ spelling : Spelling, spelling.Mends text →
      ('-' ∈ Text.Blank.trim text.toList ↔
        spelling.suffix.isSome = true ∨ (Text.Blank.trim text.toList).getLast? = some '-') ∧
      ('-' ∈ Text.Blank.trim text.toList →
        ∃ error, Identifier.parse text = .error error ∧
          (∀ format, runParse format text = (Failure.id error).toOutput "") ∧
          (Failure.id error).hint =
            some "The ID was likely mistyped. Check the characters against the original.") := by
  constructor
  · intro changed
    rw [runTamper_eq_acceptedOutput_iff, Spelling.exists_mends_iff]
  · intro spelling mends
    refine ⟨Spelling.hyphen_mem_trim_iff mends, fun hyphen => ?_⟩
    obtain ⟨error, refused, about⟩ := Spelling.exists_parse_eq_error mends hyphen
    refine ⟨error, refused, fun format => ?_, Failure.errorHint_of_isAboutChecksum about⟩
    rw [runParse, Inspection.ofText, refused]
    rfl

end Program

/-- A user whose checksum ends in a zero. -/
def Spelling.roundUser : Spelling where
  name := "user".toList
  payload := "00myngy59c0003000dfk59mg3e36j3rr".toList
  suffix := some "qda0".toList

theorem Spelling.wellFormed_roundUser : roundUser.WellFormed where
  name := Kind.accepts_iff.mp (by decide)
  length_payload := by decide
  payload := List.all_iff_forall_prop.mp (by decide)
  suffix := by
    intro given present
    cases present
    exact ⟨by decide, 767296, by decide +kernel, by decide⟩

theorem Spelling.mends_roundUser :
    roundUser.Mends "user_00myngy59c0003000dfk59mg3e36j3rr-qdag" where
  wellFormed := wellFormed_roundUser
  differs := ⟨"user_00myngy59c0003000dfk59mg3e36j3rr-qda".toList, 'g', by decide +kernel, by decide⟩

namespace Program

/-- The last character of that checksum, mistyped. -/
theorem hint_of_acceptedOutput_slip :
    Spelling.roundUser.Mends "user_00myngy59c0003000dfk59mg3e36j3rr-qdag" ∧
      ∃ error, Identifier.parse "user_00myngy59c0003000dfk59mg3e36j3rr-qdag" = .error error ∧
        (Failure.id error).hint =
          some "The ID was likely mistyped. Check the characters against the original." := by
  obtain ⟨_, mended⟩ := hint_of_acceptedOutput "user_00myngy59c0003000dfk59mg3e36j3rr-qdag"
  obtain ⟨hyphen, told⟩ := mended Spelling.roundUser Spelling.mends_roundUser
  obtain ⟨error, refused, _, hint⟩ := told (hyphen.mpr (.inl rfl))
  exact ⟨Spelling.mends_roundUser, error, refused, hint⟩

/-- The text with the mistyped checksum is reported as one without a checksum. -/
theorem misdiagnosed_slip :
    '-' ∈ Text.Blank.trim "user_00myngy59c0003000dfk59mg3e36j3rr-qdag".toList ∧
      Ids.run ["tamper", "user_00myngy59c0003000dfk59mg3e36j3rr-qdag"] (fun _ => none)
          (fun _ => ⟨0, .ok 0⟩) =
        (Failure.tamperAccepted "user_00myngy59c0003000dfk59mg3e36j3rr-qda0").toOutput
          "Tampered: user_00myngy59c0003000dfk59mg3e36j3rr-qda0\n" ∧
      (Failure.tamperAccepted "user_00myngy59c0003000dfk59mg3e36j3rr-qda0").hint =
        some "The input had no checksum. Generate it with --checksum first." := by
  have mends := Spelling.mends_roundUser
  obtain ⟨tampered, id, read⟩ := Spelling.exists_mends_iff.mpr ⟨_, mends, rfl⟩
  have stated := Invocation.ofWords_wordsFor (.inr ⟨rfl, rfl⟩)
    (by decide : CommandLine.Unhyphenated "user_00myngy59c0003000dfk59mg3e36j3rr-qdag") .table
  have run := Ids.run_tamper_eq stated Settings.not_anyMisset_unset tampered fun _ => ⟨0, .ok 0⟩
  rw [read] at run
  exact ⟨(Spelling.hyphen_mem_trim_iff mends).mpr (.inl rfl), run, rfl⟩

end Program

end SortableId
