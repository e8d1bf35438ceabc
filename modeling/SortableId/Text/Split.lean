/-!
# Splitting a text at a character

A text is split at the first or at the last place where a character stands; the character itself
belongs to neither part.  The main statements say that a split is found exactly when the text is
the two parts with the character between them, and the character is absent from the part that the
search passed over.
-/

namespace SortableId.Text

/-- The parts before and after the first place where `separator` stands. -/
def splitFirst (separator : Char) : List Char → Option (List Char × List Char)
  | [] => none
  | c :: rest =>
      if c = separator then
        some ([], rest)
      else
        (splitFirst separator rest).map fun (before, after) => (c :: before, after)

/-- The parts before and after the last place where `separator` stands. -/
def splitLast (separator : Char) (text : List Char) : Option (List Char × List Char) :=
  (splitFirst separator text.reverse).map fun (before, after) => (after.reverse, before.reverse)

theorem splitFirst_eq_some_iff {separator : Char} {text before after : List Char} :
    splitFirst separator text = some (before, after) ↔
      text = before ++ separator :: after ∧ separator ∉ before := by
  induction text generalizing before with
  | nil => simp [splitFirst]
  | cons c rest ih =>
      by_cases here : c = separator
      · subst here
        cases before with
        | nil => simp [splitFirst, eq_comm]
        | cons first before =>
            simp only [splitFirst, if_true, Option.some.injEq, Prod.mk.injEq, List.nil_eq,
              reduceCtorEq, false_and, List.cons_append, List.cons.injEq, List.mem_cons, not_or,
              false_iff, not_and]
            rintro ⟨rfl, _⟩ distinct
            exact absurd rfl distinct
      · cases before with
        | nil => simp [splitFirst, here]
        | cons first before =>
            have := @ih before
            simp only [splitFirst, here, if_false, Option.map_eq_some_iff, Prod.mk.injEq,
              List.cons.injEq, Prod.exists, List.cons_append, List.mem_cons, not_or]
            constructor
            · rintro ⟨_, _, found, ⟨rfl, rfl⟩, rfl⟩
              obtain ⟨shape, absent⟩ := ih.mp found
              exact ⟨⟨rfl, shape⟩, fun same => here same.symm, absent⟩
            · rintro ⟨⟨rfl, shape⟩, _, absent⟩
              exact ⟨before, after, ih.mpr ⟨shape, absent⟩, ⟨rfl, rfl⟩, rfl⟩

theorem splitFirst_eq_none_iff {separator : Char} {text : List Char} :
    splitFirst separator text = none ↔ separator ∉ text := by
  induction text with
  | nil => simp [splitFirst]
  | cons c rest ih =>
      by_cases here : c = separator
      · simp [splitFirst, here]
      · simp [splitFirst, here, ih, show ¬separator = c from fun same => here same.symm]

theorem splitLast_eq_some_iff {separator : Char} {text before after : List Char} :
    splitLast separator text = some (before, after) ↔
      text = before ++ separator :: after ∧ separator ∉ after := by
  simp only [splitLast, Option.map_eq_some_iff, Prod.mk.injEq, Prod.exists,
    splitFirst_eq_some_iff]
  constructor
  · rintro ⟨later, earlier, ⟨shape, absent⟩, rfl, rfl⟩
    refine ⟨?_, by simpa using absent⟩
    have := congrArg List.reverse shape
    simpa using this
  · rintro ⟨rfl, absent⟩
    exact ⟨after.reverse, before.reverse, by simp [absent], by simp⟩

theorem splitLast_eq_none_iff {separator : Char} {text : List Char} :
    splitLast separator text = none ↔ separator ∉ text := by
  simp [splitLast, splitFirst_eq_none_iff]

end SortableId.Text
