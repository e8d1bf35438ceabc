import SortableId.Conformance.Check
import SortableId.Conformance.Regenerate
import SortableId.Proofs.Folding

/-!
# Regeneration

A regenerated case encodes to its own text.  The text that is replaced says whether a checksum is
wanted, and the text that replaces it says the same, because no hyphen stands in a written
identifier but the one in front of its checksum.  So a second regeneration finds nothing to do.
-/

namespace SortableId

/-- A hyphen shows that an identifier was written with its checksum. -/
theorem Identifier.hyphen_mem_encode_iff (id : Identifier) (withChecksum : Bool) :
    '-' ∈ (id.encode withChecksum).toList ↔ withChecksum = true := by
  rw [encode, String.toList_ofList, ← chars_spelling,
    Spelling.hyphen_mem_chars_iff (wellFormed_spelling id withChecksum)]
  cases withChecksum with
  | false => simp [spelling]
  | true => simp [spelling]

namespace Conformance

namespace Case

theorem withChecksum_iff {item : Case} : item.withChecksum = true ↔ '-' ∈ item.id.toList :=
  List.contains_iff_mem

/-- The identifier that the values of a case stand for. -/
def identifier (item : Case) : Except IdError Identifier :=
  item.components.bind Identifier.ofComponents

theorem encode_eq_map (item : Case) :
    item.encode = item.identifier.map fun id => id.encode item.withChecksum := by
  cases stated : item.components with
  | error => simp [encode, identifier, stated, bind, Except.bind, Except.map]
  | ok components =>
      cases made : Identifier.ofComponents components with
      | error => simp [encode, identifier, stated, made, bind, Except.bind, Except.map]
      | ok id => simp [encode, identifier, stated, made, bind, Except.bind, Except.map, pure,
          Except.pure]

theorem encode_eq_ok_iff {item : Case} {text : String} :
    item.encode = .ok text ↔
      ∃ id, item.identifier = .ok id ∧ id.encode item.withChecksum = text := by
  rw [encode_eq_map, map_eq_ok_iff]

/-- The case with another text. -/
def withId (item : Case) (text : String) : Case := { item with id := text }

@[simp] theorem id_withId (item : Case) (text : String) : (item.withId text).id = text := rfl

@[simp] theorem withId_id (item : Case) : item.withId item.id = item := rfl

/-- A case with its text replaced asks for a checksum as before. -/
theorem withChecksum_of_encode {item : Case} {text : String} (encoded : item.encode = .ok text) :
    (item.withId text).withChecksum = item.withChecksum := by
  rcases encode_eq_ok_iff.mp encoded with ⟨id, _, rfl⟩
  rw [Bool.eq_iff_iff, withChecksum_iff, id_withId, Identifier.hyphen_mem_encode_iff]

/-- A case with its text replaced encodes to that text. -/
theorem encode_of_encode {item : Case} {text : String} (encoded : item.encode = .ok text) :
    (item.withId text).encode = .ok text := by
  have kept : (item.withId text).identifier = item.identifier := rfl
  rw [encode_eq_map, kept, withChecksum_of_encode encoded, ← encode_eq_map, encoded]

theorem checkEncode_eq_pass_iff {item : Case} :
    item.checkEncode = .pass ↔ item.encode = .ok item.id := by
  unfold checkEncode
  cases item.encode with
  | error => simp
  | ok got => simp

/-- What becomes of a case. -/
structure Refreshed (before after : Case) : Prop where
  /-- A case that expects an error is left alone. -/
  untouched : before.expectError = true → after = before
  /-- Nothing but the text is replaced. -/
  kept : after.withId before.id = before
  /-- The text has a hyphen exactly if it had one before. -/
  hyphen : '-' ∈ after.id.toList ↔ '-' ∈ before.id.toList
  passes : before.expectError = false → after.checkEncode = .pass

/-- The case with its text replaced, if it expects no error. -/
def refresh (item : Case) : Except IdError Case :=
  if item.expectError then .ok item
  else item.encode.map item.withId

theorem refreshed_of_refresh {before after : Case} (done : before.refresh = .ok after) :
    Refreshed before after := by
  unfold refresh at done
  split at done
  next expectError =>
    cases Except.ok.inj done
    refine ⟨fun _ => rfl, rfl, Iff.rfl, ?_⟩
    intro noError
    rw [expectError] at noError
    contradiction
  next noError =>
    rcases map_eq_ok_iff.mp done with ⟨text, encoded, rfl⟩
    refine ⟨?_, rfl, ?_, ?_⟩
    · intro expectError
      contradiction
    · rw [← withChecksum_iff, ← withChecksum_iff, withChecksum_of_encode encoded]
    · intro _
      exact checkEncode_eq_pass_iff.mpr (encode_of_encode encoded)

theorem refresh_eq_error_iff {item : Case} {error : IdError} :
    item.refresh = .error error ↔ item.expectError = false ∧ item.encode = .error error := by
  unfold refresh
  cases item.expectError with
  | true => simp
  | false =>
      cases item.encode with
      | error => simp [Except.map]
      | ok => simp [Except.map]

/-- Nothing is to be done about a case. -/
def UpToDate (item : Case) : Prop := item.expectError = false → item.encode = .ok item.id

theorem refresh_eq_self_iff {item : Case} : item.refresh = .ok item ↔ item.UpToDate := by
  unfold refresh UpToDate
  cases expectError : item.expectError with
  | true => simp
  | false =>
      simp only [Bool.false_eq_true, if_false, map_eq_ok_iff, forall_const]
      constructor
      · rintro ⟨text, encoded, same⟩
        have replaced := congrArg Case.id same
        rw [encoded, ← replaced, id_withId]
      · intro encoded
        exact ⟨item.id, encoded, withId_id item⟩

theorem Refreshed.upToDate {before after : Case} (refreshed : Refreshed before after) :
    after.UpToDate := by
  intro noError
  have kept := congrArg Case.expectError refreshed.kept
  exact checkEncode_eq_pass_iff.mp (refreshed.passes (kept ▸ noError))

/-- Only a case that can be encoded is refreshed. -/
theorem Refreshed.exists_encode {before after : Case} (refreshed : Refreshed before after)
    (noError : before.expectError = false) : ∃ text, before.encode = .ok text := by
  have encoded := checkEncode_eq_pass_iff.mp (refreshed.passes noError)
  rcases encode_eq_ok_iff.mp encoded with ⟨id, made, _⟩
  have same : before.identifier = after.identifier := by
    rw [← refreshed.kept]
    rfl
  exact ⟨id.encode before.withChecksum, encode_eq_ok_iff.mpr ⟨id, same.trans made, rfl⟩⟩

end Case

/-- The replacements that turn cases into others, in order. -/
def changes (before after : List Case) : List Update :=
  (before.zip after).filterMap fun (old, new) =>
    if old.id = new.id then none else some ⟨old.description, old.id, new.id⟩

@[simp] theorem changes_self (item : Case) : changes [item] [item] = [] := by
  simp [changes]

/-- One case, and then the others. -/
theorem regenerateCases_cons (item : Case) (later : List Case) :
    regenerateCases (item :: later) =
      match item.refresh with
      | .error error => (item :: later, .error error)
      | .ok new =>
          (new :: (regenerateCases later).1,
            (regenerateCases later).2.map (changes [item] [new] ++ ·)) := by
  have unchanged (outcome : Except IdError (List Update)) :
      outcome.map (fun updates => changes [item] [item] ++ updates) = outcome := by
    cases outcome with
    | error => rfl
    | ok updates => simp [Except.map]
  cases expectError : item.expectError with
  | true => simp only [regenerateCases, Case.refresh, expectError, if_true, unchanged]
  | false =>
      cases encoded : item.encode with
      | error =>
          simp only [regenerateCases, Case.refresh, expectError, encoded, Except.map,
            Bool.false_eq_true, if_false]
      | ok text =>
          have fresh : item.refresh = .ok (item.withId text) := by
            simp [Case.refresh, expectError, encoded, Except.map]
          have noError : ¬item.expectError = true := by simp [expectError]
          rw [regenerateCases, if_neg noError, encoded, fresh]
          by_cases same : text = item.id
          · subst same
            simp only [if_true, Case.withId_id, unchanged]
          · have different : ¬item.id = text := fun equal => same equal.symm
            have changed : changes [item] [item.withId text] =
                [⟨item.description, item.id, text⟩] := by
              simp [changes, different]
            simp only [if_neg same, changed]
            rfl

/-- Cases that are up to date are left alone. -/
theorem regenerateCases_of_upToDate {cases : List Case} (upToDate : ∀ item ∈ cases, item.UpToDate) :
    regenerateCases cases = (cases, .ok []) := by
  induction cases with
  | nil => rfl
  | cons item later ih =>
      have others := ih fun other member => upToDate other (List.mem_cons_of_mem item member)
      have fresh := Case.refresh_eq_self_iff.mpr (upToDate item List.mem_cons_self)
      rw [regenerateCases_cons, fresh, others]
      simp [Except.map]

/-- Regeneration that goes through refreshes every case and lists what changed. -/
structure Through (before after : List Case) (updates : List Update) : Prop where
  refreshed : List.Forall₂ Case.Refreshed before after
  updates : updates = changes before after

/-- Regeneration that stops at a case has done with the cases before it, which can all be encoded,
as if they were alone, and has left that one and the others as they were. -/
structure StopsAt (before after : List Case) (item : Case) (error : IdError) : Prop where
  expectsNone : item.expectError = false
  notEncoded : item.encode = .error error
  split : ∃ front fresh updates later,
    before = front ++ item :: later ∧ after = fresh ++ item :: later ∧
      (∀ earlier ∈ front, earlier.expectError = false → ∃ text, earlier.encode = .ok text) ∧
      regenerateCases front = (fresh, .ok updates) ∧ Through front fresh updates

theorem through_nil : Through [] [] [] := ⟨.nil, rfl⟩

theorem Through.cons {item new : Case} {before after : List Case} {updates : List Update}
    (through : Through before after updates) (refreshed : Case.Refreshed item new) :
    Through (item :: before) (new :: after) (changes [item] [new] ++ updates) where
  refreshed := .cons refreshed through.refreshed
  updates := by
    rw [through.updates, changes, changes, changes, ← List.filterMap_append]
    rfl

theorem Through.exists_encode {before after : List Case} {updates : List Update}
    (through : Through before after updates) :
    ∀ item ∈ before, item.expectError = false → ∃ text, item.encode = .ok text := by
  have refreshed := through.refreshed
  clear through
  induction refreshed with
  | nil => simp
  | cons first _ ih => exact List.forall_mem_cons.mpr ⟨first.exists_encode, ih⟩

theorem Through.upToDate {before after : List Case} {updates : List Update}
    (through : Through before after updates) : ∀ item ∈ after, item.UpToDate := by
  have refreshed := through.refreshed
  clear through
  induction refreshed with
  | nil => simp
  | cons first _ ih => exact List.forall_mem_cons.mpr ⟨first.upToDate, ih⟩

/-- Regeneration goes through, or it stops at a case. -/
theorem regenerateCases_cases (before : List Case) :
    (∃ after updates, regenerateCases before = (after, .ok updates) ∧
      Through before after updates) ∨
    ∃ after item error, regenerateCases before = (after, .error error) ∧
      StopsAt before after item error := by
  induction before with
  | nil => exact .inl ⟨[], [], rfl, through_nil⟩
  | cons item later ih =>
      rw [regenerateCases_cons]
      cases fresh : item.refresh with
      | error error =>
          rcases Case.refresh_eq_error_iff.mp fresh with ⟨expectsNone, notEncoded⟩
          exact .inr ⟨item :: later, item, error, rfl, expectsNone, notEncoded,
            [], [], [], later, rfl, rfl, List.forall_mem_nil _, rfl, through_nil⟩
      | ok new =>
          have refreshed := Case.refreshed_of_refresh fresh
          rcases ih with ⟨after, updates, done, through⟩ | ⟨after, stop, error, done, stops⟩
          · rw [done]
            exact .inl ⟨new :: after, _, rfl, through.cons refreshed⟩
          · rcases stops with ⟨expectsNone, notEncoded, front, freshFront, updates, behind, rfl, rfl,
              _, frontDone, through⟩
            have longer := through.cons refreshed
            rw [done]
            refine .inr ⟨new :: (freshFront ++ stop :: behind), stop, error, rfl, expectsNone,
              notEncoded, item :: front, new :: freshFront, _, behind, rfl, rfl,
              longer.exists_encode, ?_, longer⟩
            rw [regenerateCases_cons, fresh, frontDone]
            rfl

/-- Regeneration goes through and then has nothing left to do, or it stops at the first case that
cannot be encoded, with the error of that case. -/
theorem Suite.regenerate_cases (before : Suite) :
    (∃ after updates, before.regenerate = (after, .ok updates) ∧
      Through before.cases after.cases updates ∧ after.regenerate = (after, .ok [])) ∨
    ∃ after item error, before.regenerate = (after, .error error) ∧
      StopsAt before.cases after.cases item error := by
  rcases regenerateCases_cases before.cases with
    ⟨after, updates, done, through⟩ | ⟨after, item, error, done, stops⟩
  · refine .inl ⟨⟨after⟩, updates, ?_, through, ?_⟩
    · rw [regenerate, done]
    · rw [regenerate, regenerateCases_of_upToDate through.upToDate]
  · refine .inr ⟨⟨after⟩, item, error, ?_, stops⟩
    rw [regenerate, done]

end Conformance

end SortableId
