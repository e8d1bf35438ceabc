/-!
# Kinds

The kind of an identifier names the type of thing identified.  It is a lowercase letter followed
by one to thirty lowercase letters or digits, all of them ASCII.
-/

namespace SortableId

/-- The check that a text names a kind. -/
def Kind.accepts : List Char → Bool
  | [] => false
  | first :: rest =>
      first.isLower && rest.all (fun c => c.isLower || c.isDigit) &&
        decide (1 ≤ rest.length ∧ rest.length ≤ 30)

/-- The kind of thing that an identifier names. -/
structure Kind where
  name : String
  wellFormed : Kind.accepts name.toList = true
  deriving DecidableEq

namespace Kind

/-- The kind with the given name, if it is one. -/
def ofString? (name : String) : Option Kind :=
  if wellFormed : accepts name.toList = true then some ⟨name, wellFormed⟩ else none

/-- Kinds are ordered as their names. -/
instance : Ord Kind := ⟨fun left right => compare left.name right.name⟩

theorem eq_of_name_eq {left right : Kind} (same : left.name = right.name) : left = right := by
  cases left
  cases right
  cases same
  rfl

@[simp] theorem ofString?_name (kind : Kind) : ofString? kind.name = some kind := by
  simp [ofString?, kind.wellFormed]

/-- Only a well-formed name gives a kind, and it gives the kind of that name. -/
theorem ofString?_eq_some_iff {name : String} {kind : Kind} :
    ofString? name = some kind ↔ kind.name = name := by
  constructor
  · intro found
    unfold ofString? at found
    split at found
    · simp only [Option.some.injEq] at found
      rw [← found]
    · contradiction
  · rintro rfl
    exact ofString?_name kind

end Kind

end SortableId
